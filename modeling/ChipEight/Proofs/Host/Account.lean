import ChipEight.Proofs.Host.Turns
import ChipEight.Proofs.Session.Setting

/-
  What a turn asks of the host and tells the log.

  All pictures that are drawn in a turn are shown to the
  console, but only the last one gets to the window, once the
  time of the turn has passed. As no picture waits from before,
  what a turn asks of the host depends on the words it carries
  out, on the failure that is in its way and on nothing else.

  Key definitions include:
    * `ChipEight.ScreenCall.renders`
    * `ChipEight.lossRecords`
    * `ChipEight.Show.apart`
    * `ChipEight.Show.deedsIn`
    * `ChipEight.Show.toldIn`
    * `ChipEight.Show.picture?`
    * `ChipEight.Show.callsIn`
    * `ChipEight.Show.lostIn`
    * `ChipEight.Show.lapses`

  Main declarations:
    * `ChipEight.outcome_renderPicture`
    * `ChipEight.renders_of_mem_renderCalls`
    * `ChipEight.Session.pictures_advance`
    * `ChipEight.Show.staged_advanced`
    * `ChipEight.Show.frame_of_picture?`
    * `ChipEight.Show.callsIn_eq`
    * `ChipEight.Show.lostIn_eq`
    * `ChipEight.Show.eq_frameLost_of_mem_lostIn`
    * `ChipEight.Show.calls_turn`
    * `ChipEight.Show.log_turn`
-/

namespace ChipEight

------------------------------------------------------------
-- Bringing Pictures To The Window
------------------------------------------------------------

/-
  The calls for a picture come behind those made before, and
  the failure in its way, if any, is handed on.
-/
theorem outcome_renderPicture
    (padding : Nat)
    (frame : Frame)
    (failure : Option RenderFailure)
    (calls : Array ScreenCall) :
    (renderPicture padding frame failure).outcome calls =
      (failure.elim (.ok ()) .error,
        calls ++
          (renderCalls padding frame failure).toArray) := by
  cases failure with
  | none => rfl
  | some f =>
      rcases f with ⟨step, reason⟩
      cases step with
      | _ => rfl

/- Whether a call serves to show a picture. -/
def ScreenCall.renders : ScreenCall → Bool
  | .makeTexture => true
  | .copyTexture _ => true
  | .present => true
  | _ => false

/- All calls made for a picture serve to show it. -/
theorem renders_of_mem_renderCalls
    {padding : Nat}
    {frame : Frame}
    {failure : Option RenderFailure}
    {call : ScreenCall}
    (h : call ∈ renderCalls padding frame failure) :
    call.renders = true := by
  have hWhole :
      renderCalls padding frame failure <+:
        renderCalls padding frame none := by
    cases failure with
    | none => exact List.prefix_rfl
    | some f =>
        rcases f with ⟨step, reason⟩
        cases step with
        | _ => exact ⟨[_, _], rfl⟩
  have hAll :
      ∀ call ∈ renderCalls padding frame none,
        call.renders = true := by
    change
      ∀ call ∈ [ScreenCall.makeTexture, .copyTexture _, .present],
        call.renders = true
    simp [ScreenCall.renders]
  exact hAll call (hWhole.subset h)

/- What the log is told of a failure in the way, if any. -/
def lossRecords
    (failure : Option RenderFailure) : List Record :=
  (failure.map (fun f => .frameLost f.reason)).toList

namespace Show

variable (s : Show) (failure : Option RenderFailure)

/- The calls made for the picture that waits, if one does. -/
theorem calls_flush :
    (s.flush failure).calls.toList =
      s.calls.toList ++
        match s.staged with
        | none => []
        | some frame =>
            renderCalls s.padding frame failure := by
  unfold flush
  cases s.staged with
  | none => exact (List.append_nil _).symm
  | some frame =>
      simp only [outcome_renderPicture]
      cases failure with
      | none => exact Array.toList_append
      | some f => exact Array.toList_append

/- The log is told if it cannot be shown. -/
theorem log_flush :
    (s.flush failure).session.log.toList =
      s.session.log.toList ++
        match s.staged with
        | none => []
        | some _ => lossRecords failure := by
  unfold flush
  cases s.staged with
  | none => exact (List.append_nil _).symm
  | some frame =>
      simp only [outcome_renderPicture]
      cases failure with
      | none => exact (List.append_nil _).symm
      | some f => exact Array.toList_push

end Show

------------------------------------------------------------
-- Pictures While Time Passes
------------------------------------------------------------

namespace Session

variable {κ : Type} [Controls κ]

/-
  What is exchanged while time passes is what would be with
  nothing exchanged before.
-/
theorem exchangedSince_advance
    (s : Session κ)
    (elapsed : Nat) :
    let fresh := Session.initial s.engine s.controls
    (s.advance elapsed).1.exchangedSince s =
      (fresh.advance elapsed).1.exchanges.toList := by
  intro fresh
  let p := Setting.behind κ s.exchanges s.log
  have hPlaced : fresh.placed p = s :=
    s.placed_initial
  have hAdvance := fresh.advance_placed p elapsed
  rw [hPlaced] at hAdvance
  apply exchangedSince_eq
  rw [hAdvance]
  exact Array.toList_append

/-
  The pictures that are shown while time passes are those that
  are drawn, and the last of them is the picture there is
  afterwards; with none, the picture stays.

  Nothing else need have been exchanged before. The picture
  there is before is taken for one that was shown, for then the
  console shows it and the invariant of runs applies.
-/
theorem pictures_advance
    (s : Session κ)
    (elapsed : Nat) :
    let drawn := picturesDrawn (s.deedsOf (.advance elapsed))
    picturesOf ((s.advance elapsed).1.exchangedSince s) =
        drawn ∧
      drawn.getLast?.getD s.engine.machine.frame =
        (s.advance elapsed).1.engine.machine.frame := by
  intro drawn
  let first : Exchange :=
    .frameShown s.engine.machine.frame
  let clearing : Deed :=
    { word := 0x00E0
      after := s.engine.machine }
  let fresh := Session.initial s.engine s.controls
  let p := Setting.behind κ s.exchanges s.log
  let q := Setting.behind κ #[first] #[]
  have hFresh : fresh.placed p = s :=
    s.placed_initial
  have hDeeds :
      fresh.deedsOf (.advance elapsed) =
        s.deedsOf (.advance elapsed) := by
    rw [← fresh.deedsOf_advance_placed p, hFresh]
  have hEngine :
      (fresh.advance elapsed).1.engine =
        (s.advance elapsed).1.engine := by
    have hAdvance := fresh.advance_placed p elapsed
    rw [hFresh] at hAdvance
    rw [hAdvance]
    rfl
  have hList (t : Session κ) :
      (t.placed q).exchanges.toList =
        first :: t.exchanges.toList := by
    simp [placed, q, Setting.behind]
  have hPictures (talk : List Exchange) :
      picturesOf (first :: talk) =
        s.engine.machine.frame :: picturesOf talk :=
    rfl
  have hStart :
      (fresh.placed q).engine.face.Shown
        (fresh.placed q).exchanges.toList [clearing] := by
    rw [hList]
    exact ⟨rfl, rfl⟩
  have hShown := Face.kept_shown.advance hStart elapsed
  rw [fresh.advance_placed q,
    fresh.deedsOf_advance_placed q, hList, hDeeds] at hShown
  have hDrawn :
      picturesDrawn
          ([clearing] ++ s.deedsOf (.advance elapsed)) =
        s.engine.machine.frame :: drawn :=
    rfl
  have hSame := hShown.drawn
  have hLatest := hShown.latest
  rw [hDrawn, hPictures] at hSame
  rw [hPictures, hSame, List.getLast?_cons] at hLatest
  have hDrawnAll := (List.cons.inj hSame).2
  refine ⟨?_, ?_⟩
  · rw [exchangedSince_advance]
    exact hDrawnAll
  · rw [← hEngine]
    exact hLatest

end Session

namespace Show

------------------------------------------------------------
-- Accounts
------------------------------------------------------------

/- The session of a turn, with nothing told before. -/
def apart
    (s : Show)
    (t : Turn) : Session Seat :=
  Session.initial s.session.engine (s.seated t.events)

/- What was told before is the setting of a turn. -/
theorem entered_eq_placed
    (s : Show)
    (t : Turn) :
    s.entered t =
      (s.apart t).placed
        (.behind Seat s.session.exchanges s.session.log) :=
  (Session.placed_initial (s.entered t)).symm

/- What is carried out in a turn. -/
def deedsIn
    (s : Show)
    (t : Turn) : List Deed :=
  (s.entered t).deedsOf (.advance (s.elapsed t))

/- What the engine tells the log in a turn. -/
def toldIn
    (s : Show)
    (t : Turn) : List Record :=
  (s.entered t).toldOf (.advance (s.elapsed t))

/- The picture that a turn has for the window, if any. -/
def picture?
    (s : Show)
    (t : Turn) : Option Frame :=
  (picturesDrawn (s.deedsIn t)).getLast?

/-
  What a turn that does not fault asks of the host: to show
  its picture, if it has one, and to let a sleep pass.
-/
def callsIn
    (s : Show)
    (t : Turn) : List ScreenCall :=
  (match s.picture? t with
    | none => []
    | some frame =>
        renderCalls s.padding frame t.failure) ++
    [.sleep nap]

/- What the log is told of a picture that is not shown. -/
def lostIn
    (s : Show)
    (t : Turn) : List Record :=
  match s.picture? t with
  | none => []
  | some _ => lossRecords t.failure

/- The times that the turns let pass that are played. -/
def lapses
    (s : Show)
    (turns : List Turn) : List Nat :=
  if s.session.engine.isHalted then
    []
  else
    match turns with
    | [] => []
    | t :: rest =>
        s.elapsed t ::
          match s.turn t with
          | (_, some _) => []
          | (later, none) => later.lapses rest

/- Without turns, no time passes. -/
theorem lapses_nil (s : Show) : s.lapses [] = [] := by
  unfold lapses
  split
  · rfl
  · rfl

/- Nor does it for an engine that has halted. -/
theorem lapses_of_halted
    {s : Show}
    (h : s.session.engine.isHalted = true)
    (turns : List Turn) :
    s.lapses turns = [] := by
  unfold lapses
  rw [if_pos h]

/- Behind a turn that faults, no more time passes. -/
theorem lapses_of_fault
    {s later : Show}
    {t : Turn}
    {fault : Fault}
    (h : ¬ s.session.engine.isHalted = true)
    (hTurn : s.turn t = (later, some fault))
    (rest : List Turn) :
    s.lapses (t :: rest) = [s.elapsed t] := by
  rw [lapses, if_neg h, hTurn]

/- After any other turn, time passes in the rest. -/
theorem lapses_of_none
    {s later : Show}
    {t : Turn}
    (h : ¬ s.session.engine.isHalted = true)
    (hTurn : s.turn t = (later, none))
    (rest : List Turn) :
    s.lapses (t :: rest) =
      s.elapsed t :: later.lapses rest := by
  rw [lapses, if_neg h, hTurn]

------------------------------------------------------------
-- Turns
------------------------------------------------------------

variable {s : Show} {t : Turn}

/- The pictures shown in a turn are those drawn in it. -/
theorem picturesOf_saidIn
    (s : Show)
    (t : Turn) :
    picturesOf (s.saidIn t) = picturesDrawn (s.deedsIn t) :=
  ((s.entered t).pictures_advance (s.elapsed t)).1

/- The last of them waits, in place of one from before. -/
theorem staged_advanced
    (s : Show)
    (t : Turn) :
    (s.advanced t).staged = (s.picture? t).or s.staged := by
  rw [advanced, foldl_stage, picturesOf_saidIn]
  rfl

/- With none from before, it is the picture of the turn. -/
theorem staged_advanced_of_unstaged
    (h : s.staged = none)
    (t : Turn) :
    (s.advanced t).staged = s.picture? t := by
  rw [staged_advanced, h, Option.or_none]

/-
  The picture of a turn is the one there is once its time has
  passed; if it has none, the picture is still the old one.
-/
theorem frame_of_picture?
    (s : Show)
    (t : Turn) :
    (s.advanced t).session.engine.machine.frame =
      (s.picture? t).getD s.session.engine.machine.frame :=
  ((s.entered t).pictures_advance (s.elapsed t)).2.symm

/- A turn has no picture if and only if it draws nothing. -/
theorem picture?_eq_none_iff
    (s : Show)
    (t : Turn) :
    s.picture? t = none ↔
      ∀ deed ∈ s.deedsIn t, deed.draws = false := by
  rw [picture?, List.getLast?_eq_none_iff, picturesDrawn,
    List.map_eq_nil_iff, List.filter_eq_nil_iff]
  simp only [Bool.not_eq_true]

/- A turn that draws has the picture of its end. -/
theorem picture?_eq
    (s : Show)
    (t : Turn) :
    s.picture? t =
      if (s.deedsIn t).any Deed.draws then
        some (s.advanced t).session.engine.machine.frame
      else
        none := by
  rw [frame_of_picture?]
  cases hPicture : s.picture? t with
  | none =>
      have hDraws := (s.picture?_eq_none_iff t).mp hPicture
      rw [if_neg]
      intro hAny
      rcases List.any_eq_true.mp hAny with
        ⟨deed, hMem, hDraw⟩
      rw [hDraws deed hMem] at hDraw
      cases hDraw
  | some frame =>
      rw [if_pos]
      · rfl
      · by_contra hAny
        have hNone : s.picture? t = none := by
          apply (s.picture?_eq_none_iff t).mpr
          intro deed hMem
          rw [← Bool.not_eq_true]
          intro hDraw
          exact hAny (List.any_eq_true.mpr ⟨deed, hMem, hDraw⟩)
        rw [hNone] at hPicture
        cases hPicture

/-
  A turn makes an attempt to show a picture if one of its
  words draws, and the picture is the one of its end.
-/
theorem callsIn_eq
    (s : Show)
    (t : Turn) :
    s.callsIn t =
      (if (s.deedsIn t).any Deed.draws then
        renderCalls s.padding
          (s.advanced t).session.engine.machine.frame
          t.failure
      else
        []) ++
        [.sleep 1000000] := by
  rw [callsIn, picture?_eq]
  cases (s.deedsIn t).any Deed.draws with
  | true => rfl
  | false => rfl

/- The log is told if this is the attempt that fails. -/
theorem lostIn_eq
    (s : Show)
    (t : Turn) :
    s.lostIn t =
      if (s.deedsIn t).any Deed.draws then
        lossRecords t.failure
      else
        [] := by
  rw [lostIn, picture?_eq]
  cases (s.deedsIn t).any Deed.draws with
  | true => rfl
  | false => rfl

/- All it can be told is why the picture was not shown. -/
theorem eq_frameLost_of_mem_lostIn
    {record : Record}
    (h : record ∈ s.lostIn t) :
    ∃ f,
      t.failure = some f ∧ record = .frameLost f.reason := by
  unfold lostIn lossRecords at h
  split at h
  · cases h
  · rw [Option.mem_toList, Option.map_eq_some_iff] at h
    rcases h with ⟨f, hFailure, rfl⟩
    exact ⟨f, hFailure, rfl⟩

/- A turn makes the calls of its account. -/
theorem calls_turn
    (hStaged : s.staged = none)
    (h : (s.turn t).2 = none) :
    (s.turn t).1.calls.toList =
      s.calls.toList ++ s.callsIn t := by
  have hSleep (s : Show) :
      s.sleep.calls.toList = s.calls.toList ++ [.sleep nap] :=
    Array.toList_push
  rw [turn_of_none h, hSleep, calls_flush,
    staged_advanced_of_unstaged hStaged, callsIn,
    ← List.append_assoc]
  rfl

/- A turn that faults makes no call. -/
theorem calls_turn_of_fault
    {fault : Fault}
    (h : (s.turn t).2 = some fault) :
    (s.turn t).1.calls = s.calls := by
  rw [turn_of_some h]
  rfl

/- While the time of a turn passes, the engine tells the log. -/
theorem log_advanced
    (s : Show)
    (t : Turn) :
    (s.advanced t).session.log.toList =
      s.session.log.toList ++ s.toldIn t :=
  (s.entered t).log_advance (s.elapsed t)

/- Then the host tells of the picture that is not shown. -/
theorem log_turn
    (hStaged : s.staged = none)
    (h : (s.turn t).2 = none) :
    (s.turn t).1.session.log.toList =
      s.session.log.toList ++ (s.toldIn t ++ s.lostIn t) := by
  have hSleep (s : Show) : s.sleep.session = s.session := rfl
  rw [turn_of_none h, hSleep, log_flush, log_advanced,
    staged_advanced_of_unstaged hStaged, lostIn,
    List.append_assoc]

/- The rows of textures are padded as before. -/
theorem padding_turn
    (s : Show)
    (t : Turn) :
    (s.turn t).1.padding = s.padding := by
  cases hFault : (s.turn t).2 with
  | some fault =>
      rw [turn_of_some hFault]
      rfl
  | none =>
      rw [turn_of_none hFault]
      exact padding_flush _ _

end Show

end ChipEight
