import ChipEight.Proofs.Console.Tone
import ChipEight.Proofs.Instruction.Forms
import ChipEight.Proofs.Machine.Effects

/-
  The console always shows the picture of the machine.

  Two kinds of words change the picture: the one that blanks
  it and those that draw a sprite. Both have the new picture
  shown at once, and nothing else has a picture shown or
  changes it. So what was shown last is the picture there is.

  Key definitions include:
    * `ChipEight.Deed.draws`
    * `ChipEight.picturesOf`
    * `ChipEight.picturesDrawn`
    * `ChipEight.Face.Shown`
    * `ChipEight.Session.Showing`

  Main declarations:
    * `ChipEight.Machine.frame_execute`
    * `ChipEight.Face.kept_shown`
    * `ChipEight.Session.exchanges_step_of_draws`
    * `ChipEight.Session.picture_is_shown`
-/

namespace ChipEight

------------------------------------------------------------
-- Words That Draw
------------------------------------------------------------

/- Whether a word is `00E0` or of the form `Dxyn`. -/
def Word.draws (w : Word) : Bool :=
  w == 0x00E0 || w.toNat / 4096 == 0xD

/- Whether a word that was carried out draws. -/
def Deed.draws (deed : Deed) : Bool :=
  deed.word.draws

/- The words that draw are those with a picture to show. -/
theorem Word.draws_iff
    {w : Word}
    {instruction : Instruction}
    (h : Instruction.decode? w = some instruction) :
    w.draws = true ↔ instruction.aftermath = .showFrame := by
  unfold Word.draws
  rw [Bool.or_eq_true, beq_iff_eq, beq_iff_eq]
  constructor
  · rintro (rfl | hClass)
    · cases h
      rfl
    · rw [Instruction.decode?_of_class_draw hClass] at h
      cases h
      rfl
  · intro hShow
    cases instruction with
    | clearScreen =>
        exact Or.inl (Instruction.encode_of_decode? h).symm
    | draw x y rows =>
        exact Or.inr (Instruction.class_of_decode?_draw h)
    | _ => cases hShow

namespace Machine

------------------------------------------------------------
-- Instructions That Do Not Draw
------------------------------------------------------------

/-
  An instruction with no picture to show leaves the picture as
  it is.
-/
theorem frame_execute
    {m after : Machine}
    {held : Bool}
    {instruction : Instruction}
    (h : m.execute held instruction = .ok after)
    (hNot : instruction.aftermath ≠ .showFrame) :
    after.frame = m.frame := by
  cases instruction with
  | clearScreen => exact absurd rfl hNot
  | draw x y rows => exact absurd rfl hNot
  | returnFromCall =>
      exact (sameButProcessor_returnFromCall h).frame_eq
  | call target => exact (sameButProcessor_call h).frame_eq
  | combine op x y =>
      cases h
      exact (m.sameButProcessor_combine op x y).frame_eq
  | restoreRegisters x =>
      cases h
      exact (m.sameButProcessor_restore x).frame_eq
  | skipIf test =>
      cases h
      exact (m.sameButProcessor_skip _).frame_eq
  | _ =>
      cases h
      rfl

/- An instruction with a picture to show asks for no key. -/
theorem asks_of_showFrame
    {instruction : Instruction}
    (h : instruction.aftermath = .showFrame)
    (m : Machine)
    (held : Bool) :
    m.asks instruction held = [] := by
  cases instruction with
  | clearScreen => rfl
  | draw x y rows => rfl
  | _ => cases h

/- It leaves the timers as they are. -/
theorem timers_execute_of_showFrame
    {m after : Machine}
    {held : Bool}
    {instruction : Instruction}
    (h : m.execute held instruction = .ok after)
    (hShow : instruction.aftermath = .showFrame) :
    after.timers = m.timers := by
  cases instruction with
  | clearScreen =>
      cases h
      rfl
  | draw x y rows =>
      cases h
      rfl
  | _ => cases hShow

end Machine

------------------------------------------------------------
-- Pictures
------------------------------------------------------------

/- The picture of an exchange, if it showed one. -/
def Exchange.frame? : Exchange → Option Frame
  | .frameShown frame => some frame
  | _ => none

/- The pictures that were shown, in order. -/
def picturesOf (talk : List Exchange) : List Frame :=
  talk.filterMap Exchange.frame?

/- The pictures that were drawn, in order. -/
def picturesDrawn (deeds : List Deed) : List Frame :=
  (deeds.filter Deed.draws).map (fun deed => deed.after.frame)

/- Pictures are collected in parts. -/
@[simp]
theorem picturesOf_append (first second : List Exchange) :
    picturesOf (first ++ second) =
      picturesOf first ++ picturesOf second :=
  List.filterMap_append

/- One more deed may have drawn one more picture. -/
theorem picturesDrawn_concat
    (deeds : List Deed)
    (deed : Deed) :
    picturesDrawn (deeds ++ [deed]) =
      picturesDrawn deeds ++
        if deed.draws then [deed.after.frame] else [] := by
  unfold picturesDrawn
  rw [List.filter_append, List.map_append]
  by_cases h : deed.draws = true
  · simp [h]
  · simp [h]

/- Questions show no picture. -/
theorem picturesOf_of_questions
    {talk : List Exchange}
    (h : ∀ x ∈ talk, x.isQuestion = true) :
    picturesOf talk = [] := by
  apply List.filterMap_eq_nil_iff.mpr
  intro x hMem
  have hQuestion := h x hMem
  cases x with
  | frameShown frame => cases hQuestion
  | _ => rfl

/- A switch of the tone shows no picture. -/
theorem picturesOf_toneSwitch (toneOn audible : Bool) :
    picturesOf (toneSwitch toneOn audible) = [] := by
  unfold toneSwitch
  split
  · rfl
  · cases audible with
    | true => rfl
    | false => rfl

/- An instruction shows the picture it has to show. -/
theorem picturesOf_tells
    (aftermath : Aftermath)
    (after : Machine)
    (press : Option UInt8) :
    picturesOf (aftermath.tells after press) =
      if aftermath = .showFrame then
        [after.frame]
      else
        [] := by
  cases aftermath with
  | goOn => rfl
  | showFrame => rfl
  | awaitKey x => rfl

------------------------------------------------------------
-- Shown Faces
------------------------------------------------------------

/-
  Whether the pictures that were shown are those that were
  drawn, the last of them being the picture there is. Before
  the first, the picture is blank.
-/
structure Face.Shown
    (face : Face)
    (talk : List Exchange)
    (deeds : List Deed) : Prop where
  drawn : picturesOf talk = picturesDrawn deeds
  latest :
    (picturesOf talk).getLast?.getD Frame.blank = face.frame

namespace Face

variable {face left : Face}
variable {talk new : List Exchange}
variable {deeds all : List Deed}

/- What draws and shows nothing leaves the picture shown. -/
theorem Shown.still
    (h : face.Shown talk deeds)
    (hFrame : left.frame = face.frame)
    (hNew : picturesOf new = [])
    (hAll : picturesDrawn all = picturesDrawn deeds) :
    left.Shown (talk ++ new) all := by
  refine ⟨?_, ?_⟩
  · rw [picturesOf_append, hNew, List.append_nil, hAll]
    exact h.drawn
  · rw [picturesOf_append, hNew, List.append_nil, hFrame]
    exact h.latest

/- A picture that is drawn and shown is the one there is. -/
theorem Shown.fresh
    (h : face.Shown talk deeds)
    (hNew : picturesOf new = [left.frame])
    (hAll :
      picturesDrawn all =
        picturesDrawn deeds ++ [left.frame]) :
    left.Shown (talk ++ new) all := by
  refine ⟨?_, ?_⟩
  · rw [picturesOf_append, hNew, hAll, h.drawn]
  · rw [picturesOf_append, hNew, List.getLast?_concat]
    rfl

/- Whatever happens, the picture there is stays shown. -/
theorem kept_shown : Kept Shown where
  start := ⟨rfl, rfl⟩
  asks := by
    intro face talk asked deeds h hAsked
    exact h.still rfl (picturesOf_of_questions hAsked) rfl
  carries := by
    intro e instruction held after talk deeds press hWord
      hRun h
    have hDraws := Word.draws_iff hWord
    have hNew :=
      picturesOf_tells instruction.aftermath after press
    by_cases hShow : instruction.aftermath = .showFrame
    · have hDeed : Word.draws e.machine.fetch = true :=
        hDraws.mpr hShow
      rw [if_pos hShow] at hNew
      apply h.fresh
      · rw [picturesOf_append, hNew, picturesOf_toneSwitch]
        rfl
      · rw [picturesDrawn_concat, Deed.draws, if_pos hDeed]
        rfl
    · have hDeed : ¬ Word.draws e.machine.fetch = true := by
        rw [hDraws]
        exact hShow
      have hFrame :
          after.frame = e.machine.passWord.frame :=
        Machine.frame_execute hRun hShow
      rw [if_neg hShow] at hNew
      apply h.still
      · exact hFrame
      · rw [picturesOf_append, hNew, picturesOf_toneSwitch]
        rfl
      · rw [picturesDrawn_concat, Deed.draws, if_neg hDeed,
          List.append_nil]
  ticks := by
    intro e talk deeds h timers
    exact h.still rfl (picturesOf_toneSwitch _ _) rfl

end Face

------------------------------------------------------------
-- Sessions That Show Their Picture
------------------------------------------------------------

/- No pixel of a blank picture is on. -/
theorem Frame.pixel_blank (x y : Nat) :
    blank.pixel x y = false := by
  simp [pixel, row, blank]

namespace Session

variable {κ : Type} [Controls κ]

/- What a deed leaves is the machine after the step. -/
theorem after_of_deed?
    {s : Session κ}
    {deed : Deed}
    (h : s.deed? = some deed) :
    deed.after = s.step.1.engine.machine := by
  unfold deed? at h
  split at h
  · cases h
    rfl
  · cases h

/-
  A step that draws asks whether to quit, shows the picture
  it leaves and says nothing else.
-/
theorem exchanges_step_of_draws
    {s : Session κ}
    {deed : Deed}
    (hTone :
      s.engine.toneOn = s.engine.machine.timers.audible)
    (hDeed : s.deed? = some deed)
    (hDraws : deed.draws = true) :
    s.step.1.exchanges.toList =
      s.exchanges.toList ++
        [.quitAsked false, .frameShown deed.after.frame] := by
  rcases s.outcome_step with ⟨talk, hExchanges, hOutcome⟩
  rw [hDeed] at hOutcome
  rw [hExchanges]
  generalize s.step.1.engine = left at hOutcome
  generalize s.step.2 = fault at hOutcome
  cases hOutcome with
  | carries instruction held press after hMode hWord hRun =>
      have hShow : instruction.aftermath = .showFrame :=
        (Word.draws_iff hWord).mp hDraws
      have hTimers :=
        Machine.timers_execute_of_showFrame hRun hShow
      have hSwitch :
          toneSwitch s.engine.toneOn after.timers.audible =
            [] := by
        rw [hTone, hTimers]
        exact if_pos rfl
      rw [Machine.asks_of_showFrame hShow, hShow, hSwitch]
      rfl

/-
  Whether the pictures shown in a run are those drawn by the
  words that were carried out, the latest of them is the
  picture there is, and the picture is blank before the first
  of them. If the next step draws, it shows what it has drawn
  at once.
-/
structure Showing
    (s : Session κ)
    (deeds : List Deed) : Prop where
  drawn :
    picturesOf s.exchanges.toList = picturesDrawn deeds
  count :
    (picturesOf s.exchanges.toList).length =
      deeds.countP Deed.draws
  latest :
    ∀ frame,
      (picturesOf s.exchanges.toList).getLast? =
          some frame →
        s.engine.machine.frame = frame
  blank :
    picturesOf s.exchanges.toList = [] →
      ∀ x y, s.engine.machine.frame.pixel x y = false
  next :
    ∀ deed,
      s.deed? = some deed →
        deed.draws = true →
          deed.after = s.step.1.engine.machine ∧
            s.step.1.exchanges.toList =
              s.exchanges.toList ++
                [.quitAsked false,
                  .frameShown deed.after.frame]

/- The session of a run shows its picture. -/
theorem showing_of_run
    {s : Session κ}
    {deeds : List Deed}
    (h : s.engine.Run s.exchanges.toList deeds) :
    s.Showing deeds := by
  have hShown := Face.kept_shown.run h
  have hLatest := hShown.latest
  refine ⟨hShown.drawn, ?_, ?_, ?_, ?_⟩
  · rw [hShown.drawn, picturesDrawn, List.length_map,
      List.countP_eq_length_filter]
  · intro frame hFrame
    rw [hFrame] at hLatest
    exact hLatest.symm
  · intro hNone x y
    rw [hNone] at hLatest
    have hBlank : s.engine.machine.frame = Frame.blank :=
      hLatest.symm
    rw [hBlank]
    exact Frame.pixel_blank x y
  · intro deed hDeed hDraws
    refine ⟨after_of_deed? hDeed, ?_⟩
    exact exchanges_step_of_draws h.toneOn_eq hDeed hDraws

/-
  The console never shows an old picture. At all times of a
  run, as well as after every further command and between any
  two beats that are made while time passes, the latest
  picture shown is the one there is, and one was shown for
  each word that drew, right after it.
-/
theorem picture_is_shown
    {s : Session κ}
    {deeds : List Deed}
    (hRun : s.engine.Run s.exchanges.toList deeds) :
    s.Showing deeds ∧
      (∀ command,
        (s.obey command).1.Showing
          (deeds ++ s.deedsOf command)) ∧
      ∀ elapsed,
        let due :=
          (s.engine.clocks.collect
            (min elapsed longestLapse)).due
        (s.advance elapsed).1.SameButClocks
            (s.makeAll due).1 ∧
          ∀ made,
            made <+: due →
              (s.makeAll made).1.Showing
                (deeds ++ s.deedsAmong made) := by
  refine ⟨?_, ?_, ?_⟩
  · exact showing_of_run hRun
  · intro command
    exact showing_of_run (.obey s command hRun)
  · intro elapsed due
    refine ⟨(s.makesDue_advance elapsed).session, ?_⟩
    intro made _
    exact showing_of_run (hRun.makeAll made)

/-
  A program that draws the digit zero has it shown, and its
  next word has a blank picture shown.
-/
theorem showing_digit_then_blank :
    let s :=
      (((Session.initial
        (Engine.switchedOn ⟨100, 60⟩ (Generator.ofSeed 7))
        Keypad.initial).obey
          (.load [0xD0, 0x15, 0x00, 0xE0])).1.obey .step).1
    (∃ deeds,
        s.engine.Run s.exchanges.toList deeds ∧
          s.Showing deeds ∧
          (s.obey .step).1.Showing
            (deeds ++ s.deedsOf .step)) ∧
      (picturesOf s.exchanges.toList).length = 1 ∧
      s.engine.machine.frame.pixel 0 0 = true ∧
      (picturesOf
        (s.obey .step).1.exchanges.toList).getLast? =
          some Frame.blank := by
  dsimp only
  have hNew :=
    Engine.Run.initial ⟨100, 60⟩ (Generator.ofSeed 7)
      Keypad.initial
  have hLoaded :=
    Engine.Run.obey _ (.load [0xD0, 0x15, 0x00, 0xE0]) hNew
  have hRun := Engine.Run.obey _ .step hLoaded
  rcases picture_is_shown hRun with ⟨hNow, hNext, _⟩
  refine ⟨⟨_, hRun, hNow, hNext .step⟩, ?_, ?_, ?_⟩
  · decide +kernel
  · decide +kernel
  · decide +kernel

end Session

end ChipEight
