import ChipEight.Proofs.Host.Account

/-
  Failures to show a picture stay in the window.

  What a failure changes are the calls that would show the
  picture, and the log, which is told of it once. The engine
  and the time that passes for it do not depend on either. So
  two shows from the same turns, one with failures and one
  without, go on alike and end alike. A picture is no longer
  kept once it was tried to show it, so one that fails is not
  shown later.

  Key definitions include:
    * `ChipEight.Turn.smooth`
    * `ChipEight.Record.tellsLoss`
    * `ChipEight.Show.Alike`
    * `ChipEight.Show.Compares`

  Main declarations:
    * `ChipEight.Show.Alike.turn`
    * `ChipEight.Show.Alike.compares`
    * `ChipEight.Show.Alike.play`
    * `ChipEight.Show.error_of_mem_lostIn`
    * `ChipEight.Show.failures_stay_in_window`
-/

namespace ChipEight

------------------------------------------------------------
-- Traces Of Failures
------------------------------------------------------------

/- The turn in which nothing keeps a picture from showing. -/
def Turn.smooth (t : Turn) : Turn :=
  { t with failure := none }

/- Whether a record tells of a picture that is not shown. -/
def Record.tellsLoss : Record → Bool
  | .frameLost _ => true
  | _ => false

/- The calls that do not serve to show a picture. -/
def plainCalls (calls : List ScreenCall) : List ScreenCall :=
  calls.filter (fun call => !call.renders)

/- The records that do not tell of a failure to do so. -/
def plainRecords (records : List Record) : List Record :=
  records.filter (fun record => !record.tellsLoss)

/- Plain calls are found in parts. -/
theorem plainCalls_append (first second : List ScreenCall) :
    plainCalls (first ++ second) =
      plainCalls first ++ plainCalls second :=
  List.filter_append first second

/- So are plain records. -/
theorem plainRecords_append (first second : List Record) :
    plainRecords (first ++ second) =
      plainRecords first ++ plainRecords second :=
  List.filter_append first second

/- All calls made for a picture serve to show it. -/
theorem plainCalls_renderCalls
    (padding : Nat)
    (frame : Frame)
    (failure : Option RenderFailure) :
    plainCalls (renderCalls padding frame failure) = [] := by
  apply List.filter_eq_nil_iff.mpr
  intro call hMem
  rw [renders_of_mem_renderCalls hMem]
  decide

namespace Show

/- Of the calls of a turn, only the sleep is a plain one. -/
theorem plainCalls_callsIn
    (s : Show)
    (t : Turn) :
    plainCalls (s.callsIn t) = [.sleep nap] := by
  rw [callsIn, plainCalls_append]
  cases s.picture? t with
  | none => rfl
  | some frame =>
      rw [plainCalls_renderCalls]
      rfl

/- An engine knows nothing of pictures that are not shown. -/
theorem tellsLoss_of_mem_toldIn
    {s : Show}
    {t : Turn}
    {record : Record}
    (h : record ∈ s.toldIn t) :
    record.tellsLoss = false := by
  rcases Session.isAside_or_of_mem_toldAmong h with
    hAside | ⟨line, rfl⟩
  · cases record with
    | frameLost reason => cases hAside
    | _ => rfl
  · rfl

/- So all it tells is plain. -/
theorem plainRecords_toldIn
    (s : Show)
    (t : Turn) :
    plainRecords (s.toldIn t) = s.toldIn t := by
  apply List.filter_eq_self.mpr
  intro record hMem
  rw [tellsLoss_of_mem_toldIn hMem]
  rfl

/- What the host adds to it is not. -/
theorem plainRecords_lostIn
    (s : Show)
    (t : Turn) :
    plainRecords (s.lostIn t) = [] := by
  apply List.filter_eq_nil_iff.mpr
  intro record hMem
  rcases eq_frameLost_of_mem_lostIn hMem with ⟨f, _, rfl⟩
  exact Bool.false_ne_true

/- In a smooth turn the host adds nothing. -/
theorem lostIn_smooth
    (s : Show)
    (t : Turn) :
    s.lostIn t.smooth = [] := by
  unfold lostIn
  split
  · rfl
  · rfl

------------------------------------------------------------
-- Shows That Are Alike
------------------------------------------------------------

/-
  Whether a rough show differs from a smooth one in the calls
  that show pictures and in what the log is told of failures
  to do so, and in nothing else.
-/
structure Alike (rough smooth : Show) : Prop where
  engine : rough.session.engine = smooth.session.engine
  controls : rough.session.controls = smooth.session.controls
  exchanges :
    rough.session.exchanges = smooth.session.exchanges
  padding : rough.padding = smooth.padding
  staged : rough.staged = smooth.staged
  watch : rough.watch = smooth.watch
  calls :
    plainCalls rough.calls.toList =
      plainCalls smooth.calls.toList
  log :
    plainRecords rough.session.log.toList =
      smooth.session.log.toList

/- A show whose log tells of no failure is like itself. -/
theorem alike_opening
    (engine : Engine)
    (scale : UInt32)
    (padding : Nat) :
    (opening engine scale padding none).Alike
      (opening engine scale padding none) :=
  ⟨rfl, rfl, rfl, rfl, rfl, rfl, rfl, rfl⟩

namespace Alike

variable {rough smooth : Show}

/- One of two shows that are alike halts if the other does. -/
theorem halted_iff
    (h : rough.Alike smooth) :
    rough.session.engine.isHalted = true ↔
      smooth.session.engine.isHalted = true := by
  rw [h.engine]

/- Shows that are alike enter a turn alike. -/
theorem apart_eq
    (h : rough.Alike smooth)
    (t : Turn) :
    rough.apart t = smooth.apart t.smooth := by
  unfold apart seated
  rw [h.engine, h.controls]
  rfl

/- They let the same time pass in it. -/
theorem elapsed_eq
    (h : rough.Alike smooth)
    (t : Turn) :
    rough.elapsed t = smooth.elapsed t.smooth := by
  unfold elapsed seated
  rw [h.watch, h.controls]
  rfl

/- The same is exchanged in it. -/
theorem saidIn_eq
    (h : rough.Alike smooth)
    (t : Turn) :
    rough.saidIn t = smooth.saidIn t.smooth := by
  have hSaid (s : Show) (t : Turn) :
      s.saidIn t =
        ((s.apart t).advance
          (s.elapsed t)).1.exchanges.toList :=
    (s.entered t).exchangedSince_advance (s.elapsed t)
  rw [hSaid, hSaid, h.apart_eq, h.elapsed_eq]

/- They carry out the same words. -/
theorem deedsIn_eq
    (h : rough.Alike smooth)
    (t : Turn) :
    rough.deedsIn t = smooth.deedsIn t.smooth := by
  unfold deedsIn
  rw [entered_eq_placed, entered_eq_placed,
    Session.deedsOf_advance_placed,
    Session.deedsOf_advance_placed, h.apart_eq, h.elapsed_eq]

/- Their engines tell the log the same. -/
theorem toldIn_eq
    (h : rough.Alike smooth)
    (t : Turn) :
    rough.toldIn t = smooth.toldIn t.smooth := by
  unfold toldIn
  rw [entered_eq_placed, entered_eq_placed,
    Session.toldOf_advance_placed,
    Session.toldOf_advance_placed, h.apart_eq, h.elapsed_eq]

/- They meet the same fault, if any. -/
theorem fault_eq
    (h : rough.Alike smooth)
    (t : Turn) :
    (rough.turn t).2 = (smooth.turn t.smooth).2 := by
  rw [fault_turn, fault_turn, entered_eq_placed,
    entered_eq_placed, Session.advance_placed,
    Session.advance_placed, h.apart_eq, h.elapsed_eq]

/- So they are still alike once the time has passed. -/
theorem advanced
    (h : rough.Alike smooth)
    (t : Turn) :
    (rough.advanced t).Alike (smooth.advanced t.smooth) := by
  have hSession (s : Show) (t : Turn) :
      (s.advanced t).session =
        ((s.apart t).advance (s.elapsed t)).1.placed
          (.behind Seat s.session.exchanges
            s.session.log) := by
    rw [Show.advanced, entered_eq_placed,
      Session.advance_placed]
  refine ⟨?_, ?_, ?_, h.padding, ?_, ?_, h.calls, ?_⟩
  · rw [hSession, hSession, h.apart_eq, h.elapsed_eq]
    rfl
  · rw [hSession, hSession, h.apart_eq, h.elapsed_eq]
    rfl
  · rw [hSession, hSession, h.apart_eq, h.elapsed_eq,
      h.exchanges]
    rfl
  · rw [Show.advanced, Show.advanced, h.saidIn_eq, h.staged]
  · rw [Show.advanced, Show.advanced, h.watch]
    rfl
  · rw [log_advanced, log_advanced, h.toldIn_eq,
      plainRecords_append, plainRecords_toldIn]
    exact congrArg (· ++ _) h.log

/- And so they are at the end of the turn. -/
theorem turn
    (h : rough.Alike smooth)
    (hStaged : rough.staged = none)
    (t : Turn) :
    (rough.turn t).1.Alike (smooth.turn t.smooth).1 := by
  have hTime := h.advanced t
  cases hFault : (rough.turn t).2 with
  | some fault =>
      have hFair := (h.fault_eq t).symm.trans hFault
      rw [turn_of_some hFault, turn_of_some hFair]
      exact hTime
  | none =>
      have hFair := (h.fault_eq t).symm.trans hFault
      have hWaiting := h.staged.symm.trans hStaged
      refine ⟨?_, ?_, ?_, ?_, ?_, ?_, ?_, ?_⟩
      · rw [engine_turn hFault, engine_turn hFair]
        exact hTime.engine
      · rw [controls_turn hFault, controls_turn hFair]
        exact hTime.controls
      · rw [exchanges_turn hFault, exchanges_turn hFair]
        exact hTime.exchanges
      · rw [padding_turn, padding_turn]
        exact h.padding
      · rw [staged_turn hFault, staged_turn hFair]
      · rw [turn_of_none hFault, turn_of_none hFair, sleep,
          sleep, watch_flush, watch_flush, hTime.watch]
      · rw [calls_turn hStaged hFault,
          calls_turn hWaiting hFair, plainCalls_append,
          plainCalls_append, h.calls, plainCalls_callsIn,
          plainCalls_callsIn]
      · rw [log_turn hStaged hFault, log_turn hWaiting hFair,
          lostIn_smooth, h.toldIn_eq, plainRecords_append,
          h.log, plainRecords_append, plainRecords_toldIn,
          plainRecords_lostIn]

/- Closing the window keeps them alike. -/
theorem close
    (h : rough.Alike smooth) :
    rough.close.Alike smooth.close := by
  refine
    ⟨h.engine, h.controls, h.exchanges, h.padding, h.staged,
      h.watch, h.calls, ?_⟩
  change
    plainRecords (rough.session.log.push .closing).toList =
      (smooth.session.log.push .closing).toList
  rw [Array.toList_push, Array.toList_push,
    plainRecords_append, h.log]
  rfl

/-
  Shows that are alike play on alike and end alike, and the
  same times pass in them; the induction is on the turns.
-/
theorem play
    (h : rough.Alike smooth)
    (hStaged : rough.staged = none)
    (turns : List Turn) :
    let other := turns.map Turn.smooth
    (rough.play turns).1.Alike (smooth.play other).1 ∧
      (rough.play turns).2 = (smooth.play other).2 ∧
      rough.lapses turns = smooth.lapses other := by
  intro other
  fun_induction Show.play rough turns generalizing smooth with
  | case1 turns rough hHalted =>
      have hFair := h.halted_iff.mp hHalted
      rw [play_of_halted hFair, lapses_of_halted hHalted,
        lapses_of_halted hFair]
      exact ⟨h.close, rfl, rfl⟩
  | case2 rough hNot =>
      have hFair := mt h.halted_iff.mpr hNot
      have hPlay : smooth.play other = (smooth, .unfinished) :=
        play_nil hFair
      rw [hPlay, lapses_nil]
      exact ⟨h, rfl, (lapses_nil smooth).symm⟩
  | case3 rough hNot t rest later fault hTurn =>
      have hFair := mt h.halted_iff.mpr hNot
      have hLater := h.turn hStaged t
      have hMet := h.fault_eq t
      rw [hTurn] at hLater hMet
      have hOther :
          smooth.turn t.smooth =
            ((smooth.turn t.smooth).1, some fault) :=
        Prod.ext rfl hMet.symm
      have hPlay :
          smooth.play other =
            ((smooth.turn t.smooth).1, .faulted fault) :=
        play_of_fault hFair hOther _
      refine ⟨?_, ?_, ?_⟩
      · rw [hPlay]
        exact hLater
      · rw [hPlay]
      · rw [lapses_of_fault hNot hTurn, h.elapsed_eq]
        exact (lapses_of_fault hFair hOther _).symm
  | case4 rough hNot t rest later hTurn ih =>
      have hFair := mt h.halted_iff.mpr hNot
      have hLater := h.turn hStaged t
      have hMet := h.fault_eq t
      rw [hTurn] at hLater hMet
      have hOther :
          smooth.turn t.smooth =
            ((smooth.turn t.smooth).1, none) :=
        Prod.ext rfl hMet.symm
      have hPlay :
          smooth.play other =
            (smooth.turn t.smooth).1.play
              (rest.map Turn.smooth) :=
        play_of_none hFair hOther _
      rcases ih hLater (staged_of_turn hTurn) with
        ⟨hAlike, hEnding, hLapses⟩
      refine ⟨?_, ?_, ?_⟩
      · rw [hPlay]
        exact hAlike
      · rw [hPlay]
        exact hEnding
      · rw [lapses_of_none hNot hTurn, h.elapsed_eq, hLapses]
        exact (lapses_of_none hFair hOther _).symm

end Alike

------------------------------------------------------------
-- Turns Compared
------------------------------------------------------------

/-
  How a turn with a failure compares with a smooth one. Both
  carry out the same words and meet the same fault. If they
  meet none, both try to show a picture if and only if one of
  the words drew, and it is the picture at the end of the
  turn, which is not kept for later; then both sleep. The log
  of the rough show is told more by one error, with the reason
  of the failure, if a picture could not be shown.
-/
structure Compares
    (rough smooth : Show)
    (t : Turn) : Prop where
  fault : (rough.turn t).2 = (smooth.turn t.smooth).2
  deeds : rough.deedsIn t = smooth.deedsIn t.smooth
  calls :
    (rough.turn t).2 = none →
      (rough.turn t).1.calls.toList =
        rough.calls.toList ++
          ((if (rough.deedsIn t).any Deed.draws then
            renderCalls rough.padding
              (rough.turn t).1.session.engine.machine.frame
              t.failure
          else
            []) ++
            [.sleep 1000000])
  smoothCalls :
    (rough.turn t).2 = none →
      (smooth.turn t.smooth).1.calls.toList =
        smooth.calls.toList ++
          ((if (rough.deedsIn t).any Deed.draws then
            renderCalls rough.padding
              (rough.turn t).1.session.engine.machine.frame
              none
          else
            []) ++
            [.sleep 1000000])
  faultCalls :
    ∀ fault,
      (rough.turn t).2 = some fault →
        (rough.turn t).1.calls = rough.calls ∧
          (smooth.turn t.smooth).1.calls = smooth.calls
  unkept :
    (rough.turn t).2 = none →
      (rough.turn t).1.staged = none
  log :
    ∃ told lost,
      plainRecords told = told ∧
        (smooth.turn t.smooth).1.session.log.toList =
          smooth.session.log.toList ++ told ∧
        (rough.turn t).1.session.log.toList =
          rough.session.log.toList ++ (told ++ lost) ∧
        lost.length =
          (if (rough.turn t).2 = none ∧
              (rough.deedsIn t).any Deed.draws = true ∧
              t.failure.isSome = true then
            1
          else
            0) ∧
        ∀ record ∈ lost,
          record.level = .error ∧
            ∃ f,
              t.failure = some f ∧
                record.message =
                  "unable to render frame: " ++ f.reason

/- A record of a loss is an error that has its reason. -/
theorem error_of_mem_lostIn
    {s : Show}
    {t : Turn}
    {record : Record}
    (h : record ∈ s.lostIn t) :
    record.level = .error ∧
      ∃ f,
        t.failure = some f ∧
          record.message =
            "unable to render frame: " ++ f.reason := by
  rcases eq_frameLost_of_mem_lostIn h with ⟨f, hFailure, rfl⟩
  exact ⟨rfl, f, hFailure, rfl⟩

/- There is one if there is a failure. -/
theorem length_lossRecords (failure : Option RenderFailure) :
    (lossRecords failure).length =
      if failure.isSome = true then 1 else 0 := by
  cases failure with
  | none => rfl
  | some f => rfl

/- This is how turns of shows that are alike compare. -/
theorem Alike.compares
    {rough smooth : Show}
    (h : rough.Alike smooth)
    (hStaged : rough.staged = none)
    (t : Turn) :
    rough.Compares smooth t where
  fault := h.fault_eq t
  deeds := h.deedsIn_eq t
  calls := by
    intro hNone
    rw [calls_turn hStaged hNone, callsIn_eq,
      engine_turn hNone]
  smoothCalls := by
    intro hNone
    have hFair := (h.fault_eq t).symm.trans hNone
    have hWaiting := h.staged.symm.trans hStaged
    rw [calls_turn hWaiting hFair, callsIn_eq,
      engine_turn hNone, h.deedsIn_eq, h.padding,
      (h.advanced t).engine]
    rfl
  faultCalls := by
    intro fault hFault
    have hFair := (h.fault_eq t).symm.trans hFault
    exact
      ⟨calls_turn_of_fault hFault, calls_turn_of_fault hFair⟩
  unkept := staged_turn
  log := by
    cases hFault : (rough.turn t).2 with
    | some fault =>
        have hFair := (h.fault_eq t).symm.trans hFault
        refine
          ⟨rough.toldIn t, [], rough.plainRecords_toldIn t,
            ?_, ?_, ?_, ?_⟩
        · rw [turn_of_some hFair, log_advanced, h.toldIn_eq]
        · rw [turn_of_some hFault, log_advanced,
            List.append_nil]
        · simp
        · intro record hMem
          cases hMem
    | none =>
        have hFair := (h.fault_eq t).symm.trans hFault
        have hWaiting := h.staged.symm.trans hStaged
        refine
          ⟨rough.toldIn t, rough.lostIn t,
            rough.plainRecords_toldIn t, ?_, ?_, ?_, ?_⟩
        · rw [log_turn hWaiting hFair, lostIn_smooth,
            h.toldIn_eq, List.append_nil]
        · rw [log_turn hStaged hFault]
        · rw [lostIn_eq]
          cases (rough.deedsIn t).any Deed.draws with
          | true => simp [length_lossRecords]
          | false => simp
        · intro record hMem
          exact error_of_mem_lostIn hMem

------------------------------------------------------------
-- Whole Shows
------------------------------------------------------------

/-
  Whichever turns fail to show their pictures, a show ends as
  it does without failures, with the same engine after every
  turn, the same times passed and the same calls made but for
  those that show pictures. Its log tells more by one error
  for every turn that drew and failed, and a turn in which no
  word draws makes no attempt to show anything.
-/
theorem failures_stay_in_window
    (engine : Engine)
    (scale : UInt32)
    (padding : Nat) :
    let run := Show.run engine scale padding none
    let start := opening engine scale padding none
    (∀ turns,
        let other := turns.map Turn.smooth
        (run turns).1.Alike (run other).1 ∧
          (run turns).2 = (run other).2 ∧
          start.lapses turns = start.lapses other) ∧
      ∀ past t,
        (run past).2 = .unfinished →
          (run past).1.Compares
            (run (past.map Turn.smooth)).1 t := by
  intro run start
  have hStart := alike_opening engine scale padding
  refine ⟨?_, ?_⟩
  · intro turns
    exact hStart.play rfl turns
  · intro past t hPast
    exact
      (hStart.play rfl past).1.compares
        (staged_play rfl hPast) t

/-
  A picture that cannot be copied into the window: the log has
  the reason, and the turn behind it, which draws nothing, does
  not try again.
-/
theorem lost_picture_stays_lost :
    let engine :=
      ((Session.initial
        (Engine.switchedOn ⟨100, 60⟩ (Generator.ofSeed 7))
        Seat.initial).load [0xD0, 0x15, 0x12, 0x02]).1.engine
    let first : Turn :=
      { nanos := 20000000
        events := []
        failure :=
          some { step := .copy, reason := "copy is broken" } }
    let second : Turn :=
      { nanos := 9000000
        events := [] }
    let run := Show.run engine 10 4 none
    let start := (run []).1
    let between := (run [first]).1
    (run []).2 = .unfinished ∧
      (run [first]).2 = .unfinished ∧
      between.session.engine =
        (run [first.smooth]).1.session.engine ∧
      (start.turn first).1.calls.toList =
        start.calls.toList ++
          ([.makeTexture] ++ [.sleep 1000000]) ∧
      (∃ told lost,
        (start.turn first).1.session.log.toList =
            start.session.log.toList ++ (told ++ [lost]) ∧
          lost.level = .error ∧
          lost.message =
            "unable to render frame: copy is broken") ∧
      (between.turn second).1.calls.toList =
        between.calls.toList ++ ([] ++ [.sleep 1000000]) := by
  intro engine first second run start between
  have hFacts :
      (run []).2 = .unfinished ∧
        (run [first]).2 = .unfinished ∧
        (start.turn first).2 = none ∧
        (between.turn second).2 = none ∧
        (start.deedsIn first).any Deed.draws = true ∧
        ¬ (between.deedsIn second).any Deed.draws = true := by
    decide +kernel
  rcases hFacts with
    ⟨hStart, hBetween, hFirst, hSecond, hDraws, hRests⟩
  rcases failures_stay_in_window engine 10 4 with
    ⟨hAlike, hCompares⟩
  have hFirstTurn := hCompares [] first hStart
  have hSecondTurn := hCompares [first] second hBetween
  have hFirstCalls := hFirstTurn.calls hFirst
  have hSecondCalls := hSecondTurn.calls hSecond
  rw [if_pos hDraws] at hFirstCalls
  rw [if_neg hRests] at hSecondCalls
  refine
    ⟨hStart, hBetween, (hAlike [first]).1.engine, hFirstCalls,
      ?_, hSecondCalls⟩
  rcases hFirstTurn.log with
    ⟨told, lost, _, _, hLog, hLength, hError⟩
  rw [if_pos ⟨hFirst, hDraws, rfl⟩] at hLength
  rcases List.length_eq_one_iff.mp hLength with
    ⟨record, rfl⟩
  rcases hError record (List.mem_singleton_self record) with
    ⟨hLevel, f, hFailure, hMessage⟩
  cases hFailure
  exact ⟨told, record, hLog, hLevel, hMessage⟩

end Show

end ChipEight
