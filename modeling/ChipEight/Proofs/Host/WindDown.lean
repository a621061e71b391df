import ChipEight.Proofs.Console.Wait
import ChipEight.Proofs.Host.Account
import ChipEight.Proofs.Session.Telling

/-
  What is left of a show once the player asks to quit.

  The keypad keeps the wish, and a step looks for it before it
  does anything else. So the first step that falls due halts
  the engine, and until then nothing but ticks can reach the
  machine: no word is carried out and no key is stored.

  Key definitions include:
    * `ChipEight.Turn.asksQuit`
    * `ChipEight.Machine.counted`
    * `ChipEight.Engine.farewell`
    * `ChipEight.Session.WindsDown`
    * `ChipEight.Show.IsQuiet`

  Main declarations:
    * `ChipEight.Show.quitting_seated`
    * `ChipEight.Session.WindsDown.makeAll`
    * `ChipEight.Show.windsDown_turn`
    * `ChipEight.Show.isQuiet_play_of_asksQuit`
-/

namespace ChipEight

------------------------------------------------------------
-- Asking To Quit
------------------------------------------------------------

/- Whether an event asks to quit. -/
def HostEvent.asksQuit : HostEvent → Bool
  | .quit => true
  | .keyDown (some key) => key == .escape
  | _ => false

/- Whether one of the events of a turn asks to quit. -/
def Turn.asksQuit (t : Turn) : Bool :=
  t.events.any HostEvent.asksQuit

namespace Keypad

/- Pressing a key is no wish to quit. -/
@[simp]
theorem quitting_press
    (k : Keypad)
    (key : UInt8) :
    (k.press key).quitting = k.quitting := by
  unfold press
  split
  · rfl
  · rfl

/- Nor is letting a key go. -/
@[simp]
theorem quitting_release
    (k : Keypad)
    (key : UInt8) :
    (k.release key).quitting = k.quitting := by
  unfold release
  split
  · rfl
  · rfl

end Keypad

namespace Seat

/- Of all keys, only the escape key asks to quit. -/
theorem quitting_keyDown
    (s : Seat)
    (key : HostKey) :
    (s.keyDown key).keypad.quitting =
      (s.keypad.quitting || key == .escape) := by
  unfold keyDown
  cases hKey : key.keypadKey? with
  | some k =>
      have hOther : (key == .escape) = false := by
        apply beq_eq_false_iff_ne.mpr
        rintro rfl
        cases hKey
      rw [hOther, Bool.or_false]
      exact s.keypad.quitting_press k
  | none =>
      cases key with
      | escape => exact (Bool.or_true _).symm
      | _ => exact (Bool.or_false _).symm

/- Letting a key of the host go is no wish to quit. -/
theorem quitting_keyUp
    (s : Seat)
    (key : HostKey) :
    (s.keyUp key).keypad.quitting = s.keypad.quitting := by
  unfold keyUp
  cases key.keypadKey? with
  | some k => exact s.keypad.quitting_release k
  | none =>
      cases key with
      | _ => rfl

/- A wish to quit stays, and an event may bring it. -/
theorem quitting_handle
    (s : Seat)
    (event : HostEvent) :
    (s.handle event).keypad.quitting =
      (s.keypad.quitting || event.asksQuit) := by
  cases event with
  | quit => exact (Bool.or_true _).symm
  | keyDown key =>
      cases key with
      | none => exact (Bool.or_false _).symm
      | some key => exact s.quitting_keyDown key
  | keyUp key =>
      refine Eq.trans ?_ (Bool.or_false _).symm
      cases key with
      | none => rfl
      | some key => exact s.quitting_keyUp key
  | other => exact (Bool.or_false _).symm

end Seat

/- The wish to quit after the events of a turn. -/
theorem Show.quitting_seated
    (s : Show)
    (events : List HostEvent) :
    (s.seated events).keypad.quitting =
      (s.session.controls.keypad.quitting ||
        events.any HostEvent.asksQuit) := by
  unfold seated
  generalize s.session.controls = seat
  induction events generalizing seat with
  | nil => exact (Bool.or_false _).symm
  | cons event rest ih =>
      rw [List.foldl_cons, ih, Seat.quitting_handle,
        List.any_cons, Bool.or_assoc]

------------------------------------------------------------
-- Winding Down
------------------------------------------------------------

/- A machine whose timers were counted down so often. -/
def Machine.counted
    (m : Machine)
    (ticks : Nat) : Machine :=
  { m with timers := m.timers.after ticks }

/- A machine that was not counted down is as it was. -/
theorem Machine.counted_zero (m : Machine) :
    m.counted 0 = m := by
  rw [counted, Timers.after_zero]

/- What the log tells of an engine that halts for a quit. -/
def Engine.farewell (e : Engine) : List Record :=
  [.quitRequested, .halted e.machine.processor.pc]

namespace Session

/-
  Whether a session winds down from a start: the player wants
  to quit, and since the start the timers were counted down so
  often and nothing else happened, but that the engine may
  have halted for the wish.
-/
structure WindsDown
    (start s : Session Seat)
    (ticks : Nat) : Prop where
  machine :
    s.engine.machine = start.engine.machine.counted ticks
  quitting : s.controls.keypad.quitting = true
  log :
    s.log.toList =
      start.log.toList ++
        if s.engine.isHalted then
          start.engine.farewell
        else
          []

namespace WindsDown

variable {start s : Session Seat} {ticks : Nat}

/- An engine that has not halted has told nothing. -/
theorem log_of_not_halted
    (h : start.WindsDown s ticks)
    (hNot : ¬ s.engine.isHalted = true) :
    s.log = start.log := by
  have hLog := h.log
  rw [if_neg hNot, List.append_nil] at hLog
  exact Array.toList_inj.mp hLog

/- An engine that has halted has told why. -/
theorem log_of_halted
    (h : start.WindsDown s ticks)
    (hHalted : s.engine.isHalted = true) :
    s.log.toList =
      start.log.toList ++ start.engine.farewell := by
  rw [h.log, if_pos hHalted]

/- Ticks are all that changes the machine. -/
theorem tick
    (h : start.WindsDown s ticks) :
    ∃ later, start.WindsDown s.tick later := by
  cases hHalted : s.engine.isHalted with
  | true =>
      rw [tick_of_halted hHalted]
      exact ⟨ticks, h⟩
  | false =>
      have hEngine := (exchanges_tick hHalted).1
      refine ⟨ticks + 1, ?_, ?_, ?_⟩
      · rw [hEngine, h.machine]
        simp only [Machine.counted, Timers.tick_after]
      · rw [controls_tick]
        exact h.quitting
      · rw [log_tick, hEngine]
        exact h.log

/- A step does nothing but halt the engine. -/
theorem step
    (h : start.WindsDown s ticks) :
    s.step.2 = none ∧
      s.step.1.engine.isHalted = true ∧
      start.WindsDown s.step.1 ticks := by
  cases hHalted : s.engine.isHalted with
  | true =>
      rw [step_of_halted hHalted]
      exact ⟨rfl, hHalted, h⟩
  | false =>
      have hNot : ¬ s.engine.isHalted = true := by
        simp [hHalted]
      have hHalt :
          (s.askQuit.2.note .quitRequested).halt =
            ((s.askQuit.2.note .quitRequested).note
              (.halted
                s.engine.machine.processor.pc)).setMode
                  .halted :=
        halt_of_not_halted hHalted
      rw [step_of_quit hHalted h.quitting, hHalt]
      refine ⟨rfl, rfl, h.machine, h.quitting, ?_⟩
      change
        ((s.log.push .quitRequested).push
          (.halted s.engine.machine.processor.pc)).toList =
            start.log.toList ++ start.engine.farewell
      rw [Array.toList_push, Array.toList_push,
        h.log_of_not_halted hNot, h.machine,
        List.append_assoc]
      rfl

/- A step carries no word out. -/
theorem deed?_eq_none
    (h : start.WindsDown s ticks) :
    s.deed? = none := by
  apply deed?_of_not
  exact Or.inr (Or.inl h.quitting)

/- The beats that are made wind the session down. -/
theorem makeAll
    (h : start.WindsDown s ticks)
    (beats : List Beat) :
    (s.makeAll beats).2 = [] ∧
      s.deedsAmong beats = [] ∧
      (.cycle ∈ beats →
        (s.makeAll beats).1.engine.isHalted = true) ∧
      ∃ later, start.WindsDown (s.makeAll beats).1 later := by
  induction beats generalizing s ticks with
  | nil =>
      refine ⟨rfl, rfl, ?_, ticks, h⟩
      intro hMem
      cases hMem
  | cons beat rest ih =>
      rw [makeAll_cons, deedsAmong]
      cases beat with
      | cycle =>
          rcases h.step with ⟨hFault, hHalted, hStep⟩
          rcases ih hStep with ⟨hFaults, hDeeds, _, hRest⟩
          rw [make, hFault, hFaults, deedOf?,
            h.deed?_eq_none, hDeeds]
          refine ⟨rfl, rfl, ?_, hRest⟩
          intro _
          rw [makeAll_of_halted hHalted]
          exact hHalted
      | tick =>
          rcases h.tick with ⟨later, hTick⟩
          rcases ih hTick with
            ⟨hFaults, hDeeds, hCycle, hRest⟩
          rw [make, hFaults, hDeeds]
          refine ⟨rfl, rfl, ?_, hRest⟩
          intro hMem
          rcases List.mem_cons.mp hMem with hSame | hLater
          · cases hSame
          · exact hCycle hLater

/- Clocks have no part in it. -/
theorem sameButClocks
    {t : Session Seat}
    (h : start.WindsDown s ticks)
    (hSame : s.SameButClocks t) :
    start.WindsDown t ticks := by
  rw [← hSame]
  exact ⟨h.machine, h.quitting, h.log⟩

/- Time that passes winds the session down. -/
theorem advance
    (h : start.WindsDown s ticks)
    (elapsed : Nat) :
    (s.advance elapsed).2 = none ∧
      s.deedsOf (.advance elapsed) = [] ∧
      (.cycle ∈
          (s.engine.clocks.collect
            (min elapsed longestLapse)).due →
        (s.advance elapsed).1.engine.isHalted = true) ∧
      ∃ later,
        start.WindsDown (s.advance elapsed).1 later := by
  have hDue := s.makesDue_advance elapsed
  have hSame := hDue.session
  rcases h.makeAll
      (s.engine.clocks.collect
        (min elapsed longestLapse)).due with
    ⟨hFaults, hDeeds, hCycle, later, hMade⟩
  refine ⟨?_, hDeeds, ?_, later, ?_⟩
  · rw [← Option.toList_eq_nil_iff, ← hFaults]
    exact hDue.faults
  · rw [hSame.isHalted_eq]
    exact hCycle
  · exact hMade.sameButClocks hSame.symm

end WindsDown

end Session

------------------------------------------------------------
-- Quiet Ends
------------------------------------------------------------

namespace Show

variable {s : Show} {t : Turn}
variable {start : Session Seat} {ticks : Nat}

/- A turn that asks to quit begins to wind down. -/
theorem windsDown_entered_of_asksQuit
    (hNot : ¬ s.session.engine.isHalted = true)
    (h : t.asksQuit = true) :
    s.session.WindsDown (s.entered t) 0 := by
  refine ⟨?_, ?_, ?_⟩
  · rw [Machine.counted_zero]
    rfl
  · change (s.seated t.events).keypad.quitting = true
    rw [quitting_seated]
    exact Bool.or_eq_true_iff.mpr (Or.inr h)
  · change
      s.session.log.toList =
        s.session.log.toList ++
          if s.session.engine.isHalted then
            s.session.engine.farewell
          else
            []
    rw [if_neg hNot, List.append_nil]

/- The events of a turn do not revoke the wish to quit. -/
theorem windsDown_entered
    (h : start.WindsDown s.session ticks)
    (t : Turn) :
    start.WindsDown (s.entered t) ticks := by
  refine ⟨h.machine, ?_, h.log⟩
  change (s.seated t.events).keypad.quitting = true
  rw [quitting_seated]
  exact Bool.or_eq_true_iff.mpr (Or.inl h.quitting)

/- A turn that carries nothing out has no picture to show. -/
theorem session_turn_of_idle
    (hStaged : s.staged = none)
    (hFault : (s.turn t).2 = none)
    (hDeeds : s.deedsIn t = []) :
    (s.turn t).1.session = (s.advanced t).session := by
  have hWaiting : (s.advanced t).staged = none := by
    rw [staged_advanced_of_unstaged hStaged, picture?, hDeeds]
    rfl
  rw [turn_of_none hFault, flush_of_unstaged hWaiting]
  rfl

/- The rest of a turn winds the session down. -/
theorem windsDown_turn
    (hStaged : s.staged = none)
    (h : start.WindsDown (s.entered t) ticks) :
    (s.turn t).2 = none ∧
      (s.entered t).deedsOf (.advance (s.elapsed t)) = [] ∧
      (.cycle ∈ s.dueIn t →
        (s.turn t).1.session.engine.isHalted = true) ∧
      ∃ later,
        start.WindsDown (s.turn t).1.session later := by
  rcases h.advance (s.elapsed t) with
    ⟨hNone, hDeeds, hCycle, later, hAdvanced⟩
  have hFault : (s.turn t).2 = none := by
    rw [fault_turn]
    exact hNone
  rw [session_turn_of_idle hStaged hFault hDeeds]
  exact ⟨hFault, hDeeds, hCycle, later, hAdvanced⟩

/-
  Whether what comes of a play is a quiet end since a start,
  or not yet an end: only ticks changed the machine, no fault
  was met, and the log tells that the engine halted for a
  quit and nothing else.
-/
structure IsQuiet
    (start : Session Seat)
    (result : Show × Ending) : Prop where
  machine :
    ∃ ticks,
      result.1.session.engine.machine =
        start.engine.machine.counted ticks
  ending :
    result.2 = .closed ∨ result.2 = .unfinished
  closed :
    result.2 = .closed →
      result.1.session.log.toList =
        start.log.toList ++
          (start.engine.farewell ++ [.closing])
  unfinished :
    result.2 = .unfinished →
      result.1.session.log = start.log

/- A show that has not gone on is quiet. -/
theorem isQuiet_self (s : Show) :
    IsQuiet s.session (s, .unfinished) where
  machine := ⟨0, (Machine.counted_zero _).symm⟩
  ending := Or.inr rfl
  closed := by
    intro hEnd
    cases hEnd
  unfinished := by
    intro _
    rfl

/- A session that winds down closes quietly once halted. -/
theorem isQuiet_close
    (h : start.WindsDown s.session ticks)
    (hHalted : s.session.engine.isHalted = true) :
    IsQuiet start (s.close, .closed) where
  machine := ⟨ticks, h.machine⟩
  ending := Or.inl rfl
  closed := by
    intro _
    change
      (s.session.log.push .closing).toList =
        start.log.toList ++
          (start.engine.farewell ++ [.closing])
    rw [Array.toList_push, h.log_of_halted hHalted,
      List.append_assoc]
  unfinished := by
    intro hEnd
    cases hEnd

/- Until then it goes on quietly. -/
theorem isQuiet_unfinished
    (h : start.WindsDown s.session ticks)
    (hNot : ¬ s.session.engine.isHalted = true) :
    IsQuiet start (s, .unfinished) where
  machine := ⟨ticks, h.machine⟩
  ending := Or.inr rfl
  closed := by
    intro hEnd
    cases hEnd
  unfinished := by
    intro _
    exact h.log_of_not_halted hNot

/- A play that winds down is quiet. -/
theorem isQuiet_play
    (hStaged : s.staged = none)
    (h : start.WindsDown s.session ticks)
    (turns : List Turn) :
    IsQuiet start (s.play turns) ∧ s.deeds turns = [] := by
  fun_induction Show.play s turns generalizing ticks with
  | case1 turns s hHalted =>
      refine ⟨isQuiet_close h hHalted, ?_⟩
      unfold deeds
      rw [if_pos hHalted]
  | case2 s hNot =>
      refine ⟨isQuiet_unfinished h hNot, ?_⟩
      rw [deeds, if_neg hNot]
  | case3 s hNot t rest later fault hTurn =>
      have hNone :=
        (windsDown_turn hStaged (windsDown_entered h t)).1
      rw [hTurn] at hNone
      cases hNone
  | case4 s hNot t rest later hTurn ih =>
      rcases windsDown_turn hStaged (windsDown_entered h t) with
        ⟨_, hDeeds, _, more, hLater⟩
      rw [hTurn] at hLater
      rcases ih (staged_of_turn hTurn) hLater with
        ⟨hQuiet, hRest⟩
      refine ⟨hQuiet, ?_⟩
      rw [deeds, if_neg hNot, hDeeds, hTurn]
      exact hRest

/-
  From a turn on in which the player asks to quit, a play is
  quiet, whatever happens in its turns.
-/
theorem isQuiet_play_of_asksQuit
    (hStaged : s.staged = none)
    (hNot : ¬ s.session.engine.isHalted = true)
    (h : t.asksQuit = true)
    (rest : List Turn) :
    IsQuiet s.session (s.play (t :: rest)) ∧
      s.deeds (t :: rest) = [] := by
  rcases windsDown_turn hStaged
      (windsDown_entered_of_asksQuit hNot h) with
    ⟨hFault, hDeeds, _, ticks, hLater⟩
  have hTurn : s.turn t = ((s.turn t).1, none) :=
    Prod.ext rfl hFault
  rcases isQuiet_play (staged_turn hFault) hLater rest with
    ⟨hQuiet, hRest⟩
  refine ⟨?_, ?_⟩
  · rw [play_of_none hNot hTurn]
    exact hQuiet
  · rw [deeds, if_neg hNot, hDeeds, hTurn]
    exact hRest

end Show

end ChipEight
