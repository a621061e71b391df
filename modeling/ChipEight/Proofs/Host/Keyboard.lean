import ChipEight.Proofs.Console.Conversation
import ChipEight.Proofs.Console.Keypad
import ChipEight.Proofs.Host.Feed

/-
  The keypad of a show is worked by the host's keyboard.

  Every event of the host is at most one call of the keypad:
  keys that lie on the keypad press and release, closing the
  window and the escape key ask to quit, and nothing else
  reaches the keypad. The engine in turn takes presses and
  does no more to it. So what the engine is answered in a turn
  is told by the events so far and by what it has taken.

  Key definitions include:
    * `ChipEight.HostEvent.call?`
    * `ChipEight.Exchange.call?`
    * `ChipEight.Exchange.IsTold`
    * `ChipEight.Show.played`
    * `ChipEight.Show.keypadCalls`

  Main declarations:
    * `ChipEight.HostEvent.call?_eq_press_iff`
    * `ChipEight.HostEvent.call?_eq_quit_iff`
    * `ChipEight.Show.keypad_play`
    * `ChipEight.Show.keypad_answers_by_history`
-/

namespace ChipEight

------------------------------------------------------------
-- Events
------------------------------------------------------------

namespace HostEvent

/- The call of the keypad that an event is, if any. -/
def call? : HostEvent → Option Keypad.Call
  | .quit => some .quit
  | .keyDown (some .escape) => some .quit
  | .keyDown (some key) => key.keypadKey?.map .press
  | .keyUp (some key) => key.keypadKey?.map .release
  | _ => none

/-
  Keys that lie on the keypad press and release, closing the
  window and the escape key ask to quit, and there is nothing
  else that an event can be.
-/
theorem call?_eq_some_iff
    {event : HostEvent}
    {c : Keypad.Call} :
    event.call? = some c ↔
      (∃ key k,
        event = .keyDown (some key) ∧
          key.keypadKey? = some k ∧
          c = .press k) ∨
        (∃ key k,
          event = .keyUp (some key) ∧
            key.keypadKey? = some k ∧
            c = .release k) ∨
        ((event = .quit ∨
            event = .keyDown (some .escape)) ∧
          c = .quit) := by
  have hEscape : HostKey.escape.keypadKey? = none := rfl
  cases event with
  | quit => simp [call?, eq_comm]
  | keyDown key =>
      cases key with
      | none => simp [call?]
      | some key =>
          cases key with
          | escape => simp [call?, hEscape, eq_comm]
          | _ => simp [call?, eq_comm]
  | keyUp key =>
      cases key with
      | none => simp [call?]
      | some key => simp [call?, eq_comm]
  | other => simp [call?]

/- No event takes a press. -/
theorem call?_ne_take (event : HostEvent) :
    event.call? ≠ some .take := by
  simp [call?_eq_some_iff]

end HostEvent

namespace Keypad

/- A call with a key is made if there is a key. -/
theorem getD_map_work
    (k : Keypad)
    (c : UInt8 → Call)
    (key : Option UInt8) :
    (key.map (fun key => k.work (c key))).getD k =
      k.workAll (key.map c).toList := by
  cases key with
  | none => rfl
  | some key => rfl

/- A keypad hears an event as the call that it is. -/
theorem hear_eq
    (k : Keypad)
    (event : HostEvent) :
    k.hear event = k.workAll event.call?.toList := by
  cases event with
  | quit => rfl
  | keyDown key =>
      cases key with
      | none => rfl
      | some key =>
          cases key with
          | escape => rfl
          | _ =>
              simp only [hear, HostEvent.call?]
              exact k.getD_map_work .press _
  | keyUp key =>
      cases key with
      | none => rfl
      | some key => exact k.getD_map_work .release _
  | other => rfl

/-
  What works a keypad by one call at the most, each time,
  works it by these calls in turn.
-/
theorem workAll_filterMap
    {σ α : Type}
    (keypad : σ → Keypad)
    {step : σ → α → σ}
    {call? : α → Option Call}
    (hStep :
      ∀ state x,
        keypad (step state x) =
          (keypad state).workAll (call? x).toList)
    (state : σ)
    (xs : List α) :
    keypad (xs.foldl step state) =
      (keypad state).workAll (xs.filterMap call?) := by
  induction xs generalizing state with
  | nil => rfl
  | cons x rest ih =>
      rw [List.foldl_cons, ih, hStep, ← workAll_append,
        List.filterMap_eq_flatMap_toList,
        List.filterMap_eq_flatMap_toList, List.flatMap_cons]

/- So it hears events one after another. -/
theorem hearAll_eq
    (k : Keypad)
    (events : List HostEvent) :
    events.foldl hear k =
      k.workAll (events.filterMap HostEvent.call?) :=
  workAll_filterMap id hear_eq k events

end Keypad

------------------------------------------------------------
-- Exchanges
------------------------------------------------------------

namespace Exchange

/- The call of the keypad that an exchange is, if any. -/
def call? : Exchange → Option Keypad.Call
  | .pressTaken _ => some .take
  | _ => none

/- Whether the answer of an exchange is told by calls. -/
def IsTold
    (calls : List Keypad.Call) : Exchange → Prop
  | .quitAsked answer => answer = true ↔ .quit ∈ calls
  | .keyAsked key answer =>
      answer = true ↔ Keypad.HeldAfter calls key
  | .pressTaken answer =>
      answer = Keypad.pressAfter? calls
  | _ => True

/- What a seat answers is told by the calls of its keypad. -/
theorem isTold_of_isAnswered
    {seat : Seat}
    {calls : List Keypad.Call}
    {x : Exchange}
    (hKeypad :
      seat.keypad = Keypad.initial.workAll calls)
    (h : x.IsAnswered seat) :
    x.IsTold calls := by
  cases x with
  | quitAsked answer =>
      cases h
      change seat.keypad.quitting = true ↔ _
      rw [hKeypad]
      exact Keypad.quitting_workAll_iff calls
  | keyAsked key answer =>
      cases h
      change seat.keypad.isHeld key = true ↔ _
      rw [hKeypad]
      exact Keypad.isHeld_workAll_iff calls key
  | pressTaken answer =>
      cases h
      change seat.keypad.takePress.1 = _
      rw [hKeypad]
      exact Keypad.takePress_workAll calls
  | _ => exact True.intro

/- An exchange leaves the keypad of a seat as its call does. -/
theorem keypad_leaves
    (seat : Seat)
    (x : Exchange) :
    (x.leaves seat).keypad =
      seat.keypad.workAll x.call?.toList := by
  cases x with
  | _ => rfl

/- So do exchanges one after another. -/
theorem keypad_leavesAll
    (seat : Seat)
    (talk : List Exchange) :
    (talk.foldl leaves seat).keypad =
      seat.keypad.workAll (talk.filterMap call?) :=
  Keypad.workAll_filterMap Seat.keypad keypad_leaves seat talk

end Exchange

------------------------------------------------------------
-- Turns
------------------------------------------------------------

namespace Show

/- The calls of the keypad in a turn before time passes. -/
def heardIn (t : Turn) : List Keypad.Call :=
  t.events.filterMap HostEvent.call?

/- The calls of the keypad in a turn, in order. -/
def keypadCallsIn
    (s : Show)
    (t : Turn) : List Keypad.Call :=
  heardIn t ++ (s.saidIn t).filterMap Exchange.call?

/- The events of a turn are heard before time passes. -/
theorem keypad_entered
    (s : Show)
    (t : Turn) :
    (s.entered t).controls.keypad =
      s.session.controls.keypad.workAll (heardIn t) := by
  rw [entered, seated, Seat.handleAll_eq]
  exact Keypad.hearAll_eq _ _

/- What is said then is a conversation with the seat. -/
theorem conversation_advanced
    (s : Show)
    (t : Turn) :
    Conversation (s.entered t).controls (s.saidIn t)
      (s.advanced t).session.controls := by
  rcases (s.entered t).converses_advance (s.elapsed t) with
    ⟨talk, hTalk, hConversation⟩
  rw [saidIn, Session.exchangedSince_eq hTalk]
  exact hConversation

/- So a turn works the keypad by its calls. -/
theorem keypad_turn
    (s : Show)
    (t : Turn) :
    (s.turn t).1.session.controls.keypad =
      s.session.controls.keypad.workAll
        (s.keypadCallsIn t) := by
  have hControls :
      (s.turn t).1.session.controls =
        (s.advanced t).session.controls := by
    cases hFault : (s.turn t).2 with
    | none => exact controls_turn hFault
    | some fault => rw [turn_of_some hFault]
  rw [hControls, (s.conversation_advanced t).left_eq,
    Exchange.keypad_leavesAll, keypad_entered,
    keypadCallsIn, Keypad.workAll_append]

/- Every answer in a turn is told by the calls before it. -/
theorem isTold_of_saidIn
    {s : Show}
    {t : Turn}
    {calls : List Keypad.Call}
    {said later : List Exchange}
    {x : Exchange}
    (hKeypad :
      s.session.controls.keypad =
        Keypad.initial.workAll calls)
    (hSaid : s.saidIn t = said ++ x :: later) :
    x.IsTold
      (calls ++
        (heardIn t ++ said.filterMap Exchange.call?)) := by
  have hTalk := s.conversation_advanced t
  rw [hSaid] at hTalk
  apply Exchange.isTold_of_isAnswered _ hTalk.isAnswered
  rw [Exchange.keypad_leavesAll, keypad_entered, hKeypad,
    Keypad.workAll_append, Keypad.workAll_append]

------------------------------------------------------------
-- Whole Shows
------------------------------------------------------------

/- The turns that are played, up to the one that halts. -/
def played
    (s : Show) : List Turn → List Turn
  | [] => []
  | t :: rest =>
      if s.session.engine.isHalted then
        []
      else
        t :: (s.turn t).1.played rest

/- The calls of the keypad in the turns that are played. -/
def keypadCalls
    (s : Show) : List Turn → List Keypad.Call
  | [] => []
  | t :: rest =>
      if s.session.engine.isHalted then
        []
      else
        s.keypadCallsIn t ++ (s.turn t).1.keypadCalls rest

/- An engine that has halted leaves the keypad alone. -/
theorem keypadCalls_of_halted
    {s : Show}
    (h : s.session.engine.isHalted = true)
    (turns : List Turn) :
    s.keypadCalls turns = [] := by
  cases turns with
  | nil => rfl
  | cons t rest => rw [keypadCalls, if_pos h]

/- A turn that faults halts the engine. -/
theorem isHalted_turn_of_fault
    {s : Show}
    {t : Turn}
    {fault : Fault}
    (h : (s.turn t).2 = some fault) :
    (s.turn t).1.session.engine.isHalted = true := by
  rw [turn_of_some h]
  rw [fault_turn] at h
  exact Session.isHalted_advance_of_fault h

/- A show works the keypad by its calls. -/
theorem keypad_play
    (s : Show)
    (turns : List Turn) :
    (s.play turns).1.session.controls.keypad =
      s.session.controls.keypad.workAll
        (s.keypadCalls turns) := by
  fun_induction Show.play s turns with
  | case1 turns s hHalted =>
      rw [keypadCalls_of_halted hHalted]
      rfl
  | case2 s hNot => rfl
  | case3 s hNot t rest later fault hTurn =>
      have hFault : (s.turn t).2 = some fault := by
        rw [hTurn]
      rw [keypadCalls, if_neg hNot,
        keypadCalls_of_halted (isHalted_turn_of_fault hFault),
        List.append_nil, ← keypad_turn, hTurn]
  | case4 s hNot t rest later hTurn ih =>
      rw [keypadCalls, if_neg hNot, Keypad.workAll_append,
        ← keypad_turn, hTurn]
      exact ih

/- Of the calls in a turn, the engine only takes presses. -/
theorem filter_keypadCallsIn
    (s : Show)
    (t : Turn) :
    (s.keypadCallsIn t).filter (fun c => c != .take) =
      heardIn t := by
  have hHeard :
      (heardIn t).filter (fun c => c != .take) =
        heardIn t := by
    apply List.filter_eq_self.mpr
    intro c hMem
    rcases List.mem_filterMap.mp hMem with
      ⟨event, _, hCall⟩
    apply bne_iff_ne.mpr
    rintro rfl
    exact event.call?_ne_take hCall
  have hTaken :
      ((s.saidIn t).filterMap Exchange.call?).filter
        (fun c => c != .take) = [] := by
    apply List.filter_eq_nil_iff.mpr
    intro c hMem
    rcases List.mem_filterMap.mp hMem with ⟨x, _, hCall⟩
    cases x with
    | pressTaken answer =>
        cases hCall
        decide
    | _ => cases hCall
  rw [keypadCallsIn, List.filter_append, hHeard, hTaken,
    List.append_nil]

/- All other calls are the events of the turns, in order. -/
theorem filter_keypadCalls
    (s : Show)
    (turns : List Turn) :
    (s.keypadCalls turns).filter (fun c => c != .take) =
      ((s.played turns).flatMap Turn.events).filterMap
        HostEvent.call? := by
  induction turns generalizing s with
  | nil => rfl
  | cons t rest ih =>
      rw [keypadCalls, played]
      split
      · rfl
      · rw [List.filter_append, filter_keypadCallsIn, ih,
          List.flatMap_cons, List.filterMap_append]
        rfl

/- Turns are played from the first one on. -/
theorem played_prefix
    (s : Show)
    (turns : List Turn) :
    s.played turns <+: turns := by
  induction turns generalizing s with
  | nil => exact List.nil_prefix
  | cons t rest ih =>
      rw [played]
      split
      · exact List.nil_prefix
      · exact List.cons_prefix_cons.mpr ⟨rfl, ih _⟩

/- All of them are, unless the show is over before. -/
theorem played_of_unfinished
    {s : Show}
    {turns : List Turn}
    (h : (s.play turns).2 = .unfinished) :
    s.played turns = turns := by
  fun_induction Show.play s turns with
  | case1 turns s hHalted => cases h
  | case2 s hNot => rfl
  | case3 s hNot t rest later fault hTurn => cases h
  | case4 s hNot t rest later hTurn ih =>
      rw [played, if_neg hNot, hTurn, ih h]

/-
  A keypad answers by its history: a key is held if there is
  such a key and the last call that moved it was a press, a
  press is taken if it is the latest one since a press was
  taken, whatever was let go in between, and the player wants
  to quit once this was asked for. The history of a show is
  made of the events of its turns, in order, each of them at
  most one call, and of presses that the engine takes. All
  that the engine is answered in a turn is told by it.
-/
theorem keypad_answers_by_history :
    (∀ calls : List Keypad.Call,
      let k := Keypad.initial.workAll calls
      (∀ key,
          k.isHeld key = true ↔
            Keypad.HeldAfter calls key) ∧
        k.takePress.1 = Keypad.pressAfter? calls ∧
        (k.quitting = true ↔ .quit ∈ calls)) ∧
      (∀ (event : HostEvent) (c : Keypad.Call),
        event.call? = some c ↔
          (∃ key k,
            event = .keyDown (some key) ∧
              key.keypadKey? = some k ∧
              c = .press k) ∨
            (∃ key k,
              event = .keyUp (some key) ∧
                key.keypadKey? = some k ∧
                c = .release k) ∨
            ((event = .quit ∨
                event = .keyDown (some .escape)) ∧
              c = .quit)) ∧
      ∀ (engine : Engine) (scale : UInt32) (padding : Nat)
        (turns : List Turn),
        let run := Show.run engine scale padding none turns
        let start := opening engine scale padding none
        let calls := start.keypadCalls turns
        let played := start.played turns
        run.1.session.controls.keypad =
            Keypad.initial.workAll calls ∧
          calls.filter (fun c => c != .take) =
            (played.flatMap Turn.events).filterMap
              HostEvent.call? ∧
          played <+: turns ∧
          (run.2 = .unfinished →
            played = turns ∧
              ∀ t said x later,
                run.1.saidIn t = said ++ x :: later →
                  x.IsTold
                    (calls ++
                      (heardIn t ++
                        said.filterMap
                          Exchange.call?))) := by
  refine ⟨?_, ?_, ?_⟩
  · intro calls k
    exact
      ⟨Keypad.isHeld_workAll_iff calls,
        Keypad.takePress_workAll calls,
        Keypad.quitting_workAll_iff calls⟩
  · intro event c
    exact event.call?_eq_some_iff
  · intro engine scale padding turns run start calls played
    have hKeypad :
        run.1.session.controls.keypad =
          Keypad.initial.workAll calls :=
      start.keypad_play turns
    refine
      ⟨hKeypad, start.filter_keypadCalls turns,
        start.played_prefix turns, ?_⟩
    intro hEnd
    refine ⟨played_of_unfinished hEnd, ?_⟩
    intro t said x later hSaid
    exact isTold_of_saidIn hKeypad hSaid

/-
  A press that was taken as a wait began is gone. The next one
  is taken although its key was let go in the same turn.
-/
theorem press_outlives_release :
    let engine :=
      ((Session.initial
        (Engine.switchedOn ⟨100, 60⟩ (Generator.ofSeed 7))
        Seat.initial).load [0xF3, 0x0A]).1.engine
    let turns : List Turn :=
      [{ nanos := 10000000
         events :=
          [.keyDown (some (.letter 'Q')), .keyDown none] }]
    let t : Turn :=
      { nanos := 9000000
        events :=
          [.keyDown (some (.letter 'W')),
            .keyUp (some (.letter 'W')), .other] }
    let run := Show.run engine 10 0 none turns
    let start := opening engine 10 0 none
    run.2 = .unfinished ∧
      start.keypadCalls turns = [.press 4, .take] ∧
      run.1.session.controls.keypad =
        Keypad.initial.workAll [.press 4, .take] ∧
      run.1.saidIn t =
        [.quitAsked false, .pressTaken (some 5)] ∧
      Exchange.IsTold
        [.press 4, .take, .press 5, .release 5]
        (.pressTaken (some 5)) := by
  intro engine turns t run start
  have hShow :
      run.2 = .unfinished ∧
        start.keypadCalls turns = [.press 4, .take] ∧
        run.1.saidIn t =
          [.quitAsked false, .pressTaken (some 5)] := by
    decide +kernel
  rcases hShow with ⟨hEnd, hCalls, hSaid⟩
  rcases keypad_answers_by_history.2.2 engine 10 0 turns with
    ⟨hKeypad, _, _, hAnswers⟩
  rw [hCalls] at hKeypad
  have hTold :=
    (hAnswers hEnd).2 t [.quitAsked false]
      (.pressTaken (some 5)) [] hSaid
  rw [hCalls] at hTold
  exact ⟨hEnd, hCalls, hKeypad, hSaid, hTold⟩

end Show

end ChipEight
