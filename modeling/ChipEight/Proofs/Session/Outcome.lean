import ChipEight.Proofs.Session.Faults

/-
  How a step can end, with all that it says to the console.

  A step is silent for a halted engine. Otherwise it asks
  whether to quit, and what it asks and tells after that
  depends on its course: nothing more if the player quits or
  the word faults, the taking of a press if a key is awaited,
  and else the questions of the instruction, its picture and
  a switch of the tone, in this order.

  Key definitions include:
    * `ChipEight.Deed`
    * `ChipEight.Session.deed?`
    * `ChipEight.toneSwitch`
    * `ChipEight.Engine.Outcome`

  Main declarations:
    * `ChipEight.Session.outcome_step`
    * `ChipEight.Session.exchanges_tick`
-/

namespace ChipEight

------------------------------------------------------------
-- Deeds
------------------------------------------------------------

/- A word that was carried out, and the machine it left. -/
structure Deed where
  word : Word
  after : Machine

/-
  What a step carries out, if anything: it does so if the
  engine runs, the player does not quit and no fault is met.
-/
def Session.deed?
    {κ : Type}
    [Controls κ]
    (s : Session κ) : Option Deed :=
  if s.engine.mode = .running ∧
      (Controls.wantsQuit s.controls).1 = false ∧
      s.step.2 = none then
    some
      { word := s.engine.machine.fetch
        after := s.step.1.engine.machine }
  else
    none

------------------------------------------------------------
-- Talk
------------------------------------------------------------

/- What is told if the tone is to follow the sound timer. -/
def toneSwitch (toneOn audible : Bool) : List Exchange :=
  if audible = toneOn then
    []
  else
    [if audible then .toneStarted else .toneStopped]

/- What an instruction asks, with the answer it gets. -/
def Machine.asks
    (m : Machine)
    (instruction : Instruction)
    (held : Bool) : List Exchange :=
  ((m.keyAsked? instruction).map
    (fun key => .keyAsked key held)).toList

namespace Aftermath

/- What is exchanged after an instruction, but for tones. -/
def tells
    (after : Machine)
    (press : Option UInt8) : Aftermath → List Exchange
  | .goOn => []
  | .showFrame => [.frameShown after.frame]
  | .awaitKey _ => [.pressTaken press]

/- The mode after an instruction. -/
def mode : Aftermath → Mode
  | .awaitKey x => .awaitingKey x
  | _ => .running

end Aftermath

------------------------------------------------------------
-- Outcomes
------------------------------------------------------------

/-
  The courses that a step can take: the engine it leaves, the
  talk with the console, the deed and the fault.
-/
inductive Engine.Outcome (e : Engine) :
    Engine → List Exchange → Option Deed →
      Option Fault → Prop where
  /- A halted engine does nothing. -/
  | halted :
      e.mode = .halted →
        Outcome e e [] none none
  /- The player wants to quit. -/
  | quit :
      e.mode ≠ .halted →
        Outcome e { e with mode := .halted }
          [.quitAsked true] none none
  /- A key is awaited and none was pressed. -/
  | waits (x : Register) :
      e.mode = .awaitingKey x →
        Outcome e e
          [.quitAsked false, .pressTaken none] none none
  /- A key is awaited and one was pressed. -/
  | receives (x : Register) (key : UInt8) :
      e.mode = .awaitingKey x →
        Outcome e
          { e with
            machine := e.machine.setReg x (key &&& 0xF)
            mode := .running }
          [.quitAsked false, .pressTaken (some key)]
          none none
  /- A word faults. -/
  | faults (fault : Fault) :
      e.mode = .running →
        Outcome e
          { e with
            mode := .halted
            crashReport := some e.machine.snapshot }
          [.quitAsked false] none (some fault)
  /- A word is carried out. -/
  | carries
      (instruction : Instruction)
      (held : Bool)
      (press : Option UInt8)
      (after : Machine) :
      e.mode = .running →
        Instruction.decode? e.machine.fetch =
            some instruction →
          e.machine.passWord.execute held instruction =
              .ok after →
            Outcome e
              { e with
                machine := after
                mode := instruction.aftermath.mode
                toneOn := after.timers.audible }
              (.quitAsked false ::
                (e.machine.asks instruction held ++
                  instruction.aftermath.tells after press ++
                  toneSwitch e.toneOn
                    after.timers.audible))
              (some
                { word := e.machine.fetch
                  after := after })
              none

namespace Session

variable {κ : Type}

------------------------------------------------------------
-- Parts Of A Step
------------------------------------------------------------

/- Records are no exchanges. -/
@[simp]
theorem exchanges_noteAll
    (s : Session κ)
    (records : List Record) :
    (s.noteAll records).exchanges = s.exchanges := by
  induction records generalizing s with
  | nil =>
      rfl
  | cons record rest ih =>
      change ((s.note record).noteAll rest).exchanges = _
      rw [ih]
      simp

/- Following the sound timer tells of a switch, if any. -/
theorem exchanges_followTone (s : Session κ) :
    s.followTone.exchanges.toList =
      s.exchanges.toList ++
        toneSwitch s.engine.toneOn
          s.engine.machine.timers.audible := by
  by_cases h :
      s.engine.machine.timers.audible = s.engine.toneOn
  · rw [followTone_of_same h, toneSwitch, if_pos h,
      List.append_nil]
  · rw [followTone_of_change h, toneSwitch, if_neg h,
      Array.toList_push]

/-
  A tick of an engine that has not halted counts the timers
  down and tells of a switch of the tone, if any.
-/
theorem exchanges_tick
    {s : Session κ}
    (h : s.engine.isHalted = false) :
    s.tick.engine =
        { s.engine with
          machine :=
            { s.engine.machine with
              timers := s.engine.machine.timers.tick }
          toneOn :=
            s.engine.machine.timers.tick.audible } ∧
      s.tick.exchanges.toList =
        s.exchanges.toList ++
          toneSwitch s.engine.toneOn
            s.engine.machine.timers.tick.audible := by
  rw [tick_of_not_halted h]
  constructor
  · rw [engine_followTone]
    rfl
  · rw [exchanges_followTone]
    rfl

variable [Controls κ]

/- What an instruction asks is exchanged. -/
theorem exchanges_askFor
    (s : Session κ)
    (instruction : Instruction) :
    (s.askFor instruction).2.exchanges.toList =
      s.exchanges.toList ++
        s.engine.machine.asks instruction
          (s.askFor instruction).1 := by
  unfold askFor Machine.asks
  cases s.engine.machine.keyAsked? instruction with
  | none =>
      simp [askKey]
  | some key =>
      simp [askKey]

/- A running engine may begin to wait, and nothing else. -/
theorem mode_attend_of_running
    {s : Session κ}
    (h : s.engine.mode = .running)
    (aftermath : Aftermath) :
    (s.attend aftermath).engine.mode = aftermath.mode := by
  cases aftermath with
  | goOn => exact h
  | showFrame => exact h
  | awaitKey x => rfl

/- What is said after an instruction is exchanged. -/
theorem exchanges_attend
    (s : Session κ)
    (aftermath : Aftermath) :
    (s.attend aftermath).exchanges.toList =
      s.exchanges.toList ++
        aftermath.tells s.engine.machine s.takePress.1 := by
  cases aftermath with
  | goOn => simp [attend, Aftermath.tells]
  | showFrame => simp [attend, Aftermath.tells]
  | awaitKey x =>
      have hTake :
          (s.attend (.awaitKey x)).exchanges =
            s.exchanges.push (.pressTaken s.takePress.1) :=
        rfl
      rw [hTake, Array.toList_push]
      rfl

/-
  The session in which the aftermath of an instruction is
  attended to.
-/
def carried
    (s : Session κ)
    (instruction : Instruction)
    (after : Machine) : Session κ :=
  ((s.askFor instruction).2.noteAll
    (s.engine.machine.remarks instruction)).setMachine after

/- By then, the engine has its new machine only. -/
theorem engine_carried
    (s : Session κ)
    (instruction : Instruction)
    (after : Machine) :
    (s.carried instruction after).engine =
      { s.engine with machine := after } := by
  simp [carried, setMachine]

/- By then, what the instruction asks was exchanged. -/
theorem exchanges_carried
    (s : Session κ)
    (instruction : Instruction)
    (after : Machine) :
    (s.carried instruction after).exchanges.toList =
      s.exchanges.toList ++
        s.engine.machine.asks instruction
          (s.askFor instruction).1 := by
  rw [← exchanges_askFor]
  simp [carried, setMachine]

/- An instruction that is carried out, by its aftermath. -/
theorem perform_eq_carried
    {s : Session κ}
    {instruction : Instruction}
    {after : Machine}
    (h : s.attempt instruction = .ok after) :
    s.perform instruction =
      (((s.carried instruction after).attend
          instruction.aftermath).followTone,
        none) :=
  perform_of_ok h

/-
  An instruction that is carried out leaves its machine, the
  mode behind it and a tone that follows the sound timer.
-/
theorem engine_perform_of_ok
    {s : Session κ}
    {instruction : Instruction}
    {after : Machine}
    (hMode : s.engine.mode = .running)
    (h : s.attempt instruction = .ok after) :
    (s.perform instruction).1.engine =
      { s.engine with
        machine := after
        mode := instruction.aftermath.mode
        toneOn := after.timers.audible } := by
  have hRunning :
      (s.carried instruction after).engine.mode =
        .running := by
    rw [engine_carried]
    exact hMode
  rw [perform_eq_carried h, engine_followTone,
    engine_attend, mode_attend_of_running hRunning,
    engine_carried]

/-
  An instruction that is carried out asks, tells what is to be
  said after it, and last tells of a switch of the tone.
-/
theorem exchanges_perform
    {s : Session κ}
    {instruction : Instruction}
    {after : Machine}
    (h : s.attempt instruction = .ok after) :
    (s.perform instruction).1.exchanges.toList =
      s.exchanges.toList ++
        (s.engine.machine.asks instruction
            (s.askFor instruction).1 ++
          instruction.aftermath.tells after
            (s.carried instruction after).takePress.1 ++
          toneSwitch s.engine.toneOn
            after.timers.audible) := by
  rw [perform_eq_carried h, exchanges_followTone,
    engine_attend, exchanges_attend, exchanges_carried,
    engine_carried, List.append_assoc, List.append_assoc,
    List.append_assoc]

/- Whatever press it may take then. -/
theorem exchanges_perform_of_ok
    {s : Session κ}
    {instruction : Instruction}
    {after : Machine}
    (h : s.attempt instruction = .ok after) :
    ∃ press,
      (s.perform instruction).1.exchanges.toList =
        s.exchanges.toList ++
          (s.engine.machine.asks instruction
              (s.askFor instruction).1 ++
            instruction.aftermath.tells after press ++
            toneSwitch s.engine.toneOn
              after.timers.audible) :=
  ⟨_, exchanges_perform h⟩

------------------------------------------------------------
-- Steps
------------------------------------------------------------

/- A step does a deed only if a running engine runs on. -/
theorem deed?_of_not
    {s : Session κ}
    (h :
      s.engine.mode ≠ .running ∨
        (Controls.wantsQuit s.controls).1 = true ∨
        s.step.2 ≠ none) :
    s.deed? = none := by
  unfold deed?
  rw [if_neg]
  rintro ⟨hMode, hQuit, hFault⟩
  rcases h with h | h | h
  · exact h hMode
  · rw [hQuit] at h
    cases h
  · exact h hFault

/- An engine that awaits a key waits on or receives it. -/
theorem outcome_receiveKey
    (s : Session κ)
    {x : Register}
    (hMode : s.engine.mode = .awaitingKey x) :
    ∃ press,
      (s.receiveKey x).exchanges.toList =
          s.exchanges.toList ++ [.pressTaken press] ∧
        s.engine.Outcome (s.receiveKey x).engine
          [.quitAsked false, .pressTaken press] none none := by
  have hTake :
      s.takePress.2.exchanges =
        s.exchanges.push (.pressTaken s.takePress.1) :=
    rfl
  cases hPress : s.takePress.1 with
  | none =>
      rw [receiveKey_of_none hPress]
      refine ⟨none, ?_, .waits x hMode⟩
      rw [hTake, hPress, Array.toList_push]
  | some key =>
      rw [receiveKey_of_some hPress]
      refine ⟨some key, ?_, .receives x key hMode⟩
      change s.takePress.2.exchanges.toList = _
      rw [hTake, hPress, Array.toList_push]

/- A running engine carries a word out or faults. -/
theorem outcome_runWord
    (s : Session κ)
    (hMode : s.engine.mode = .running) :
    ∃ talk,
      s.runWord.1.exchanges.toList =
          s.exchanges.toList ++ talk ∧
        s.engine.Outcome s.runWord.1.engine
          (.quitAsked false :: talk)
          (if s.runWord.2 = none then
            some
              { word := s.engine.machine.fetch
                after := s.runWord.1.engine.machine }
          else
            none)
          s.runWord.2 := by
  cases hFault : s.runWord.2 with
  | some fault =>
      rcases engine_runWord_of_fault hFault with
        ⟨hEngine, hExchanges, _⟩
      refine ⟨[], ?_, ?_⟩
      · rw [hExchanges, List.append_nil]
      · rw [hEngine, engine_crash, if_neg (by simp)]
        exact .faults fault hMode
  | none =>
      cases hWord :
          Instruction.decode? s.engine.machine.fetch with
      | none =>
          rw [runWord_of_none hWord] at hFault
          cases hFault
      | some instruction =>
          let t :=
            s.note
              (.executing
                { address := s.engine.machine.processor.pc
                  word := s.engine.machine.fetch })
          have hRun : s.runWord = t.perform instruction :=
            runWord_of_some hWord
          cases hAttempt : t.attempt instruction with
          | error met =>
              rw [hRun, perform_of_error hAttempt] at hFault
              cases hFault
          | ok after =>
              rcases exchanges_perform_of_ok hAttempt with
                ⟨press, hExchanges⟩
              have hRunning : t.engine.mode = .running :=
                hMode
              have hEngine :=
                engine_perform_of_ok hRunning hAttempt
              rw [hRun, hEngine, if_pos rfl]
              exact
                ⟨_, hExchanges,
                  .carries instruction _ press after hMode
                    hWord hAttempt⟩

/-
  Every step takes one of the courses, and its talk is added
  to what was exchanged before.
-/
theorem outcome_step (s : Session κ) :
    ∃ talk,
      s.step.1.exchanges.toList =
          s.exchanges.toList ++ talk ∧
        s.engine.Outcome s.step.1.engine talk s.deed?
          s.step.2 := by
  have hAsk :
      s.askQuit.2.exchanges =
        s.exchanges.push (.quitAsked s.askQuit.1) :=
    rfl
  rcases s.step_cases with
    ⟨hHalted, hStep⟩ | ⟨hNot, hQuit, hStep⟩ |
      ⟨x, hMode, hQuit, hStep⟩ | ⟨hMode, hQuit, hStep⟩
  · have hMode := Engine.isHalted_iff.mp hHalted
    have hDeed : s.deed? = none := by
      apply deed?_of_not
      simp [hMode]
    rw [hStep, hDeed]
    exact ⟨[], (List.append_nil _).symm, .halted hMode⟩
  · have hDeed : s.deed? = none :=
      deed?_of_not (Or.inr (Or.inl hQuit))
    rw [hStep, hDeed, exchanges_halt, engine_halt]
    refine ⟨[.quitAsked true], ?_, ?_⟩
    · rw [exchanges_note, hAsk, hQuit, Array.toList_push]
    · exact .quit (Engine.isHalted_eq_false_iff.mp hNot)
  · have hDeed : s.deed? = none := by
      apply deed?_of_not
      simp [hMode]
    rcases s.askQuit.2.outcome_receiveKey hMode with
      ⟨press, hExchanges, hOutcome⟩
    rw [hStep, hDeed]
    refine ⟨_, ?_, hOutcome⟩
    rw [hExchanges, hAsk, hQuit, Array.toList_push,
      List.append_assoc]
    rfl
  · have hDeed :
        s.deed? =
          if s.step.2 = none then
            some
              { word := s.engine.machine.fetch
                after := s.step.1.engine.machine }
          else
            none := by
      have hWants :
          (Controls.wantsQuit s.controls).1 = false :=
        hQuit
      simp [deed?, hMode, hWants]
    rcases s.askQuit.2.outcome_runWord hMode with
      ⟨talk, hExchanges, hOutcome⟩
    rw [hDeed, hStep]
    refine ⟨_, ?_, hOutcome⟩
    rw [hExchanges, hAsk, hQuit, Array.toList_push,
      List.append_assoc]
    rfl

end Session

end ChipEight
