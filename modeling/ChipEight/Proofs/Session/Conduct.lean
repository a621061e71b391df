import ChipEight.Engine.Advance

/-
  What the parts of a session do, case by case.

  Each operation is described by one equation for every
  course it can take, and each way of stopping by what it
  leaves of the engine. Later proofs rely on these equations
  and open no operation again.

  Key definitions include:
    * `ChipEight.Session.askFor`
    * `ChipEight.Session.attempt`

  Main declarations:
    * `ChipEight.Session.step_of_halted`
    * `ChipEight.Session.step_of_quit`
    * `ChipEight.Session.step_of_awaiting`
    * `ChipEight.Session.step_of_running`
    * `ChipEight.Session.step_cases`
    * `ChipEight.Session.perform_of_ok`
-/

namespace ChipEight

------------------------------------------------------------
-- Modes
------------------------------------------------------------

namespace Engine

/- An engine has halted if its mode says so. -/
theorem isHalted_iff {e : Engine} :
    e.isHalted = true ↔ e.mode = .halted := by
  simp [isHalted]

/- An engine that has not halted is in another mode. -/
theorem isHalted_eq_false_iff {e : Engine} :
    e.isHalted = false ↔ e.mode ≠ .halted := by
  simp [isHalted]

end Engine

namespace Session

variable {κ : Type}

------------------------------------------------------------
-- Halting
------------------------------------------------------------

/- Halting again does nothing. -/
theorem halt_of_halted
    {s : Session κ}
    (h : s.engine.isHalted = true) :
    s.halt = s := by
  simp [halt, h]

/- The first halt is noted. -/
theorem halt_of_not_halted
    {s : Session κ}
    (h : s.engine.isHalted = false) :
    s.halt =
      (s.note
        (.halted s.engine.machine.processor.pc)).setMode
          .halted := by
  simp [halt, h]

/- A halted session is all but the mode and the log. -/
theorem engine_halt (s : Session κ) :
    s.halt.engine = { s.engine with mode := .halted } := by
  cases h : s.engine.isHalted with
  | true =>
      rw [halt_of_halted h, ← Engine.isHalted_iff.mp h]
  | false =>
      rw [halt_of_not_halted h]
      rfl

/- Halting exchanges nothing with the console. -/
@[simp]
theorem exchanges_halt (s : Session κ) :
    s.halt.exchanges = s.exchanges := by
  unfold halt
  split
  · rfl
  · rfl

/- Halting asks nothing. -/
@[simp]
theorem controls_halt (s : Session κ) :
    s.halt.controls = s.controls := by
  unfold halt
  split
  · rfl
  · rfl

/-
  A crash halts the engine and keeps a picture of the machine;
  all else of the engine stays.
-/
theorem engine_crash
    (s : Session κ)
    (fault : Fault) :
    (s.crash fault).engine =
      { s.engine with
        mode := .halted
        crashReport := some s.engine.machine.snapshot } := by
  unfold crash
  rw [engine_halt]
  rfl

/- A crash exchanges nothing with the console. -/
@[simp]
theorem exchanges_crash
    (s : Session κ)
    (fault : Fault) :
    (s.crash fault).exchanges = s.exchanges := by
  unfold crash
  rw [exchanges_halt]
  rfl

/- A crash asks nothing. -/
@[simp]
theorem controls_crash
    (s : Session κ)
    (fault : Fault) :
    (s.crash fault).controls = s.controls := by
  unfold crash
  rw [controls_halt]
  rfl

------------------------------------------------------------
-- Tone And Ticks
------------------------------------------------------------

/- A tone that is as it should be is left alone. -/
theorem followTone_of_same
    {s : Session κ}
    (h :
      s.engine.machine.timers.audible = s.engine.toneOn) :
    s.followTone = s := by
  simp [followTone, h]

/- A tone that is not as it should be is switched. -/
theorem followTone_of_change
    {s : Session κ}
    (h :
      s.engine.machine.timers.audible ≠ s.engine.toneOn) :
    s.followTone =
      { s with
        engine :=
          { s.engine with
            toneOn := s.engine.machine.timers.audible }
        exchanges :=
          s.exchanges.push
            (if s.engine.machine.timers.audible then
              .toneStarted
            else
              .toneStopped) } := by
  simp only [followTone, if_neg h]
  rfl

/- Following the sound timer changes the tone only. -/
theorem engine_followTone (s : Session κ) :
    s.followTone.engine =
      { s.engine with
        toneOn := s.engine.machine.timers.audible } := by
  by_cases h :
      s.engine.machine.timers.audible = s.engine.toneOn
  · rw [followTone_of_same h, h]
  · rw [followTone_of_change h]

/- A halted engine does not tick. -/
theorem tick_of_halted
    {s : Session κ}
    (h : s.engine.isHalted = true) :
    s.tick = s := by
  simp [tick, h]

/- Any other engine counts its timers down. -/
theorem tick_of_not_halted
    {s : Session κ}
    (h : s.engine.isHalted = false) :
    s.tick =
      (s.setMachine
        { s.engine.machine with
          timers :=
            s.engine.machine.timers.tick }).followTone := by
  simp [tick, h]

------------------------------------------------------------
-- Loading
------------------------------------------------------------

/- A program that does not fit makes the engine crash. -/
theorem load_of_error
    {s : Session κ}
    {program : List UInt8}
    {fault : Fault}
    (h :
      s.engine.machine.memory.loadProgram program =
        .error fault) :
    s.load program = (s.crash fault, some fault) := by
  simp [load, h]

/- Any other program is put into memory. -/
theorem load_of_ok
    {s : Session κ}
    {program : List UInt8}
    {memory : Memory}
    (h :
      s.engine.machine.memory.loadProgram program =
        .ok memory) :
    s.load program =
      ({ s with
        engine :=
          { s.engine with
            machine :=
              { s.engine.machine with memory := memory }
            programSize := program.length }
        log :=
          s.log.push (.programLoaded program.length) },
        none) := by
  simp only [load, h]
  rfl

------------------------------------------------------------
-- Instructions
------------------------------------------------------------

variable [Controls κ]

/- Without a press, a wait goes on. -/
theorem receiveKey_of_none
    {s : Session κ}
    (h : s.takePress.1 = none)
    (x : Register) :
    s.receiveKey x = s.takePress.2 := by
  simp only [receiveKey, h]

/- A press ends a wait. -/
theorem receiveKey_of_some
    {s : Session κ}
    {key : UInt8}
    (h : s.takePress.1 = some key)
    (x : Register) :
    s.receiveKey x =
      ((s.takePress.2.note (.keyStored key x)).setMachine
        (s.engine.machine.setReg x (key &&& 0xF))).setMode
          .running := by
  simp only [receiveKey, h]
  rfl

/- A question to the controls leaves the engine alone. -/
@[simp]
theorem engine_askKey
    (s : Session κ)
    (key : Option UInt8) :
    (s.askKey key).2.engine = s.engine := by
  cases key with
  | none => rfl
  | some key => rfl

/- So does the question whether to quit. -/
@[simp]
theorem engine_askQuit (s : Session κ) :
    s.askQuit.2.engine = s.engine :=
  rfl

/- Ask what an instruction wants to know. -/
def askFor
    (s : Session κ)
    (instruction : Instruction) : Bool × Session κ :=
  s.askKey (s.engine.machine.keyAsked? instruction)

/- What comes of an instruction, once it got its answer. -/
def attempt
    (s : Session κ)
    (instruction : Instruction) : Except Fault Machine :=
  s.engine.machine.passWord.execute
    (s.askFor instruction).1 instruction

/- Asking leaves the engine alone. -/
@[simp]
theorem engine_askFor
    (s : Session κ)
    (instruction : Instruction) :
    (s.askFor instruction).2.engine = s.engine :=
  engine_askKey s _

/- What is done after an instruction may change the mode. -/
theorem engine_attend
    (s : Session κ)
    (aftermath : Aftermath) :
    (s.attend aftermath).engine =
      { s.engine with
        mode := (s.attend aftermath).engine.mode } := by
  cases aftermath with
  | goOn => rfl
  | showFrame => rfl
  | awaitKey x => rfl

/- An instruction that faults makes the engine crash. -/
theorem perform_of_error
    {s : Session κ}
    {instruction : Instruction}
    {fault : Fault}
    (h : s.attempt instruction = .error fault) :
    s.perform instruction =
      ((s.askFor instruction).2.crash fault,
        some fault) := by
  unfold attempt askFor at h
  simp only [perform, h, askFor]

/-
  Any other instruction leaves its remarks and a machine, and
  what is to be done after it is done.
-/
theorem perform_of_ok
    {s : Session κ}
    {instruction : Instruction}
    {after : Machine}
    (h : s.attempt instruction = .ok after) :
    s.perform instruction =
      (((((s.askFor instruction).2.noteAll
          (s.engine.machine.remarks
            instruction)).setMachine after).attend
              instruction.aftermath).followTone,
        none) := by
  unfold attempt askFor at h
  simp only [perform, h, askFor]

/- A word that names no instruction makes the engine crash. -/
theorem runWord_of_none
    {s : Session κ}
    (h :
      Instruction.decode? s.engine.machine.fetch = none) :
    s.runWord =
      (s.crash
        (.undefinedWord s.engine.machine.fetch
          s.engine.machine.processor.pc),
        some
          (.undefinedWord s.engine.machine.fetch
            s.engine.machine.processor.pc)) := by
  simp [runWord, h]

/- Any other word is noted and carried out. -/
theorem runWord_of_some
    {s : Session κ}
    {instruction : Instruction}
    (h :
      Instruction.decode? s.engine.machine.fetch =
        some instruction) :
    s.runWord =
      (s.note
        (.executing
          { address := s.engine.machine.processor.pc
            word := s.engine.machine.fetch })).perform
              instruction := by
  simp [runWord, h]

------------------------------------------------------------
-- Steps
------------------------------------------------------------

/- A halted engine does not step. -/
theorem step_of_halted
    {s : Session κ}
    (h : s.engine.isHalted = true) :
    s.step = (s, none) := by
  simp [step, Engine.isHalted_iff.mp h]

/- A player who wants to quit halts the engine. -/
theorem step_of_quit
    {s : Session κ}
    (h : s.engine.isHalted = false)
    (hQuit : s.askQuit.1 = true) :
    s.step =
      ((s.askQuit.2.note .quitRequested).halt, none) := by
  have hMode := Engine.isHalted_eq_false_iff.mp h
  cases hCase : s.engine.mode with
  | running => simp [step, hCase, hQuit]
  | awaitingKey x => simp [step, hCase, hQuit]
  | halted => exact absurd hCase hMode

/- An engine that waits for a key looks for a press. -/
theorem step_of_awaiting
    {s : Session κ}
    {x : Register}
    (h : s.engine.mode = .awaitingKey x)
    (hQuit : s.askQuit.1 = false) :
    s.step = (s.askQuit.2.receiveKey x, none) := by
  simp [step, h, hQuit]

/- A running engine carries a word out. -/
theorem step_of_running
    {s : Session κ}
    (h : s.engine.mode = .running)
    (hQuit : s.askQuit.1 = false) :
    s.step = s.askQuit.2.runWord := by
  simp [step, h, hQuit]

/- There is no other course that a step can take. -/
theorem step_cases (s : Session κ) :
    (s.engine.isHalted = true ∧ s.step = (s, none)) ∨
      (s.engine.isHalted = false ∧
        s.askQuit.1 = true ∧
        s.step =
          ((s.askQuit.2.note .quitRequested).halt, none)) ∨
      (∃ x,
        s.engine.mode = .awaitingKey x ∧
          s.askQuit.1 = false ∧
          s.step = (s.askQuit.2.receiveKey x, none)) ∨
      (s.engine.mode = .running ∧
        s.askQuit.1 = false ∧
        s.step = s.askQuit.2.runWord) := by
  cases hHalted : s.engine.isHalted with
  | true =>
      exact Or.inl ⟨rfl, step_of_halted hHalted⟩
  | false =>
      apply Or.inr
      cases hQuit : s.askQuit.1 with
      | true =>
          apply Or.inl
          exact ⟨rfl, rfl, step_of_quit hHalted hQuit⟩
      | false =>
          apply Or.inr
          cases hMode : s.engine.mode with
          | running =>
              apply Or.inr
              exact ⟨rfl, rfl, step_of_running hMode hQuit⟩
          | awaitingKey x =>
              apply Or.inl
              exact
                ⟨x, rfl, rfl, step_of_awaiting hMode hQuit⟩
          | halted =>
              rw [Engine.isHalted_iff.mpr hMode] at hHalted
              cases hHalted

end Session

end ChipEight
