import ChipEight.Console.Keypad
import ChipEight.Proofs.Checked.Machine
import ChipEight.Proofs.Session.Sound

/-
  Commands worked out with checks, in place.

  The program counter moves before an instruction is carried
  out and is put back if the instruction faults. This leaves
  the machine of before only if the counter was wrapped, so
  the checked engine relies on a sound machine where the
  plain one does not. For a sound engine no command fails a
  check, and each does what the plain one does.

  Key definitions include:
    * `ChipEight.Session.perform?`
    * `ChipEight.Session.step?`
    * `ChipEight.Session.catchUp?`
    * `ChipEight.Session.obey?`
    * `ChipEight.Engine.listing?`

  Main declarations:
    * `ChipEight.Session.step?_eq`
    * `ChipEight.Session.obey?_eq`
    * `ChipEight.Engine.listing?_eq`
-/

namespace ChipEight

namespace Session

variable {κ : Type}

------------------------------------------------------------
-- Crashes And Loading
------------------------------------------------------------

/- Report a fault, in text too, and stop for good. -/
def crash?
    (s : Session κ)
    (fault : Fault) : Option (Session κ) := do
  let report ← s.engine.machine.snapshot?
  let _ ← report.text?
  let s := s.note (.faulted fault report)
  some
    { s with
      engine :=
        { s.engine with
          crashReport := some report } }.halt

/- Load a program, or crash if it does not fit. -/
def load?
    (s : Session κ)
    (program : List UInt8) :
    Option (Session κ × Option Fault) := do
  let m := s.engine.machine
  match ← m.memory.loadProgram? program with
  | .error fault =>
      let s ← s.crash? fault
      some (s, some fault)
  | .ok memory =>
      let s := s.setMachine { m with memory := memory }
      some
        ({ s with
          engine :=
            { s.engine with
              programSize := program.length } }.note
                (.programLoaded program.length),
          none)

/- A report passes all checks. -/
theorem crash?_eq
    (s : Session κ)
    (fault : Fault) :
    s.crash? fault = some (s.crash fault) := by
  have hText :=
    Snapshot.text?_eq
      s.engine.machine.windowStart_snapshot_lt
      s.engine.machine.length_window_snapshot
  rw [crash?, Machine.snapshot?_eq, Option.bind_eq_bind,
    Option.bind_some, hText]
  rfl

/- So does loading. -/
theorem load?_eq
    (s : Session κ)
    (program : List UInt8) :
    s.load? program = some (s.load program) := by
  unfold load? load
  simp only [Memory.loadProgram?_eq, Option.bind_eq_bind,
    Option.bind_some]
  cases s.engine.machine.memory.loadProgram program with
  | error fault =>
      simp only [crash?_eq, Option.bind_some]
  | ok memory =>
      rfl

------------------------------------------------------------
-- Instructions
------------------------------------------------------------

variable [Controls κ]

/-
  Carry out an instruction that lies at the counter. The
  counter moves first; if the instruction faults, it is put
  back into whatever machine was left.
-/
def perform?
    (s : Session κ)
    (instruction : Instruction) :
    Option (Session κ × Option Fault) := do
  let address := s.engine.machine.processor.pc
  let m := s.engine.machine.passWord
  let (held, s) := s.askKey (m.keyAsked? instruction)
  let (after, met) ← m.execute? held instruction
  match met with
  | some fault =>
      let s ← (s.setMachine (after.jump address)).crash? fault
      some (s, some fault)
  | none =>
      let s := s.noteAll (m.remarks instruction)
      let s := s.setMachine after
      let s := s.attend instruction.aftermath
      some (s.followTone, none)

/- Carry out the word that the counter points at. -/
def runWord?
    (s : Session κ) :
    Option (Session κ × Option Fault) := do
  let address := s.engine.machine.processor.pc
  let word ← s.engine.machine.memory.readWord? address
  match Instruction.decode? word with
  | none =>
      let fault := Fault.undefinedWord word address
      let s ← s.crash? fault
      some (s, some fault)
  | some instruction =>
      let line := { address := address, word := word }
      (s.note (.executing line)).perform? instruction

/- Moving past a word changes no key that is asked about. -/
theorem keyAsked?_passWord
    (m : Machine)
    (instruction : Instruction) :
    m.passWord.keyAsked? instruction =
      m.keyAsked? instruction := by
  cases instruction with
  | skipIf test =>
      cases test with
      | _ => rfl
  | _ => rfl

/- Nor does it change what is remarked. -/
theorem remarks_passWord
    (m : Machine)
    (instruction : Instruction) :
    m.passWord.remarks instruction =
      m.remarks instruction := by
  cases instruction with
  | _ => rfl

/- A wrapped counter that was moved can be put back. -/
theorem jump_passWord
    {m : Machine}
    (h : m.processor.pc.toNat < 4096) :
    m.passWord.jump m.processor.pc = m := by
  have hWrap := Processor.wrap_of_lt h
  rcases m with ⟨⟨v, index, pc, stack⟩, memory⟩
  simp only [Machine.jump, Machine.passWord,
    Processor.advance, Processor.jump] at hWrap ⊢
  rw [hWrap]

/- The machine stays while the controls are asked. -/
theorem setMachine_askKey
    (s : Session κ)
    (key : Option UInt8) :
    (s.askKey key).2.setMachine s.engine.machine =
      (s.askKey key).2 := by
  cases key with
  | none => rfl
  | some key => rfl

/-
  An instruction passes all checks, and its fault leaves the
  machine of before.
-/
theorem perform?_eq
    {s : Session κ}
    (h : s.engine.machine.processor.pc.toNat < 4096)
    (instruction : Instruction) :
    s.perform? instruction =
      some (s.perform instruction) := by
  unfold perform?
  simp only [Machine.execute?_eq, keyAsked?_passWord,
    remarks_passWord, Option.bind_eq_bind, Option.bind_some]
  have hAttempt :
      s.engine.machine.passWord.execute
          (s.askKey
            (s.engine.machine.keyAsked? instruction)).1
          instruction =
        s.attempt instruction :=
    rfl
  rw [hAttempt]
  cases hRun : s.attempt instruction with
  | error fault =>
      rw [perform_of_error hRun]
      simp only [Machine.outcome, jump_passWord h,
        setMachine_askKey, crash?_eq, Option.bind_some]
      rfl
  | ok after =>
      rw [perform_of_ok hRun]
      rfl

/- A word passes all checks. -/
theorem runWord?_eq
    {s : Session κ}
    (h : s.engine.machine.processor.pc.toNat < 4096) :
    s.runWord? = some s.runWord := by
  have hFetch :
      s.engine.machine.memory.readWord?
          s.engine.machine.processor.pc =
        some s.engine.machine.fetch :=
    Memory.readWord?_eq _ _
  unfold runWord?
  simp only [hFetch, Option.bind_eq_bind, Option.bind_some]
  cases hWord :
      Instruction.decode? s.engine.machine.fetch with
  | none =>
      rw [runWord_of_none hWord]
      simp only [crash?_eq, Option.bind_some]
  | some instruction =>
      rw [runWord_of_some hWord]
      refine perform?_eq ?_ instruction
      exact h

------------------------------------------------------------
-- Steps
------------------------------------------------------------

/- One step; a halted engine does nothing. -/
def step?
    (s : Session κ) : Option (Session κ × Option Fault) :=
  match s.engine.mode with
  | .halted => some (s, none)
  | mode =>
      let (quit, s) := s.askQuit
      if quit then
        some ((s.note .quitRequested).halt, none)
      else
        match mode with
        | .awaitingKey x => some (s.receiveKey x, none)
        | _ => s.runWord?

/- A step passes all checks, in every mode. -/
theorem step?_eq
    {s : Session κ}
    (h : s.engine.Sound) :
    s.step? = some s.step := by
  have hCounter := h.machine.processor.counter
  cases hQuit : s.askQuit.1 with
  | true =>
      cases hMode : s.engine.mode with
      | running => simp [step?, step, hMode, hQuit]
      | awaitingKey x => simp [step?, step, hMode, hQuit]
      | halted => simp [step?, step, hMode]
  | false =>
      cases hMode : s.engine.mode with
      | running =>
          rw [step_of_running hMode hQuit]
          simp only [step?, hMode, hQuit]
          exact runWord?_eq hCounter
      | awaitingKey x => simp [step?, step, hMode, hQuit]
      | halted => simp [step?, step, hMode]

------------------------------------------------------------
-- Time
------------------------------------------------------------

/- Do what is due on the clocks and leave them behind. -/
def catchUp?
    (s : Session κ)
    (clocks : Clocks) :
    Option (Session κ × Option Fault) :=
  if s.engine.isHalted then
    some (s.setClocks clocks, none)
  else
    match _hDue : clocks.next? with
    | none => some (s.setClocks clocks, none)
    | some (.tick, later) => s.tick.catchUp? later
    | some (.cycle, later) =>
        match s.step? with
        | none => none
        | some (s, none) => s.catchUp? later
        | some (s, some fault) =>
            some (s.setClocks later, some fault)
termination_by clocks.backlog
decreasing_by
  all_goals exact Clocks.backlog_next?_lt _hDue

/- Let nanoseconds pass; a halted engine does nothing. -/
def advance?
    (s : Session κ)
    (elapsed : Nat) : Option (Session κ × Option Fault) :=
  if s.engine.isHalted then
    some (s, none)
  else
    s.catchUp?
      (s.engine.clocks.collect (min elapsed longestLapse))

/- A halted engine does not catch up. -/
theorem catchUp?_of_halted
    {s : Session κ}
    (h : s.engine.isHalted = true)
    (clocks : Clocks) :
    s.catchUp? clocks = some (s.setClocks clocks, none) := by
  rw [catchUp?, if_pos h]

/- With nothing due there is nothing to catch up on. -/
theorem catchUp?_of_none
    {s : Session κ}
    {clocks : Clocks}
    (h : s.engine.isHalted = false)
    (hNext : clocks.next? = none) :
    s.catchUp? clocks = some (s.setClocks clocks, none) := by
  have hNot : ¬ s.engine.isHalted = true := by
    simp [h]
  rw [catchUp?, if_neg hNot]
  split
  · rfl
  · simp_all
  · simp_all

/-
  What is due next is made, and unless it fails a check or
  faults the engine goes on to catch up.
-/
theorem catchUp?_of_some
    {s : Session κ}
    {clocks later : Clocks}
    {beat : Beat}
    (h : s.engine.isHalted = false)
    (hNext : clocks.next? = some (beat, later))
    (hStep : s.step? = some s.step) :
    s.catchUp? clocks =
      match (s.make beat).2 with
      | none => (s.make beat).1.catchUp? later
      | some fault =>
          some
            ((s.make beat).1.setClocks later,
              some fault) := by
  have hNot : ¬ s.engine.isHalted = true := by
    simp [h]
  rw [catchUp?, if_neg hNot]
  split
  · simp_all
  · rename_i hTick
    rw [hNext] at hTick
    cases hTick
    rfl
  · rename_i hCycle
    rw [hNext] at hCycle
    cases hCycle
    rw [make, hStep]
    rcases s.step with ⟨t, met⟩
    cases met with
    | none => rfl
    | some fault => rfl

/-
  Catching up passes all checks. The induction is on what is
  due, and each beat leaves all in place for the next one.
-/
theorem catchUp?_eq
    {s : Session κ}
    (h : s.engine.Sound)
    (clocks : Clocks) :
    s.catchUp? clocks = some (s.catchUp clocks) := by
  induction clocks using Clocks.due.induct generalizing s with
  | case1 clocks hNext =>
      cases hHalted : s.engine.isHalted with
      | true =>
          rw [catchUp?_of_halted hHalted,
            catchUp_of_halted hHalted]
      | false =>
          rw [catchUp?_of_none hHalted hNext,
            catchUp_of_none hHalted hNext]
  | case2 clocks beat later hNext ih =>
      cases hHalted : s.engine.isHalted with
      | true =>
          rw [catchUp?_of_halted hHalted,
            catchUp_of_halted hHalted]
      | false =>
          rw [catchUp?_of_some hHalted hNext (step?_eq h),
            catchUp_of_some hHalted hNext]
          cases (s.make beat).2 with
          | none => exact ih (sound_make h beat)
          | some fault => rfl

/- So does letting time pass. -/
theorem advance?_eq
    {s : Session κ}
    (h : s.engine.Sound)
    (elapsed : Nat) :
    s.advance? elapsed = some (s.advance elapsed) := by
  unfold advance? advance
  split
  · rfl
  · exact catchUp?_eq h _

------------------------------------------------------------
-- Commands
------------------------------------------------------------

/- Do what a command says. -/
def obey?
    (s : Session κ) :
    Command → Option (Session κ × Option Fault)
  | .load program => s.load? program
  | .step => s.step?
  | .tick => some (s.tick, none)
  | .advance elapsed => s.advance? elapsed
  | .halt => some (s.halt, none)
  | .reseed seed => some (s.reseed seed, none)

/- Every command passes all checks. -/
theorem obey?_eq
    {s : Session κ}
    (h : s.engine.Sound)
    (command : Command) :
    s.obey? command = some (s.obey command) := by
  cases command with
  | load program => exact s.load?_eq program
  | step => exact step?_eq h
  | tick => rfl
  | advance elapsed => exact advance?_eq h elapsed
  | halt => rfl
  | reseed seed => rfl

end Session

/- The listing of the loaded program. -/
def Engine.listing? (e : Engine) : Option (List Line) :=
  e.machine.memory.disassemble? e.programSize

/- The loaded program can be listed. -/
theorem Engine.listing?_eq
    {e : Engine}
    (h : e.Sound) :
    e.listing? = some e.listing :=
  Memory.disassemble?_eq _
    (Nat.le_trans h.programSize (by decide))

/-
  A reachable engine has all in place. So whatever it is told
  next, and with whatever controls, it reads and writes no
  place that does not exist and computes no number that does
  not fit; nor does it when it is only looked at or listed.
-/
theorem Engine.Reachable.passes_all_checks
    {e : Engine}
    (h : e.Reachable) :
    e.Sound ∧
      (∀ {κ : Type} [Controls κ] (s : Session κ),
        s.engine = e →
          ∀ command,
            s.obey? command = some (s.obey command)) ∧
      e.machine.snapshot? = some e.machine.snapshot ∧
      e.machine.snapshot.text? =
        some e.machine.snapshot.text ∧
      e.listing? = some e.listing := by
  have hSound := h.sound
  refine ⟨hSound, ?_, ?_, ?_, ?_⟩
  · rintro κ _ s rfl command
    exact Session.obey?_eq hSound command
  · exact e.machine.snapshot?_eq
  · exact Snapshot.text?_eq
      e.machine.windowStart_snapshot_lt
      e.machine.length_window_snapshot
  · exact Engine.listing?_eq hSound

/-
  An engine that was sent past the end of memory passes
  all checks: its program counter was wrapped.
-/
theorem Engine.passes_all_checks_past_end :
    let start :=
      Session.initial
        (Engine.switchedOn ⟨100, 60⟩ (Generator.ofSeed 7))
        Keypad.initial
    let loaded :=
      (start.obey (.load [0x60, 0xFF, 0xBF, 0xFF])).1
    let e := (loaded.obey (.advance 20000000)).1.engine
    e.Reachable ∧
      e.machine.processor.pc = 0x0FE ∧
      e.Sound ∧
      (∀ {κ : Type} [Controls κ] (s : Session κ),
        s.engine = e →
          ∀ command,
            s.obey? command = some (s.obey command)) ∧
      e.machine.snapshot? = some e.machine.snapshot ∧
      e.machine.snapshot.text? =
        some e.machine.snapshot.text ∧
      e.listing? = some e.listing := by
  intro start loaded e
  have hReachable : e.Reachable :=
    .obey loaded (.advance 20000000)
      (.obey start (.load [0x60, 0xFF, 0xBF, 0xFF])
        (.switchedOn ⟨100, 60⟩ (Generator.ofSeed 7)))
  have hCounter : e.machine.processor.pc = 0x0FE := by
    decide +kernel
  exact ⟨hReachable, hCounter, hReachable.passes_all_checks⟩

end ChipEight
