import ChipEight.Proofs.Checked.Register
import ChipEight.Proofs.Instruction.Forms
import ChipEight.Proofs.Session.Atomicity

/-
  Which faults there are, and what causes them.

  A program can cause three faults only: by a word that names
  no instruction, by a call that finds the call stack full,
  and by a return that finds it empty. The machine alone
  decides whether it meets one. Loading fails by size only.

  Key definitions include:
    * `ChipEight.Machine.Meets`

  Main declarations:
    * `ChipEight.Machine.execute_eq_error_iff`
    * `ChipEight.Session.step_eq_fault_iff`
    * `ChipEight.Session.load_fault_eq`
    * `ChipEight.Session.fault_iff_meets`
-/

namespace ChipEight

namespace Machine

------------------------------------------------------------
-- Faulting Instructions
------------------------------------------------------------

/- A call faults if the call stack is full. -/
theorem call_eq_error_iff
    {m : Machine}
    {a : UInt16}
    {fault : Fault} :
    m.call a = .error fault ↔
      m.processor.stack.depth = 16 ∧
        fault = .stackOverflow := by
  unfold call Processor.push
  cases hPush : m.processor.stack.push? m.processor.pc with
  | none =>
      have hFull : m.processor.stack.depth = 16 :=
        CallStack.push?_eq_none_iff.mp hPush
      simp [hFull, eq_comm]
  | some stack =>
      have hFree : m.processor.stack.depth ≠ 16 := by
        intro hFull
        rw [CallStack.push?_eq_none_iff.mpr hFull] at hPush
        cases hPush
      simp [hFree]

/- A return faults if the call stack is empty. -/
theorem returnFromCall_eq_error_iff
    {m : Machine}
    {fault : Fault} :
    m.returnFromCall = .error fault ↔
      m.processor.stack.depth = 0 ∧
        fault = .returnOutsideCall := by
  unfold returnFromCall Processor.pop
  cases hPop : m.processor.stack.pop? with
  | none =>
      have hEmpty : m.processor.stack.depth = 0 := by
        rw [← CallStack.length_toList,
          CallStack.pop?_eq_none_iff.mp hPop]
        rfl
      simp [hEmpty, eq_comm]
  | some popped =>
      have hSome : m.processor.stack.depth ≠ 0 := by
        rw [← CallStack.length_toList,
          CallStack.toList_pop? hPop]
        simp
      simp [hSome]

/- No other instruction faults. -/
theorem execute_eq_error_iff
    {m : Machine}
    {held : Bool}
    {instruction : Instruction}
    {fault : Fault} :
    m.execute held instruction = .error fault ↔
      (∃ target,
        instruction = .call target ∧
          m.processor.stack.depth = 16 ∧
          fault = .stackOverflow) ∨
        (instruction = .returnFromCall ∧
          m.processor.stack.depth = 0 ∧
          fault = .returnOutsideCall) := by
  cases instruction with
  | call target =>
      simp [execute, call_eq_error_iff]
  | returnFromCall =>
      simp [execute, returnFromCall_eq_error_iff]
  | _ =>
      simp [execute]

------------------------------------------------------------
-- Causes
------------------------------------------------------------

/-
  Whether the word at the counter causes a fault. The faults
  that are not listed have no cause.
-/
def Meets (m : Machine) : Fault → Prop
  | .undefinedWord word address =>
      word = m.fetch ∧
        address = m.processor.pc ∧
        Word.IsUnused word
  | .stackOverflow =>
      m.fetch.toNat / 4096 = 0x2 ∧
        m.processor.stack.depth = 16
  | .returnOutsideCall =>
      m.fetch = 0x00EE ∧ m.processor.stack.depth = 0
  | _ => False

section

variable {m : Machine}

/- A word causes a fault by being unused. -/
@[simp]
theorem meets_undefinedWord {word address : UInt16} :
    m.Meets (.undefinedWord word address) ↔
      word = m.fetch ∧
        address = m.processor.pc ∧
        Word.IsUnused word :=
  Iff.rfl

/- A call causes a fault by being too deep. -/
@[simp]
theorem meets_stackOverflow :
    m.Meets .stackOverflow ↔
      m.fetch.toNat / 4096 = 0x2 ∧
        m.processor.stack.depth = 16 :=
  Iff.rfl

/- A return causes a fault by being outside any call. -/
@[simp]
theorem meets_returnOutsideCall :
    m.Meets .returnOutsideCall ↔
      m.fetch = 0x00EE ∧ m.processor.stack.depth = 0 :=
  Iff.rfl

/- No word takes an address from an empty stack otherwise. -/
@[simp]
theorem not_meets_stackUnderflow :
    ¬ m.Meets .stackUnderflow :=
  not_false

/- No word names a register that there is not. -/
@[simp]
theorem not_meets_noSuchRegister {index : UInt8} :
    ¬ m.Meets (.noSuchRegister index) :=
  not_false

/- No word loads a program. -/
@[simp]
theorem not_meets_programTooLarge {size limit : Nat} :
    ¬ m.Meets (.programTooLarge size limit) :=
  not_false

end

/- Three kinds of faults have no cause in a machine. -/
theorem Meets.ne
    {m : Machine}
    {fault : Fault}
    (h : m.Meets fault) :
    fault ≠ .stackUnderflow ∧
      (∀ index, fault ≠ .noSuchRegister index) ∧
      ∀ size limit, fault ≠ .programTooLarge size limit := by
  cases fault with
  | undefinedWord word address => simp
  | stackOverflow => simp
  | returnOutsideCall => simp
  | _ => simp at h

/- A word that names no instruction causes one fault. -/
theorem meets_iff_of_none
    {m : Machine}
    {fault : Fault}
    (h : Instruction.decode? m.fetch = none) :
    m.Meets fault ↔
      fault = .undefinedWord m.fetch m.processor.pc := by
  have hUnused := Instruction.decode?_eq_none_iff.mp h
  have hCall : m.fetch.toNat / 4096 ≠ 0x2 := by
    intro hClass
    rw [Instruction.decode?_of_class_call hClass] at h
    cases h
  have hReturn : m.fetch ≠ 0x00EE := by
    intro hWord
    rw [Instruction.decode?_eq_return_iff.mpr hWord] at h
    cases h
  cases fault with
  | undefinedWord word address =>
      rw [meets_undefinedWord, Fault.undefinedWord.injEq]
      constructor
      · rintro ⟨rfl, rfl, _⟩
        exact ⟨rfl, rfl⟩
      · rintro ⟨rfl, rfl⟩
        exact ⟨rfl, rfl, hUnused⟩
  | _ =>
      simp [hCall, hReturn]

/- An instruction causes the fault that it ends with. -/
theorem meets_iff_of_some
    {m : Machine}
    {held : Bool}
    {instruction : Instruction}
    {fault : Fault}
    (h : Instruction.decode? m.fetch = some instruction) :
    m.Meets fault ↔
      m.passWord.execute held instruction =
        .error fault := by
  have hUsed : ¬ Word.IsUnused m.fetch := by
    rw [← Instruction.decode?_eq_none_iff, h]
    simp
  have hStack :
      m.passWord.processor.stack = m.processor.stack :=
    rfl
  rw [execute_eq_error_iff, hStack]
  cases fault with
  | undefinedWord word address =>
      simp only [meets_undefinedWord, reduceCtorEq,
        and_false, exists_false, or_self, iff_false]
      rintro ⟨rfl, _, hUnused⟩
      exact hUsed hUnused
  | stackOverflow =>
      simp only [meets_stackOverflow, reduceCtorEq,
        and_false, or_false, and_true]
      constructor
      · rintro ⟨hClass, hFull⟩
        rw [Instruction.decode?_of_class_call hClass] at h
        cases h
        exact ⟨_, rfl, hFull⟩
      · rintro ⟨target, rfl, hFull⟩
        exact ⟨Instruction.class_of_decode?_call h, hFull⟩
  | returnOutsideCall =>
      simp only [meets_returnOutsideCall, reduceCtorEq,
        and_false, exists_false, false_or, and_true]
      rw [← Instruction.decode?_eq_return_iff, h,
        Option.some.injEq]
  | _ =>
      simp

end Machine

namespace Session

variable {κ : Type}

------------------------------------------------------------
-- Loads
------------------------------------------------------------

/- A program faults by its size only. -/
theorem load_fault_eq
    (s : Session κ)
    (program : List UInt8) :
    (s.load program).2 =
      if 3584 < program.length then
        some (.programTooLarge program.length 3584)
      else
        none := by
  have hLimit : Memory.programLimit = 3584 := rfl
  unfold load Memory.loadProgram
  rw [hLimit]
  split
  · rfl
  · rfl

------------------------------------------------------------
-- Steps
------------------------------------------------------------

variable [Controls κ]

/- A word faults if the machine meets the fault. -/
theorem runWord_eq_fault_iff
    {s : Session κ}
    {fault : Fault} :
    s.runWord.2 = some fault ↔
      s.engine.machine.Meets fault := by
  cases hWord :
      Instruction.decode? s.engine.machine.fetch with
  | none =>
      rw [runWord_of_none hWord,
        Machine.meets_iff_of_none hWord, Option.some.injEq]
      exact eq_comm
  | some instruction =>
      let t :=
        s.note
          (.executing
            { address := s.engine.machine.processor.pc
              word := s.engine.machine.fetch })
      have hRun : s.runWord = t.perform instruction :=
        runWord_of_some hWord
      have hMeets :
          s.engine.machine.Meets fault ↔
            t.attempt instruction = .error fault :=
        Machine.meets_iff_of_some hWord
      rw [hRun, hMeets]
      cases hAttempt : t.attempt instruction with
      | error met =>
          rw [perform_of_error hAttempt, Option.some.injEq,
            Except.error.injEq]
      | ok after =>
          rw [perform_of_ok hAttempt]
          simp

/-
  A step faults if it carries a word out and the machine
  meets the fault.
-/
theorem step_eq_fault_iff
    {s : Session κ}
    {fault : Fault} :
    s.step.2 = some fault ↔
      s.engine.mode = .running ∧
        (Controls.wantsQuit s.controls).1 = false ∧
        s.engine.machine.Meets fault := by
  constructor
  · intro h
    rcases step_of_fault h with ⟨hMode, hQuit, hStep⟩
    rw [hStep] at h
    have hMeets := runWord_eq_fault_iff.mp h
    exact ⟨hMode, hQuit, hMeets⟩
  · rintro ⟨hMode, hQuit, hMeets⟩
    have hAsk : s.askQuit.1 = false := hQuit
    rw [step_of_running hMode hAsk]
    exact runWord_eq_fault_iff.mpr hMeets

/- Letting time pass faults as the step does that faults. -/
theorem exists_meets_of_advance_fault
    {s : Session κ}
    {elapsed : Nat}
    {fault : Fault}
    (h : (s.advance elapsed).2 = some fault) :
    ∃ made,
      (made ++ [.cycle]) <+:
          (s.engine.clocks.collect
            (min elapsed longestLapse)).due ∧
        (s.makeAll made).1.engine.machine.Meets fault := by
  rcases exists_made_of_advance_fault h with
    ⟨made, hPrefix, _, hStep, _⟩
  exact ⟨made, hPrefix, (step_eq_fault_iff.mp hStep).2.2⟩

/-
  Faults have their causes, also when registers are looked up
  by number. A step faults if and only if a word is carried
  out that the machine cannot carry out: one that fits none
  of the forms, a call too deep or a return outside a call.
  Nothing else ends a step or a lapse of time with a fault,
  and a program is refused by its size alone.
-/
theorem fault_iff_meets (s : Session κ) :
    (∀ t : Session κ, t.stepByNumber = t.step) ∧
      (∀ fault,
        s.step.2 = some fault ↔
          s.engine.mode = .running ∧
            (Controls.wantsQuit s.controls).1 = false ∧
            s.engine.machine.Meets fault) ∧
      (∀ w : Word,
        w.IsUnused ↔ ∀ f ∈ Word.forms, ¬ f.Fits w) ∧
      (∀ elapsed fault,
        (s.advance elapsed).2 = some fault →
          ∃ made,
            (made ++ [.cycle]) <+:
                (s.engine.clocks.collect
                  (min elapsed longestLapse)).due ∧
              (s.makeAll made).1.engine.machine.Meets
                fault) ∧
      (∀ fault,
        (s.step.2 = some fault ∨
            ∃ elapsed, (s.advance elapsed).2 = some fault) →
          fault ≠ .stackUnderflow ∧
            (∀ index, fault ≠ .noSuchRegister index) ∧
            ∀ size limit,
              fault ≠ .programTooLarge size limit) ∧
      ∀ program,
        (s.load program).2 =
          if 3584 < program.length then
            some (.programTooLarge program.length 3584)
          else
            none := by
  refine ⟨stepByNumber_eq, ?_, ?_, ?_, ?_, ?_⟩
  · intro fault
    exact step_eq_fault_iff
  · intro w
    exact Word.isUnused_iff_fits_none
  · intro elapsed fault hFault
    exact exists_meets_of_advance_fault hFault
  · rintro fault (hStep | ⟨elapsed, hAdvance⟩)
    · exact (step_eq_fault_iff.mp hStep).2.2.ne
    · rcases exists_meets_of_advance_fault hAdvance with
        ⟨_, _, hMeets⟩
      exact hMeets.ne
  · exact s.load_fault_eq

end Session

end ChipEight
