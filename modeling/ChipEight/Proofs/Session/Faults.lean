import ChipEight.Proofs.Session.Conduct

/-
  What a fault leaves behind.

  Only two instructions can fault, and neither of them asks
  for a key. So whatever the fault, the only question of the
  step was whether the player wants to quit, and the crash
  finds the machine as it was before the step.

  Main declarations:
    * `ChipEight.Session.isHalted_step_of_fault`
    * `ChipEight.Session.engine_step_of_fault`
    * `ChipEight.Session.exchanges_step_of_fault`
    * `ChipEight.Session.load_of_fault`
-/

namespace ChipEight

------------------------------------------------------------
-- Faulting Instructions
------------------------------------------------------------

/- An instruction that faults asks for no key. -/
theorem Machine.keyAsked?_of_execute_error
    {before m : Machine}
    {held : Bool}
    {instruction : Instruction}
    {fault : Fault}
    (h : before.execute held instruction = .error fault) :
    m.keyAsked? instruction = none := by
  cases instruction with
  | skipIf test =>
      simp [execute] at h
  | _ =>
      rfl

namespace Session

variable {κ : Type} [Controls κ]

/- The answer to an unasked question changes nothing. -/
theorem askKey_none (s : Session κ) :
    s.askKey none = (false, s) :=
  rfl

/-
  An instruction that faults makes the engine crash, with
  nothing done before.
-/
theorem perform_of_fault
    {s : Session κ}
    {instruction : Instruction}
    {fault : Fault}
    (h : (s.perform instruction).2 = some fault) :
    (s.perform instruction).1 = s.crash fault := by
  cases hRun : s.attempt instruction with
  | error met =>
      have hAsked :
          s.engine.machine.keyAsked? instruction = none :=
        Machine.keyAsked?_of_execute_error hRun
      rw [perform_of_error hRun, askFor, hAsked,
        askKey_none] at h ⊢
      cases h
      rfl
  | ok after =>
      rw [perform_of_ok hRun] at h
      cases h

------------------------------------------------------------
-- Faulting Steps
------------------------------------------------------------

/- A word that faults makes the engine crash. -/
theorem engine_runWord_of_fault
    {s : Session κ}
    {fault : Fault}
    (h : s.runWord.2 = some fault) :
    s.runWord.1.engine = (s.crash fault).engine ∧
      s.runWord.1.exchanges = s.exchanges ∧
      s.runWord.1.controls = s.controls := by
  cases hWord :
      Instruction.decode? s.engine.machine.fetch with
  | none =>
      rw [runWord_of_none hWord] at h ⊢
      cases h
      refine ⟨rfl, ?_, ?_⟩
      · simp
      · simp
  | some instruction =>
      rw [runWord_of_some hWord] at h ⊢
      rw [perform_of_fault h]
      refine ⟨?_, ?_, ?_⟩
      · rw [engine_crash, engine_crash]
        rfl
      · simp
      · simp [note]

/-
  A step that faults was one of a running engine whose player
  did not want to quit, and it carried a word out.
-/
theorem step_of_fault
    {s : Session κ}
    {fault : Fault}
    (h : s.step.2 = some fault) :
    s.engine.mode = .running ∧
      s.askQuit.1 = false ∧
      s.step = s.askQuit.2.runWord := by
  rcases s.step_cases with
    ⟨_, hStep⟩ | ⟨_, _, hStep⟩ | ⟨x, _, _, hStep⟩ | hRunning
  · rw [hStep] at h
    cases h
  · rw [hStep] at h
    cases h
  · rw [hStep] at h
    cases h
  · exact hRunning

/-
  A step that faults halts the engine and keeps a picture of
  the machine, which stays as it was.
-/
theorem engine_step_of_fault
    {s : Session κ}
    {fault : Fault}
    (h : s.step.2 = some fault) :
    s.step.1.engine =
      { s.engine with
        mode := .halted
        crashReport := some s.engine.machine.snapshot } := by
  rcases step_of_fault h with ⟨_, _, hStep⟩
  rw [hStep] at h ⊢
  rw [(engine_runWord_of_fault h).1, engine_crash]
  rfl

/- A step that faults has asked one question only. -/
theorem exchanges_step_of_fault
    {s : Session κ}
    {fault : Fault}
    (h : s.step.2 = some fault) :
    s.step.1.exchanges =
      s.exchanges.push (.quitAsked false) := by
  rcases step_of_fault h with ⟨_, hQuit, hStep⟩
  have hAsk :
      s.askQuit.2.exchanges =
        s.exchanges.push (.quitAsked s.askQuit.1) :=
    rfl
  rw [hStep] at h ⊢
  rw [(engine_runWord_of_fault h).2.1, hAsk, hQuit]

/- A step that faults halts the engine. -/
theorem isHalted_step_of_fault
    {s : Session κ}
    {fault : Fault}
    (h : s.step.2 = some fault) :
    s.step.1.engine.isHalted = true := by
  rw [engine_step_of_fault h]
  rfl

------------------------------------------------------------
-- Faulting Loads
------------------------------------------------------------

/- A load that faults makes the engine crash. -/
omit [Controls κ] in
theorem load_of_fault
    {s : Session κ}
    {program : List UInt8}
    {fault : Fault}
    (h : (s.load program).2 = some fault) :
    (s.load program).1 = s.crash fault := by
  cases hLoad :
      s.engine.machine.memory.loadProgram program with
  | error met =>
      rw [load_of_error hLoad] at h ⊢
      cases h
      rfl
  | ok memory =>
      rw [load_of_ok hLoad] at h
      cases h

end Session

end ChipEight
