import ChipEight.Proofs.Checked.Session

/-
  A fault leaves the machine as it was.

  An engine that meets a fault stops and keeps a picture of
  its machine, and nothing else about it changes. A faulting
  step has moved the program counter by then and must put it
  back. When time passes, the engine stops at the beat that
  faults, with what the beats before it have made.

  Key definitions include:
    * `ChipEight.Session.StoppedAs`

  Main declarations:
    * `ChipEight.Session.stoppedAs_step`
    * `ChipEight.Session.stoppedAs_load`
    * `ChipEight.Session.exists_made_of_makeAll_fault`
    * `ChipEight.Session.advance_eq_fault_iff`
    * `ChipEight.Session.faults_leave_machine`
-/

namespace ChipEight

namespace Session

variable {κ : Type}

------------------------------------------------------------
-- Stopped Engines
------------------------------------------------------------

/-
  Whether an engine stopped just as it was before, with a
  picture of what its machine was before.
-/
def StoppedAs (after before : Session κ) : Prop :=
  after.engine =
    { before.engine with
      mode := .halted
      crashReport := some before.engine.machine.snapshot }

/- A stopped engine has the machine of before. -/
theorem StoppedAs.machine_eq
    {after before : Session κ}
    (h : after.StoppedAs before) :
    after.engine.machine = before.engine.machine := by
  rw [h]

/- A stopped engine has halted. -/
theorem StoppedAs.isHalted
    {after before : Session κ}
    (h : after.StoppedAs before) :
    after.engine.isHalted = true := by
  rw [h]
  rfl

/- A load that faults stops the engine as it was. -/
theorem stoppedAs_load
    {s : Session κ}
    {program : List UInt8}
    {fault : Fault}
    (h : (s.load program).2 = some fault) :
    (s.load program).1.StoppedAs s ∧
      (s.load program).1.exchanges = s.exchanges ∧
      (s.load program).1.controls = s.controls := by
  rw [load_of_fault h]
  refine ⟨engine_crash s fault, ?_, ?_⟩
  · exact exchanges_crash s fault
  · exact controls_crash s fault

variable [Controls κ]

/-
  A step that faults stops the engine as it was, with one
  question asked.
-/
theorem stoppedAs_step
    {s : Session κ}
    {fault : Fault}
    (h : s.step.2 = some fault) :
    s.step.1.StoppedAs s ∧
      s.step.1.exchanges =
        s.exchanges.push (.quitAsked false) :=
  ⟨engine_step_of_fault h, exchanges_step_of_fault h⟩

------------------------------------------------------------
-- Beats That Fault
------------------------------------------------------------

/-
  Beats that meet a fault meet it in a step behind some that
  meet none, and end with that step.
-/
theorem exists_made_of_makeAll_fault
    {s : Session κ}
    {beats : List Beat}
    {fault : Fault}
    (h : (s.makeAll beats).2 = [fault]) :
    ∃ made,
      (made ++ [.cycle]) <+: beats ∧
        (s.makeAll made).2 = [] ∧
        (s.makeAll made).1.step.2 = some fault ∧
        (s.makeAll beats).1 =
          (s.makeAll made).1.step.1 := by
  induction beats generalizing s with
  | nil =>
      cases h
  | cons beat rest ih =>
      cases hFault : (s.make beat).2 with
      | none =>
          have hRest :
              ((s.make beat).1.makeAll rest).2 =
                [fault] := by
            rw [makeAll_cons, hFault] at h
            exact h
          rcases ih hRest with
            ⟨made, hPrefix, hNone, hStep, hEnd⟩
          refine ⟨beat :: made, ?_, ?_, ?_, ?_⟩
          · exact List.cons_prefix_cons.mpr ⟨rfl, hPrefix⟩
          · rw [makeAll_cons, hFault, hNone]
            rfl
          · exact hStep
          · exact hEnd
      | some met =>
          have hHalted := isHalted_make_of_fault hFault
          rw [makeAll_cons, hFault,
            makeAll_of_halted hHalted] at h
          cases h
          cases beat with
          | tick => cases hFault
          | cycle =>
              refine ⟨[], ?_, rfl, hFault, ?_⟩
              · exact ⟨rest, rfl⟩
              · rw [makeAll_cons,
                  makeAll_of_halted hHalted]
                rfl

/-
  An engine that meets a fault while time passes ends with
  the step that faults, behind beats that are due before it.
-/
theorem exists_made_of_advance_fault
    {s : Session κ}
    {elapsed : Nat}
    {fault : Fault}
    (h : (s.advance elapsed).2 = some fault) :
    ∃ made,
      (made ++ [.cycle]) <+:
          (s.engine.clocks.collect
            (min elapsed longestLapse)).due ∧
        (s.makeAll made).2 = [] ∧
        (s.makeAll made).1.step.2 = some fault ∧
        (s.advance elapsed).1.SameButClocks
          (s.makeAll made).1.step.1 := by
  have hDue := s.makesDue_advance elapsed
  have hFaults := hDue.faults
  rw [h] at hFaults
  rcases exists_made_of_makeAll_fault hFaults.symm with
    ⟨made, hPrefix, hNone, hStep, hEnd⟩
  refine ⟨made, hPrefix, hNone, hStep, ?_⟩
  rw [← hEnd]
  exact hDue.session

/-
  Time that passes meets a fault if and only if one of the
  steps that are due meets it.
-/
theorem advance_eq_fault_iff
    {s : Session κ}
    {elapsed : Nat}
    {fault : Fault} :
    (s.advance elapsed).2 = some fault ↔
      ∃ made,
        (made ++ [.cycle]) <+:
            (s.engine.clocks.collect
              (min elapsed longestLapse)).due ∧
          (s.makeAll made).2 = [] ∧
          (s.makeAll made).1.step.2 = some fault := by
  constructor
  · intro h
    rcases exists_made_of_advance_fault h with
      ⟨made, hPrefix, hNone, hStep, _⟩
    exact ⟨made, hPrefix, hNone, hStep⟩
  · rintro ⟨made, ⟨rest, hRest⟩, hNone, hStep⟩
    have hHalted := isHalted_step_of_fault hStep
    have hFaults := (s.makesDue_advance elapsed).faults
    rw [← hRest, makeAll_append, makeAll_append, hNone,
      makeAll_cons] at hFaults
    change
      (s.advance elapsed).2.toList =
        [] ++ ((s.makeAll made).1.step.2.toList ++ []) ++
          ((s.makeAll made).1.step.1.makeAll rest).2
      at hFaults
    rw [hStep, makeAll_of_halted hHalted] at hFaults
    cases hFault : (s.advance elapsed).2 with
    | none =>
        rw [hFault] at hFaults
        cases hFaults
    | some met =>
        rw [hFault] at hFaults
        cases hFaults
        rfl

------------------------------------------------------------
-- Atomic Faults
------------------------------------------------------------

/-
  Faults are atomic, also when a command is worked out in
  place with the counter moved first: a step or a load that
  faults stops a reachable engine just as it was, and a fault
  met while time passes stops it just as it was before the
  step that faults.
-/
theorem faults_leave_machine
    {s : Session κ}
    (hReachable : s.engine.Reachable) :
    (s.step? = some s.step ∧
        ∀ fault,
          s.step.2 = some fault →
            s.step.1.StoppedAs s ∧
              s.step.1.exchanges =
                s.exchanges.push (.quitAsked false)) ∧
      (∀ program,
        s.load? program = some (s.load program) ∧
          ∀ fault,
            (s.load program).2 = some fault →
              (s.load program).1.StoppedAs s ∧
                (s.load program).1.exchanges =
                  s.exchanges ∧
                (s.load program).1.controls =
                  s.controls) ∧
      ∀ elapsed,
        s.advance? elapsed = some (s.advance elapsed) ∧
          ∀ fault,
            (s.advance elapsed).2 = some fault →
              ∃ made,
                (made ++ [.cycle]) <+:
                    (s.engine.clocks.collect
                      (min elapsed longestLapse)).due ∧
                  let before := (s.makeAll made).1
                  (s.makeAll made).2 = [] ∧
                    before.step.2 = some fault ∧
                    (s.advance elapsed).1.SameButClocks
                      before.step.1 ∧
                    before.step.1.StoppedAs before ∧
                    (s.advance elapsed).1.engine.machine =
                      before.engine.machine ∧
                    (s.advance elapsed).1.engine.isHalted =
                      true := by
  have hSound := hReachable.sound
  refine ⟨⟨step?_eq hSound, ?_⟩, ?_, ?_⟩
  · intro fault hFault
    exact stoppedAs_step hFault
  · intro program
    refine ⟨s.load?_eq program, ?_⟩
    intro fault hFault
    exact stoppedAs_load hFault
  · intro elapsed
    refine ⟨advance?_eq hSound elapsed, ?_⟩
    intro fault hFault
    rcases exists_made_of_advance_fault hFault with
      ⟨made, hPrefix, hNone, hStep, hEnd⟩
    have hStopped := (stoppedAs_step hStep).1
    refine
      ⟨made, hPrefix, hNone, hStep, hEnd, hStopped, ?_, ?_⟩
    · rw [hEnd.machine_eq]
      exact hStopped.machine_eq
    · rw [hEnd.isHalted_eq]
      exact hStopped.isHalted

/-
  A return outside any call, behind a jump, stops an engine
  where it was.
-/
theorem stoppedAs_return_outside_call :
    let s :=
      (((Session.initial
        (Engine.switchedOn ⟨100, 60⟩ (Generator.ofSeed 7))
        Keypad.initial).obey
          (.load [0x12, 0x02, 0x00, 0xEE])).1.obey .step).1
    s.engine.Reachable ∧
      s.step.2 = some .returnOutsideCall ∧
      s.step? = some s.step ∧
      s.step.1.StoppedAs s ∧
      s.step.1.exchanges =
        s.exchanges.push (.quitAsked false) := by
  intro s
  have hReachable : s.engine.Reachable :=
    .obey _ .step
      (.obey _ (.load [0x12, 0x02, 0x00, 0xEE])
        (.switchedOn ⟨100, 60⟩ (Generator.ofSeed 7)))
  have hFault : s.step.2 = some .returnOutsideCall := by
    decide +kernel
  have hAtomic := (faults_leave_machine hReachable).1
  exact
    ⟨hReachable, hFault, hAtomic.1, hAtomic.2 _ hFault⟩

end Session

end ChipEight
