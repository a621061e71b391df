import ChipEight.Console.Keypad
import ChipEight.Proofs.Machine.Footprint
import ChipEight.Proofs.Session.Outcome

/-
  Which parts of its machine a step can change.

  A step of a running engine changes what the word at the
  counter can change, and nothing at all if it faults. While a
  key is awaited, a step changes one register, and that only
  if a key was pressed.

  Key definitions include:
    * `ChipEight.Session.Footprint`

  Main declarations:
    * `ChipEight.Session.keepsTo_step`
    * `ChipEight.Session.same_step_of_awaiting`
    * `ChipEight.Session.footprint_or_same_step`
    * `ChipEight.Session.steps_keep_to_footprints`
-/

namespace ChipEight

namespace Session

variable {κ : Type} [Controls κ]

/-
  Whether a step can change a part of its machine: the player
  does not quit, and it is a part that the word can change or
  the register that a key is awaited for.
-/
def Footprint
    (s : Session κ)
    (part : Part) : Prop :=
  s.askQuit.1 = false ∧
    match s.engine.mode with
    | .running =>
        s.engine.machine.Footprint s.engine.machine.fetch part
    | .awaitingKey x =>
        (∃ key, s.askQuit.2.takePress.1 = some key) ∧
          part = .register x
    | .halted => False

/- A running engine keeps to the footprint of its word. -/
theorem keepsTo_step
    {s : Session κ}
    (hMode : s.engine.mode = .running) :
    s.engine.machine.KeepsTo s.engine.machine.fetch
      s.step.1.engine.machine := by
  rcases s.outcome_step with ⟨talk, _, hOutcome⟩
  generalize s.step.1.engine = left at hOutcome
  generalize s.deed? = deed at hOutcome
  generalize s.step.2 = fault at hOutcome
  cases hOutcome with
  | receives x key hAwaiting =>
      rw [hMode] at hAwaiting
      cases hAwaiting
  | carries instruction held press after _ hWord hRun =>
      have hKeeps := Machine.keepsTo_of_decode? hWord hRun
      exact hKeeps.of_passWord
  | _ => exact Machine.keepsTo_refl _ _

/- An engine that waits changes what it waits to change. -/
theorem same_step_of_awaiting
    {s : Session κ}
    {x : Register}
    (hMode : s.engine.mode = .awaitingKey x)
    (hQuit : s.askQuit.1 = false)
    (part : Part) :
    ((∃ key, s.askQuit.2.takePress.1 = some key) ∧
        part = .register x) ∨
      part.Same s.engine.machine s.step.1.engine.machine := by
  rw [step_of_awaiting hMode hQuit]
  cases hPress : s.askQuit.2.takePress.1 with
  | none =>
      rw [receiveKey_of_none hPress]
      exact Or.inr (part.same_refl _)
  | some key =>
      rw [receiveKey_of_some hPress]
      by_cases hPart : part = .register x
      · exact Or.inl ⟨⟨key, rfl⟩, hPart⟩
      · apply Or.inr
        exact Machine.same_setReg hPart _

/- Any step leaves what it cannot change. -/
theorem footprint_or_same_step
    (s : Session κ)
    (part : Part) :
    s.Footprint part ∨
      part.Same s.engine.machine s.step.1.engine.machine := by
  rcases s.step_cases with
    ⟨_, hStep⟩ | ⟨_, _, hStep⟩ | ⟨x, hMode, hQuit, _⟩ |
      ⟨hMode, hQuit, _⟩
  · rw [hStep]
    exact Or.inr (part.same_refl _)
  · rw [hStep, engine_halt]
    exact Or.inr (part.same_refl _)
  · have hSame := same_step_of_awaiting hMode hQuit part
    simpa [Footprint, hMode, hQuit] using hSame
  · have hSame := keepsTo_step hMode part
    simpa [Footprint, hMode, hQuit] using hSame

/-
  Every instruction keeps to the footprint of its word, also
  where it faults: it leaves all parts that the word cannot
  change, whatever the machine and whether a key is held. A
  machine has no other parts than these. A step changes at
  most what its word can change, or the register that a key
  is awaited for, once it comes; a step that faults changes
  nothing.
-/
theorem steps_keep_to_footprints :
    (∀ (m : Machine) (held : Bool) (w : Word)
        (instruction : Instruction),
      Instruction.decode? w = some instruction →
        (∀ after,
            m.execute held instruction = .ok after →
              m.KeepsTo w after) ∧
          ∃ after fault,
            m.execute? held instruction =
                some (after, fault) ∧
              m.KeepsTo w after) ∧
      (∀ m after : Machine,
        (∀ part : Part, part.Same m after) ↔ after = m) ∧
      ∀ s : Session κ,
        (∀ part : Part,
            s.Footprint part ∨
              part.Same s.engine.machine
                s.step.1.engine.machine) ∧
          (s.step.2 = none ∨
            s.step.1.engine.machine = s.engine.machine) := by
  refine ⟨?_, ?_, ?_⟩
  · intro m held w instruction hWord
    constructor
    · intro after hRun
      exact Machine.keepsTo_of_decode? hWord hRun
    · exact m.keepsTo_execute held hWord
  · intro m after
    exact Machine.same_iff_eq
  · intro s
    refine ⟨s.footprint_or_same_step, ?_⟩
    cases hFault : s.step.2 with
    | none => exact Or.inl rfl
    | some fault =>
        rw [engine_step_of_fault hFault]
        exact Or.inr rfl

/-
  Three registers are filled from memory. The next register
  and all of memory stay as they were.
-/
theorem three_registers_are_filled :
    let m := Machine.initial 7
    Instruction.decode? 0xF265 =
        some (.restoreRegisters 2) ∧
      m.execute false (.restoreRegisters 2) =
        .ok (m.restore 2) ∧
      (m.restore 2).reg 2 ≠ m.reg 2 ∧
      (m.restore 2).reg 3 = m.reg 3 ∧
      ∀ a,
        (m.restore 2).memory.cells.get a =
          m.memory.cells.get a := by
  intro m
  have hWord :
      Instruction.decode? 0xF265 =
        some (.restoreRegisters 2) := by
    decide
  have hKeeps : m.KeepsTo 0xF265 (m.restore 2) :=
    ((@steps_keep_to_footprints Keypad _).1 m false 0xF265
      (.restoreRegisters 2) hWord).1 _ rfl
  refine ⟨hWord, rfl, ?_, ?_, ?_⟩
  · decide +kernel
  · have hOutside : ¬ m.Footprint 0xF265 (.register 3) := by
      decide
    exact (hKeeps (.register 3)).resolve_left hOutside
  · intro a
    have hOutside : ¬ m.Footprint 0xF265 (.cell a) := by
      rintro (⟨hFits, _⟩ | ⟨hFits, _⟩)
      · exact absurd hFits (by decide)
      · exact absurd hFits (by decide)
    exact (hKeeps (.cell a)).resolve_left hOutside

end Session

end ChipEight
