import ChipEight.Instruction.Encoding
import ChipEight.Machine.Execute

/-
  Which parts of a machine an instruction can change.

  Most instructions work on the registers and the call stack
  alone, and many of these on the registers only. The random
  bytes are used up by one instruction only, which takes the
  next of them.

  Key definitions include:
    * `ChipEight.Machine.CarriesOut`
    * `ChipEight.Machine.SameButRegisters`
    * `ChipEight.Machine.setStack`
    * `ChipEight.Machine.SameButProcessor`
    * `ChipEight.Instruction.takesRandom`

  Main declarations:
    * `ChipEight.Machine.reg_setReg_self`
    * `ChipEight.Machine.reg_setReg_of_ne`
    * `ChipEight.Machine.mem_registersTo_iff`
    * `ChipEight.Machine.exists_push_of_call`
    * `ChipEight.Machine.exists_pop_of_returnFromCall`
    * `ChipEight.Machine.sameButProcessor_call`
    * `ChipEight.Machine.sameButProcessor_returnFromCall`
    * `ChipEight.Machine.sameButProcessor_combine`
    * `ChipEight.Machine.sameButProcessor_restore`
    * `ChipEight.Machine.generator_execute`
-/

namespace ChipEight

namespace Machine

------------------------------------------------------------
-- Words
------------------------------------------------------------

/-
  Whether a machine carries a word out, without a fault, and
  ends in a machine of which something holds.
-/
def CarriesOut
    (m : Machine)
    (held : Bool)
    (w : Word)
    (holds : Machine → Prop) : Prop :=
  ∃ instruction after,
    Instruction.decode? w = some instruction ∧
      m.execute held instruction = .ok after ∧
      holds after

------------------------------------------------------------
-- Registers
------------------------------------------------------------

/- A register holds what was put into it. -/
theorem reg_setReg_self
    (m : Machine)
    (x : Register)
    (value : UInt8) :
    (m.setReg x value).reg x = value :=
  m.processor.get_set_self x value

/- The other registers keep what they held. -/
theorem reg_setReg_of_ne
    (m : Machine)
    {x r : Register}
    (value : UInt8)
    (h : r ≠ x) :
    (m.setReg x value).reg r = m.reg r :=
  m.processor.get_set_of_ne value h.symm

/- Registers are counted from the first one on. -/
theorem registersTo_eq (x : Register) :
    registersTo x =
      (List.range (x.val + 1)).map Register.ofNat := by
  revert x
  decide

/- The registers up to one of them come no later. -/
theorem mem_registersTo_iff {x r : Register} :
    r ∈ registersTo x ↔ r ≤ x := by
  rw [registersTo_eq, List.mem_map]
  constructor
  · rintro ⟨k, hCount, rfl⟩
    have hLt := List.mem_range.mp hCount
    apply Fin.le_def.mpr
    simp only [Register.ofNat]
    omega
  · intro hLe
    have hLt : r.val < x.val + 1 :=
      Nat.lt_succ_of_le hLe
    refine ⟨r.val, List.mem_range.mpr hLt, ?_⟩
    exact Fin.ext (Nat.mod_eq_of_lt r.isLt)

/- Whether two machines are the same but for registers. -/
def SameButRegisters (m after : Machine) : Prop :=
  after =
    { m with
      processor :=
        { m.processor with v := after.processor.v } }

------------------------------------------------------------
-- Registers And Calls
------------------------------------------------------------

/- Put another call stack in place. -/
def setStack
    (m : Machine)
    (stack : CallStack) : Machine :=
  { m with processor := { m.processor with stack := stack } }

/- Whether two machines are the same but for processors. -/
def SameButProcessor (m after : Machine) : Prop :=
  after = { m with processor := after.processor }

/- A call adds the counter to the call stack and goes on. -/
theorem exists_push_of_call
    {m after : Machine}
    {a : UInt16}
    (h : m.call a = .ok after) :
    ∃ stack,
      m.processor.stack.push? m.processor.pc = some stack ∧
        after = (m.setStack stack).jump a := by
  unfold call Processor.push at h
  cases hPush : m.processor.stack.push? m.processor.pc with
  | none =>
      rw [hPush] at h
      cases h
  | some stack =>
      rw [hPush] at h
      cases h
      exact ⟨stack, rfl, rfl⟩

/- A return takes an address off and goes on there. -/
theorem exists_pop_of_returnFromCall
    {m after : Machine}
    (h : m.returnFromCall = .ok after) :
    ∃ a stack,
      m.processor.stack.pop? = some (a, stack) ∧
        after = (m.setStack stack).jump a := by
  unfold returnFromCall Processor.pop at h
  cases hPop : m.processor.stack.pop? with
  | none =>
      rw [hPop] at h
      cases h
  | some popped =>
      rw [hPop] at h
      cases h
      exact ⟨popped.1, popped.2, rfl, rfl⟩

/- A call works on the call stack and the counter. -/
theorem sameButProcessor_call
    {m after : Machine}
    {a : UInt16}
    (h : m.call a = .ok after) :
    m.SameButProcessor after := by
  rcases exists_push_of_call h with ⟨stack, _, rfl⟩
  rfl

/- So does a return. -/
theorem sameButProcessor_returnFromCall
    {m after : Machine}
    (h : m.returnFromCall = .ok after) :
    m.SameButProcessor after := by
  rcases exists_pop_of_returnFromCall h with
    ⟨a, stack, _, rfl⟩
  rfl

/- An operator works on registers. -/
theorem sameButProcessor_combine
    (m : Machine)
    (op : Operator)
    (x y : Register) :
    m.SameButProcessor (m.combine op x y) := by
  cases op with
  | _ => rfl

/- Filling registers from memory does, too. -/
theorem sameButProcessor_restore
    (m : Machine)
    (x : Register) :
    m.SameButProcessor (m.restore x) := by
  refine List.foldlRecOn _ _ rfl ?_
  intro n h r _
  unfold SameButProcessor at h ⊢
  rw [h]
  rfl

/- A skip moves the counter at most. -/
theorem sameButProcessor_skip
    (m : Machine)
    (skips : Bool) :
    m.SameButProcessor (if skips then m.passWord else m) := by
  cases skips with
  | true => rfl
  | false => rfl

/- Such a machine has the picture of before. -/
theorem SameButProcessor.frame_eq
    {m after : Machine}
    (h : m.SameButProcessor after) :
    after.frame = m.frame := by
  rw [h]

/- It has the random bytes of before. -/
theorem SameButProcessor.generator_eq
    {m after : Machine}
    (h : m.SameButProcessor after) :
    after.generator = m.generator := by
  rw [h]

end Machine

------------------------------------------------------------
-- Random Bytes
------------------------------------------------------------

/- Whether an instruction takes a random byte. -/
def Instruction.takesRandom : Instruction → Bool
  | .random _ _ => true
  | _ => false

namespace Machine

/-
  An instruction that takes a random byte uses up the next
  one, and any other instruction uses up none.
-/
theorem generator_execute
    {m after : Machine}
    {held : Bool}
    {instruction : Instruction}
    (h : m.execute held instruction = .ok after) :
    after.generator =
      if instruction.takesRandom then
        m.generator.skip
      else
        m.generator := by
  cases instruction with
  | returnFromCall =>
      exact (sameButProcessor_returnFromCall h).generator_eq
  | call target =>
      exact (sameButProcessor_call h).generator_eq
  | combine op x y =>
      cases h
      exact (m.sameButProcessor_combine op x y).generator_eq
  | restoreRegisters x =>
      cases h
      exact (m.sameButProcessor_restore x).generator_eq
  | skipIf test =>
      cases h
      exact (m.sameButProcessor_skip _).generator_eq
  | _ =>
      cases h
      rfl

end Machine

end ChipEight
