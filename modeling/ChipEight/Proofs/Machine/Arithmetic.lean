import ChipEight.Proofs.Instruction.Fields
import ChipEight.Proofs.Machine.Effects

/-
  What arithmetic leaves in the registers.

  Sums and differences are taken modulo 256. Their flag comes
  last: it tells of a carry or that nothing was borrowed, and
  it is what the flag register is left with. Shifts put the
  bit that is shifted out first, so their result prevails in
  the flag register. Bitwise operators have no flag.

  Key definitions include:
    * `ChipEight.Machine.Leaves`

  Main declarations:
    * `ChipEight.Machine.leaves_setResult`
    * `ChipEight.Machine.leaves_setShifted`
    * `ChipEight.Machine.leaves_setReg`
    * `ChipEight.Machine.operators_follow_arithmetic`
-/

namespace ChipEight

------------------------------------------------------------
-- Bytes As Numbers
------------------------------------------------------------

/- A difference of bytes is taken modulo 256. -/
theorem toNat_sub_eq_emod (a b : UInt8) :
    (a - b).toNat =
      (((a.toNat : Int) - b.toNat) % 256).toNat := by
  have hA := a.toNat_lt
  have hB := b.toNat_lt
  rw [UInt8.toNat_sub]
  omega

/- A shift to the right halves a byte. -/
theorem toNat_shiftRight_one (a : UInt8) :
    (a >>> 1).toNat = a.toNat / 2 := by
  rw [UInt8.toNat_shiftRight, Nat.shiftRight_eq_div_pow]
  rfl

/- A shift to the left doubles a byte modulo 256. -/
theorem toNat_shiftLeft_one (a : UInt8) :
    (a <<< 1).toNat = 2 * a.toNat % 256 := by
  rw [UInt8.toNat_shiftLeft, Nat.shiftLeft_eq, Nat.mul_comm]
  rfl

/- The lowest bit of a byte tells whether it is odd. -/
theorem toNat_lowest_bit (a : UInt8) :
    (a &&& 1 == 1).toNat = a.toNat % 2 := by
  have hBit : (a &&& 1).toNat = a.toNat % 2 := by
    rw [UInt8.toNat_and]
    exact Nat.and_one_is_mod a.toNat
  have hOne : (a &&& 1 == 1) = decide (a.toNat % 2 = 1) := by
    rw [← hBit, Bool.beq_eq_decide_eq, decide_eq_decide]
    exact UInt8.toNat_inj.symm
  rw [hOne]
  by_cases h : a.toNat % 2 = 1
  · simp [h]
  · simp [Nat.mod_two_ne_one.mp h]

/- The highest bit of a byte tells whether it is large. -/
theorem toNat_highest_bit (a : UInt8) :
    (a >>> 7 == 1).toNat = a.toNat / 128 := by
  have hLt := a.toNat_lt
  have hBit : (a >>> 7).toNat = a.toNat / 128 := by
    rw [UInt8.toNat_shiftRight, Nat.shiftRight_eq_div_pow]
    rfl
  have hOne : (a >>> 7 == 1) = decide (a.toNat / 128 = 1) := by
    rw [← hBit, Bool.beq_eq_decide_eq, decide_eq_decide]
    exact UInt8.toNat_inj.symm
  rw [hOne]
  by_cases h : a.toNat / 128 = 1
  · simp [h]
  · have hZero : a.toNat / 128 = 0 := by
      omega
    simp [hZero]

namespace Machine

------------------------------------------------------------
-- Results And Flags
------------------------------------------------------------

/-
  Whether a machine comes from leaving a number in a register
  and then another number in another one: where both are the
  same register, the later number prevails. No other register
  is changed, and nothing else.
-/
structure Leaves
    (m : Machine)
    (earlier later : Register × Nat)
    (after : Machine) : Prop where
  stays :
    earlier.1 ≠ later.1 →
      (after.reg earlier.1).toNat = earlier.2
  prevails : (after.reg later.1).toNat = later.2
  registers :
    ∀ r,
      r ≠ earlier.1 →
        r ≠ later.1 → after.reg r = m.reg r
  others : m.SameButRegisters after

/- Bytes that are put into two registers are left there. -/
theorem leaves_setReg_setReg
    (m : Machine)
    (x y : Register)
    (a b : UInt8) :
    m.Leaves (x, a.toNat) (y, b.toNat)
      ((m.setReg x a).setReg y b) where
  stays := by
    intro hNe
    rw [reg_setReg_of_ne _ _ hNe, reg_setReg_self]
  prevails := by
    rw [reg_setReg_self]
  registers := by
    intro r hEarlier hLater
    rw [reg_setReg_of_ne _ _ hLater,
      reg_setReg_of_ne _ _ hEarlier]
  others := rfl

/- The flag is a number. -/
theorem toNat_flagByte (on : Bool) :
    (if on then (1 : UInt8) else 0).toNat = on.toNat := by
  cases on with
  | true => rfl
  | false => rfl

/- A result is left, and then its flag. -/
theorem leaves_setResult
    (m : Machine)
    (x : Register)
    {result : UInt8}
    {on : Bool}
    {a flag : Nat}
    (hResult : result.toNat = a)
    (hFlag : on.toNat = flag) :
    m.Leaves (x, a) (Register.flag, flag)
      (m.setResult x result on) := by
  subst hResult
  subst hFlag
  rw [← toNat_flagByte]
  exact m.leaves_setReg_setReg x Register.flag _ _

/- The bit shifted out is left, and then the result. -/
theorem leaves_setShifted
    (m : Machine)
    (x : Register)
    {result : UInt8}
    {out : Bool}
    {a flag : Nat}
    (hResult : result.toNat = a)
    (hFlag : out.toNat = flag) :
    m.Leaves (Register.flag, flag) (x, a)
      (m.setShifted x result out) := by
  subst hResult
  subst hFlag
  rw [← toNat_flagByte]
  exact m.leaves_setReg_setReg Register.flag x _ _

/- A result without a flag leaves the flag as it was. -/
theorem leaves_setReg
    (m : Machine)
    (x : Register)
    {result : UInt8}
    {a : Nat}
    (hResult : result.toNat = a) :
    m.Leaves (Register.flag, (m.reg Register.flag).toNat)
      (x, a) (m.setReg x result) where
  stays := by
    intro hNe
    rw [reg_setReg_of_ne _ _ hNe]
  prevails := by
    rw [reg_setReg_self]
    exact hResult
  registers := by
    intro r _ hLater
    exact m.reg_setReg_of_ne _ hLater
  others := rfl

------------------------------------------------------------
-- Operators
------------------------------------------------------------

/- A carry tells that a sum leaves a byte. -/
theorem toNat_carries (a b : UInt8) :
    (carries a b).toNat =
      if 255 < a.toNat + b.toNat then 1 else 0 := by
  unfold carries
  by_cases h : 255 < a.toNat + b.toNat
  · simp [h]
  · simp [h]

/- A comparison of bytes is one of numbers. -/
theorem toNat_decide_le (a b : UInt8) :
    (decide (a ≤ b)).toNat =
      if a.toNat ≤ b.toNat then 1 else 0 := by
  by_cases h : a ≤ b
  · simp [h, UInt8.le_iff_toNat_le.mp h]
  · have hNot : ¬ a.toNat ≤ b.toNat := by
      rw [← UInt8.le_iff_toNat_le]
      exact h
    simp [h, hNot]

/-
  Sums, differences, shifts and bitwise operators do what
  arithmetic says, whichever registers they name. A sum or a
  difference leaves its flag last and a shift its result, so
  these prevail in the flag register; a bitwise operator
  leaves the flag as it was, unless the flag register is to
  hold its result. No other part of the machine is changed.
-/
theorem operators_follow_arithmetic
    (m : Machine)
    (held : Bool)
    (x y : Register)
    (byte : UInt8) :
    let a := (m.reg x).toNat
    let b := (m.reg y).toNat
    let k := byte.toNat
    let flag := (m.reg Register.flag).toNat
    m.CarriesOut held (Word.ofByte 0x7 x byte)
        (m.Leaves (x, (a + k) % 256)
          (Register.flag, if 255 < a + k then 1 else 0)) ∧
      m.CarriesOut held (Word.ofPair 0x8 x y 0x4)
        (m.Leaves (x, (a + b) % 256)
          (Register.flag, if 255 < a + b then 1 else 0)) ∧
      m.CarriesOut held (Word.ofPair 0x8 x y 0x5)
        (m.Leaves (x, (((a : Int) - b) % 256).toNat)
          (Register.flag, if b ≤ a then 1 else 0)) ∧
      m.CarriesOut held (Word.ofPair 0x8 x y 0x7)
        (m.Leaves (x, (((b : Int) - a) % 256).toNat)
          (Register.flag, if a ≤ b then 1 else 0)) ∧
      m.CarriesOut held (Word.ofPair 0x8 x y 0x6)
        (m.Leaves (Register.flag, a % 2) (x, a / 2)) ∧
      m.CarriesOut held (Word.ofPair 0x8 x y 0xE)
        (m.Leaves (Register.flag, a / 128)
          (x, 2 * a % 256)) ∧
      m.CarriesOut held (Word.ofPair 0x8 x y 0x1)
        (m.Leaves (Register.flag, flag) (x, a ||| b)) ∧
      m.CarriesOut held (Word.ofPair 0x8 x y 0x2)
        (m.Leaves (Register.flag, flag) (x, a &&& b)) ∧
      m.CarriesOut held (Word.ofPair 0x8 x y 0x3)
        (m.Leaves (Register.flag, flag) (x, a ^^^ b)) := by
  intro a b k flag
  have hWord := Instruction.decode?_ofPair_combine x y
  refine ⟨?_, ?_, ?_, ?_, ?_, ?_, ?_, ?_, ?_⟩
  · exact
      ⟨_, _, Instruction.decode?_ofByte_add x byte, rfl,
        m.leaves_setResult x (UInt8.toNat_add _ _)
          (toNat_carries _ _)⟩
  · exact
      ⟨_, _, hWord .add, rfl,
        m.leaves_setResult x (UInt8.toNat_add _ _)
          (toNat_carries _ _)⟩
  · exact
      ⟨_, _, hWord .subtract, rfl,
        m.leaves_setResult x (toNat_sub_eq_emod _ _)
          (toNat_decide_le _ _)⟩
  · exact
      ⟨_, _, hWord .subtractFrom, rfl,
        m.leaves_setResult x (toNat_sub_eq_emod _ _)
          (toNat_decide_le _ _)⟩
  · exact
      ⟨_, _, hWord .shiftRight, rfl,
        m.leaves_setShifted x (toNat_shiftRight_one _)
          (toNat_lowest_bit _)⟩
  · exact
      ⟨_, _, hWord .shiftLeft, rfl,
        m.leaves_setShifted x (toNat_shiftLeft_one _)
          (toNat_highest_bit _)⟩
  · exact
      ⟨_, _, hWord .or, rfl,
        m.leaves_setReg x (UInt8.toNat_or _ _)⟩
  · exact
      ⟨_, _, hWord .and, rfl,
        m.leaves_setReg x (UInt8.toNat_and _ _)⟩
  · exact
      ⟨_, _, hWord .xor, rfl,
        m.leaves_setReg x (UInt8.toNat_xor _ _)⟩

/- The carry prevails, and so does a byte that is shifted. -/
example :
    let m := (Machine.initial 7).setReg Register.flag 200
    (m.combine .add Register.flag Register.flag).reg
        Register.flag = 1 ∧
      (m.combine .shiftRight Register.flag 0).reg
          Register.flag = 100 := by
  decide

end Machine

end ChipEight
