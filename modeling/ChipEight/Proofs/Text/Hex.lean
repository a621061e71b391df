import ChipEight.Text.Hex
import Mathlib.Algebra.Group.Nat.Defs

/-
  Hexadecimal text can be read back.

  The zeros in front of a number do not count, so a number is
  read back from its text, whatever the least width was. The
  text has exactly that width if the number fits into it.

  Key definitions include:
    * `ChipEight.Hex.digitValue`
    * `ChipEight.Hex.value`
    * `ChipEight.Hex.IsDigit`
    * `ChipEight.Hex.read`

  Main declarations:
    * `ChipEight.Hex.value_padded`
    * `ChipEight.Hex.length_padded`
    * `ChipEight.Hex.isDigit_of_mem_padded`
    * `ChipEight.Hex.read_framed`
-/

namespace ChipEight

namespace Hex

------------------------------------------------------------
-- Values
------------------------------------------------------------

/- The value of a digit. -/
def digitValue (c : Char) : Nat :=
  if c.toNat < 58 then
    c.toNat - 48
  else
    c.toNat - 55

/- The number that digits stand for, the highest one first. -/
def value (digits : List Char) : Nat :=
  digits.foldl (fun n c => 16 * n + digitValue c) 0

/- A digit is read back. -/
theorem digitValue_digit
    {d : Nat}
    (h : d < 16) :
    digitValue (digit d) = d := by
  revert h
  revert d
  decide

/- One more digit is the lowest one. -/
theorem value_concat
    (digits : List Char)
    (c : Char) :
    value (digits ++ [c]) =
      16 * value digits + digitValue c := by
  rw [value, List.foldl_append]
  rfl

/- A number is read back from its fewest digits. -/
theorem value_digits (n : Nat) : value (digits n) = n := by
  fun_induction digits n with
  | case1 n hSmall =>
      exact (Nat.zero_add _).trans (digitValue_digit hSmall)
  | case2 n hLarge ih =>
      have hDigit : n % 16 < 16 := Nat.mod_lt _ (by decide)
      rw [value_concat, ih, digitValue_digit hDigit]
      omega

/- Zeros in front do not count. -/
theorem value_replicate_append
    (count : Nat)
    (digits : List Char) :
    value (List.replicate count '0' ++ digits) =
      value digits := by
  induction count with
  | zero => rfl
  | succ count ih => exact ih

/- A number is read back, however wide it is written. -/
theorem value_padded (width n : Nat) :
    value (padded width n) = n := by
  rw [padded, value_replicate_append, value_digits]

------------------------------------------------------------
-- Widths
------------------------------------------------------------

/- A number that fits has no more digits than the width. -/
theorem length_digits_le
    {width n : Nat}
    (hSome : 0 < width)
    (hFits : n < 16 ^ width) :
    (digits n).length ≤ width := by
  induction width generalizing n with
  | zero => cases hSome
  | succ width ih =>
      unfold digits
      split
      · exact hSome
      · rename_i hLarge
        have hWidth : 0 < width := by
          rcases Nat.eq_zero_or_pos width with rfl | hPos
          · exact absurd hFits hLarge
          · exact hPos
        have hRest : n / 16 < 16 ^ width := by
          rw [Nat.pow_succ] at hFits
          omega
        rw [List.length_append]
        exact Nat.succ_le_succ (ih hWidth hRest)

/- Then it is written just as wide. -/
theorem length_padded
    {width n : Nat}
    (hSome : 0 < width)
    (hFits : n < 16 ^ width) :
    (padded width n).length = width := by
  have hDigits := length_digits_le hSome hFits
  rw [padded, List.length_append, List.length_replicate]
  omega

------------------------------------------------------------
-- Digits
------------------------------------------------------------

/- Whether a character is one of the sixteen digits. -/
def IsDigit (c : Char) : Prop :=
  ∃ d < 16, c = digit d

/- The fewest digits of a number are digits. -/
theorem isDigit_of_mem_digits
    {n : Nat}
    {c : Char}
    (h : c ∈ digits n) :
    IsDigit c := by
  fun_induction digits n with
  | case1 n hSmall =>
      exact ⟨n, hSmall, List.mem_singleton.mp h⟩
  | case2 n hLarge ih =>
      rcases List.mem_append.mp h with hRest | hLast
      · exact ih hRest
      · exact
          ⟨n % 16, Nat.mod_lt _ (by decide),
            List.mem_singleton.mp hLast⟩

/- So are the zeros in front. -/
theorem isDigit_of_mem_padded
    {width n : Nat}
    {c : Char}
    (h : c ∈ padded width n) :
    IsDigit c := by
  rcases List.mem_append.mp h with hZero | hDigit
  · exact ⟨0, by decide, List.eq_of_mem_replicate hZero⟩
  · exact isDigit_of_mem_digits hDigit

/- A number has at least one digit. -/
theorem padded_ne_nil (width n : Nat) : padded width n ≠ [] := by
  have hDigits : digits n ≠ [] := by
    unfold digits
    split
    · simp
    · simp
  simp [padded, hDigits]

------------------------------------------------------------
-- Reading
------------------------------------------------------------

instance : DecidablePred IsDigit := by
  intro c
  unfold IsDigit
  infer_instance

/-
  The number that the digits of a text make up, whatever other
  signs the text has.
-/
def read (text : List Char) : Nat :=
  value (text.filter IsDigit)

/-
  A number is read between signs that are no digits; zeros in
  front of it, as in its mark, do not count.
-/
theorem read_framed
    {front back : List Char}
    {zeros : Nat}
    (hFront :
      front.filter IsDigit = List.replicate zeros '0')
    (hBack : back.filter IsDigit = [])
    (width n : Nat) :
    read (front ++ padded width n ++ back) = n := by
  have hDigits :
      (padded width n).filter IsDigit = padded width n := by
    rw [List.filter_eq_self]
    intro c hMem
    exact decide_eq_true (isDigit_of_mem_padded hMem)
  rw [read, List.filter_append, List.filter_append, hFront,
    hBack, hDigits, List.append_nil, value_replicate_append,
    value_padded]

end Hex

/- The characters of a number that is written. -/
@[simp]
theorem toList_hex (width n : Nat) :
    (hex width n).toList = Hex.padded width n :=
  String.toList_ofList

/- The characters of a number behind its mark. -/
@[simp]
theorem toList_hexMarked (width n : Nat) :
    (hexMarked width n).toList =
      '0' :: 'x' :: Hex.padded width n := by
  rw [hexMarked, String.toList_append, toList_hex]
  rfl

end ChipEight
