import ChipEight.Instruction.Encoding

/-
  Reading a word and writing it again.

  Every word is put together again from its class digit and
  its operands, so an instruction keeps all that its word
  says: `Instruction.encode_of_decode?` gives the word back.

  Key statements include:
    * `ChipEight.Word.ofTarget_target`
    * `ChipEight.Word.ofByte_lowByte`
    * `ChipEight.Word.ofPair_last`
    * `ChipEight.Instruction.encode_of_decode?`
-/

namespace ChipEight

------------------------------------------------------------
-- Words From Their Fields
------------------------------------------------------------

namespace Word

/- A class digit and an address fit into a word. -/
theorem toNat_ofTarget
    {c : Nat}
    (nnn : Address)
    (h : c < 16) :
    (ofTarget c nnn).toNat = c * 4096 + nnn.val := by
  have hTarget := nnn.isLt
  unfold ofTarget
  rw [UInt16.toNat_ofNat', Nat.mod_eq_of_lt]
  omega

/- A class digit, a register and a byte fit into a word. -/
theorem toNat_ofByte
    {c : Nat}
    (x : Register)
    (kk : UInt8)
    (h : c < 16) :
    (ofByte c x kk).toNat =
      c * 4096 + x.val * 256 + kk.toNat := by
  have hRegister := x.isLt
  have hByte := kk.toNat_lt
  unfold ofByte
  rw [UInt16.toNat_ofNat', Nat.mod_eq_of_lt]
  omega

/- Four digits fit into a word. -/
theorem toNat_ofPair
    {c n : Nat}
    (x y : Register)
    (h : c < 16)
    (hLast : n < 16) :
    (ofPair c x y n).toNat =
      c * 4096 + x.val * 256 + y.val * 16 + n := by
  have hFirst := x.isLt
  have hSecond := y.isLt
  unfold ofPair
  rw [UInt16.toNat_ofNat', Nat.mod_eq_of_lt]
  omega

/- A word is its class digit and its address. -/
theorem ofTarget_target (w : Word) :
    ofTarget (leading w).val (target w) = w := by
  apply UInt16.toNat_inj.mp
  rw [toNat_ofTarget _ (leading w).isLt]
  have hWord := w.toNat_lt
  simp only [leading, target, Register.ofNat,
    Address.ofNat]
  omega

/- A word is its class digit, its register and its byte. -/
theorem ofByte_lowByte (w : Word) :
    ofByte (leading w).val (second w) (lowByte w) = w := by
  apply UInt16.toNat_inj.mp
  rw [toNat_ofByte _ _ (leading w).isLt]
  have hWord := w.toNat_lt
  simp only [leading, second, lowByte, Register.ofNat,
    UInt8.toNat_ofNat']
  omega

/- A word is its four digits. -/
theorem ofPair_last (w : Word) :
    ofPair (leading w).val (second w) (third w)
      (last w).val = w := by
  apply UInt16.toNat_inj.mp
  rw [toNat_ofPair _ _ (leading w).isLt (last w).isLt]
  have hWord := w.toNat_lt
  simp only [leading, second, third, last,
    Register.ofNat]
  omega

end Word

------------------------------------------------------------
-- Instructions
------------------------------------------------------------

/- An operator has the digit that it is read from. -/
theorem Operator.code_of_ofCode?
    {n : Fin 16}
    {op : Operator}
    (h : Operator.ofCode? n = some op) :
    op.code = n.val := by
  revert h
  revert n op
  decide

namespace Instruction

/- An instruction of class `0` keeps its address. -/
theorem encode_decodeSystem (target : Address) :
    (decodeSystem target).encode =
      Word.ofTarget 0x0 target := by
  unfold decodeSystem
  split
  · rfl
  · rfl
  · rfl

/- An instruction of class `E` keeps its operands. -/
theorem encode_of_decodeKey?
    {x : Register}
    {low : UInt8}
    {i : Instruction}
    (h : decodeKey? x low = some i) :
    i.encode = Word.ofByte 0xE x low := by
  unfold decodeKey? at h
  split at h
  · cases h
    rfl
  · cases h
    rfl
  · cases h

/- An instruction of class `F` keeps its operands. -/
theorem encode_of_decodeDevice?
    {x : Register}
    {low : UInt8}
    {i : Instruction}
    (h : decodeDevice? x low = some i) :
    i.encode = Word.ofByte 0xF x low := by
  unfold decodeDevice? at h
  split at h <;> cases h <;> rfl

/- An instruction is written as the word it was read from. -/
theorem encode_of_decode?
    {w : Word}
    {i : Instruction}
    (h : decode? w = some i) :
    i.encode = w := by
  have hTarget := Word.ofTarget_target w
  have hByte := Word.ofByte_lowByte w
  have hPair := Word.ofPair_last w
  unfold decode? at h
  simp only at h
  split at h
  · rename_i hClass
    rw [hClass] at hTarget
    cases h
    exact (encode_decodeSystem _).trans hTarget
  · rename_i hClass
    rw [hClass] at hTarget
    cases h
    exact hTarget
  · rename_i hClass
    rw [hClass] at hTarget
    cases h
    exact hTarget
  · rename_i hClass
    rw [hClass] at hByte
    cases h
    exact hByte
  · rename_i hClass
    rw [hClass] at hByte
    cases h
    exact hByte
  · rename_i hClass
    split at h
    · rename_i hLast
      rw [hClass, hLast] at hPair
      cases h
      exact hPair
    · cases h
  · rename_i hClass
    rw [hClass] at hByte
    cases h
    exact hByte
  · rename_i hClass
    rw [hClass] at hByte
    cases h
    exact hByte
  · rename_i hClass
    rcases Option.map_eq_some_iff.mp h with ⟨op, hOp, rfl⟩
    rw [hClass, ← Operator.code_of_ofCode? hOp] at hPair
    exact hPair
  · rename_i hClass
    split at h
    · rename_i hLast
      rw [hClass, hLast] at hPair
      cases h
      exact hPair
    · cases h
  · rename_i hClass
    rw [hClass] at hTarget
    cases h
    exact hTarget
  · rename_i hClass
    rw [hClass] at hTarget
    cases h
    exact hTarget
  · rename_i hClass
    rw [hClass] at hByte
    cases h
    exact hByte
  · rename_i hClass
    rw [hClass] at hPair
    cases h
    exact hPair
  · rename_i hClass
    rw [hClass] at hByte
    exact (encode_of_decodeKey? h).trans hByte
  · have hClass : (Word.leading w).val = 15 := by
      clear hTarget hByte hPair h
      generalize Word.leading w = d at *
      revert d
      decide
    rw [hClass] at hByte
    exact (encode_of_decodeDevice? h).trans hByte

/- Different words never name the same instruction. -/
theorem decode?_injective
    {v w : Word}
    {i : Instruction}
    (hv : decode? v = some i)
    (hw : decode? w = some i) :
    v = w :=
  (encode_of_decode? hv).symm.trans (encode_of_decode? hw)

end Instruction

end ChipEight
