import ChipEight.Instruction.RoundTrip

/-
  Words that are put together from their fields.

  Each field of such a word is read as it was written. So the
  words of some instructions are read with the operands that
  they were written with.

  Main declarations:
    * `ChipEight.Word.toNat_ofTarget_mod`
    * `ChipEight.Word.second_ofByte`
    * `ChipEight.Word.second_ofPair`
    * `ChipEight.Instruction.decode?_ofByte_add`
    * `ChipEight.Instruction.decode?_ofPair_combine`
    * `ChipEight.Instruction.decode?_ofPair_draw`
    * `ChipEight.Instruction.decode?_ofByte_device`
-/

namespace ChipEight

------------------------------------------------------------
-- Fields
------------------------------------------------------------

namespace Word

/- A word with an address ends with it. -/
theorem toNat_ofTarget_mod
    (c : Fin 16)
    (nnn : Address) :
    (ofTarget c.val nnn).toNat % 4096 = nnn.val := by
  have hTarget := nnn.isLt
  rw [toNat_ofTarget nnn c.isLt]
  omega

/- A word with a byte is of its class. -/
theorem leading_ofByte
    (c : Fin 16)
    (x : Register)
    (kk : UInt8) :
    leading (ofByte c.val x kk) = c := by
  have hX := x.isLt
  have hByte := kk.toNat_lt
  apply Fin.ext
  simp only [leading, Register.ofNat,
    toNat_ofByte x kk c.isLt]
  omega

/- It has its register as its second digit. -/
theorem second_ofByte
    (c : Fin 16)
    (x : Register)
    (kk : UInt8) :
    second (ofByte c.val x kk) = x := by
  have hX := x.isLt
  have hByte := kk.toNat_lt
  apply Fin.ext
  simp only [second, Register.ofNat,
    toNat_ofByte x kk c.isLt]
  omega

/- It ends with its byte. -/
theorem lowByte_ofByte
    (c : Fin 16)
    (x : Register)
    (kk : UInt8) :
    lowByte (ofByte c.val x kk) = kk := by
  have hByte := kk.toNat_lt
  apply UInt8.toNat_inj.mp
  rw [lowByte, UInt8.toNat_ofNat',
    toNat_ofByte x kk c.isLt]
  omega

/- A word with two registers is of its class. -/
theorem leading_ofPair
    (c : Fin 16)
    (x y : Register)
    (n : Fin 16) :
    leading (ofPair c.val x y n.val) = c := by
  apply Fin.ext
  simp only [leading, Register.ofNat,
    toNat_ofPair x y c.isLt n.isLt]
  omega

/- It has the first register as its second digit. -/
theorem second_ofPair
    (c : Fin 16)
    (x y : Register)
    (n : Fin 16) :
    second (ofPair c.val x y n.val) = x := by
  apply Fin.ext
  simp only [second, Register.ofNat,
    toNat_ofPair x y c.isLt n.isLt]
  omega

/- It has the second register as its third digit. -/
theorem third_ofPair
    (c : Fin 16)
    (x y : Register)
    (n : Fin 16) :
    third (ofPair c.val x y n.val) = y := by
  apply Fin.ext
  simp only [third, Register.ofNat,
    toNat_ofPair x y c.isLt n.isLt]
  omega

/- It ends with its last digit. -/
theorem last_ofPair
    (c : Fin 16)
    (x y : Register)
    (n : Fin 16) :
    last (ofPair c.val x y n.val) = n := by
  apply Fin.ext
  simp only [last, Register.ofNat,
    toNat_ofPair x y c.isLt n.isLt]
  omega

end Word

------------------------------------------------------------
-- Instructions
------------------------------------------------------------

/- An operator has a digit. -/
theorem Operator.code_lt (op : Operator) : op.code < 16 := by
  cases op with
  | _ => decide

namespace Instruction

/- Class `7` adds its byte to its register. -/
theorem decode?_ofByte_add
    (x : Register)
    (kk : UInt8) :
    decode? (Word.ofByte 0x7 x kk) =
      some (.addByte x kk) := by
  have hClass : Word.leading (Word.ofByte 0x7 x kk) = 0x7 :=
    Word.leading_ofByte 0x7 x kk
  have hX : Word.second (Word.ofByte 0x7 x kk) = x :=
    Word.second_ofByte 0x7 x kk
  have hByte : Word.lowByte (Word.ofByte 0x7 x kk) = kk :=
    Word.lowByte_ofByte 0x7 x kk
  simp only [decode?, hClass, hX, hByte]

/- Class `8` combines its registers by its last digit. -/
theorem decode?_ofPair_combine
    (x y : Register)
    (op : Operator) :
    decode? (Word.ofPair 0x8 x y op.code) =
      some (.combine op x y) := by
  let n : Fin 16 := ⟨op.code, op.code_lt⟩
  have hClass :
      Word.leading (Word.ofPair 0x8 x y op.code) = 0x8 :=
    Word.leading_ofPair 0x8 x y n
  have hX : Word.second (Word.ofPair 0x8 x y op.code) = x :=
    Word.second_ofPair 0x8 x y n
  have hY : Word.third (Word.ofPair 0x8 x y op.code) = y :=
    Word.third_ofPair 0x8 x y n
  have hLast : Word.last (Word.ofPair 0x8 x y op.code) = n :=
    Word.last_ofPair 0x8 x y n
  have hOperator : Operator.ofCode? n = some op := by
    cases op with
    | _ => rfl
  simp only [decode?, hClass, hX, hY, hLast, hOperator,
    Option.map_some]

/- The word of a drawing has its operands as its digits. -/
theorem decode?_ofPair_draw
    (x y : Register)
    (rows : Fin 16) :
    decode? (Word.ofPair 0xD x y rows.val) =
      some (.draw x y rows) := by
  have hClass :
      Word.leading (Word.ofPair 0xD x y rows.val) = 0xD :=
    Word.leading_ofPair 0xD x y rows
  have hX : Word.second (Word.ofPair 0xD x y rows.val) = x :=
    Word.second_ofPair 0xD x y rows
  have hY : Word.third (Word.ofPair 0xD x y rows.val) = y :=
    Word.third_ofPair 0xD x y rows
  have hLast :
      Word.last (Word.ofPair 0xD x y rows.val) = rows :=
    Word.last_ofPair 0xD x y rows
  simp only [decode?, hClass, hX, hY, hLast]

/- Class `F` tells its instruction by its low byte. -/
theorem decode?_ofByte_device
    (x : Register)
    (low : UInt8) :
    decode? (Word.ofByte 0xF x low) =
      decodeDevice? x low := by
  have hClass : Word.leading (Word.ofByte 0xF x low) = 0xF :=
    Word.leading_ofByte 0xF x low
  have hX : Word.second (Word.ofByte 0xF x low) = x :=
    Word.second_ofByte 0xF x low
  have hByte : Word.lowByte (Word.ofByte 0xF x low) = low :=
    Word.lowByte_ofByte 0xF x low
  simp only [decode?, hClass, hX, hByte]

end Instruction

end ChipEight
