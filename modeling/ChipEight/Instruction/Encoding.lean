import ChipEight.Instruction.Basic

/-
  The words that stand for instructions.

  A word is four hexadecimal digits. The first selects a
  class; the last or the last two select an instruction
  within the classes `0`, `5`, `8`, `9`, `E` and `F`; the
  others are operands. `Instruction.encode` writes the word
  of an instruction, `Instruction.decode?` reads it back and
  refuses the words that name none.

  Key definitions include:
    * `ChipEight.Word`
    * `ChipEight.Instruction.encode`
    * `ChipEight.Instruction.decode?`
-/

namespace ChipEight

------------------------------------------------------------
-- Fields Of A Word
------------------------------------------------------------

/- Two bytes of program memory, the high one first. -/
abbrev Word :=
  UInt16

namespace Word

/- The digit that selects the class. -/
def leading (w : Word) : Fin 16 :=
  Register.ofNat (w.toNat / 4096)

/- The second digit, the first register operand. -/
def second (w : Word) : Fin 16 :=
  Register.ofNat (w.toNat / 256)

/- The third digit, the second register operand. -/
def third (w : Word) : Fin 16 :=
  Register.ofNat (w.toNat / 16)

/- The last digit. -/
def last (w : Word) : Fin 16 :=
  Register.ofNat w.toNat

/- The last two digits. -/
def lowByte (w : Word) : UInt8 :=
  UInt8.ofNat w.toNat

/- The last three digits. -/
def target (w : Word) : Address :=
  Address.ofNat w.toNat

/- The word of a class digit and an address. -/
def ofTarget
    (c : Nat)
    (nnn : Address) : Word :=
  UInt16.ofNat (c * 4096 + nnn.val)

/- The word of a class digit, a register and a byte. -/
def ofByte
    (c : Nat)
    (x : Register)
    (kk : UInt8) : Word :=
  UInt16.ofNat (c * 4096 + x.val * 256 + kk.toNat)

/- The word of a class digit, two registers and a digit. -/
def ofPair
    (c : Nat)
    (x y : Register)
    (n : Nat) : Word :=
  UInt16.ofNat (c * 4096 + x.val * 256 + y.val * 16 + n)

end Word

------------------------------------------------------------
-- Writing Words
------------------------------------------------------------

/- The last digit of an operator in class `8`. -/
def Operator.code : Operator → Nat
  | .move => 0x0
  | .or => 0x1
  | .and => 0x2
  | .xor => 0x3
  | .add => 0x4
  | .subtract => 0x5
  | .shiftRight => 0x6
  | .subtractFrom => 0x7
  | .shiftLeft => 0xE

/- The word of a skip under a test. -/
def Test.encode : Test → Word
  | .isByte x byte => Word.ofByte 0x3 x byte
  | .isNotByte x byte => Word.ofByte 0x4 x byte
  | .same x y => Word.ofPair 0x5 x y 0x0
  | .different x y => Word.ofPair 0x9 x y 0x0
  | .keyHeld x => Word.ofByte 0xE x 0x9E
  | .keyFree x => Word.ofByte 0xE x 0xA1

namespace Instruction

/- The word that stands for an instruction. -/
def encode : Instruction → Word
  | .clearScreen => 0x00E0
  | .returnFromCall => 0x00EE
  | .hostRoutine target => Word.ofTarget 0x0 target
  | .jump target => Word.ofTarget 0x1 target
  | .call target => Word.ofTarget 0x2 target
  | .skipIf test => test.encode
  | .load x byte => Word.ofByte 0x6 x byte
  | .addByte x byte => Word.ofByte 0x7 x byte
  | .combine op x y => Word.ofPair 0x8 x y op.code
  | .setIndex target => Word.ofTarget 0xA target
  | .jumpBy target => Word.ofTarget 0xB target
  | .random x mask => Word.ofByte 0xC x mask
  | .draw x y rows => Word.ofPair 0xD x y rows.val
  | .readDelay x => Word.ofByte 0xF x 0x07
  | .awaitKey x => Word.ofByte 0xF x 0x0A
  | .setDelay x => Word.ofByte 0xF x 0x15
  | .setSound x => Word.ofByte 0xF x 0x18
  | .addIndex x => Word.ofByte 0xF x 0x1E
  | .pointAtGlyph x => Word.ofByte 0xF x 0x29
  | .storeDecimal x => Word.ofByte 0xF x 0x33
  | .saveRegisters x => Word.ofByte 0xF x 0x55
  | .restoreRegisters x => Word.ofByte 0xF x 0x65

end Instruction

------------------------------------------------------------
-- Reading Words
------------------------------------------------------------

/- The operator of a last digit in class `8`, if it has one. -/
def Operator.ofCode? : Fin 16 → Option Operator
  | 0x0 => some .move
  | 0x1 => some .or
  | 0x2 => some .and
  | 0x3 => some .xor
  | 0x4 => some .add
  | 0x5 => some .subtract
  | 0x6 => some .shiftRight
  | 0x7 => some .subtractFrom
  | 0xE => some .shiftLeft
  | _ => none

namespace Instruction

/-
  The instruction of class `0`: two words have a meaning of
  their own, every other one calls the host processor.
-/
def decodeSystem (target : Address) : Instruction :=
  match target with
  | 0x0E0 => .clearScreen
  | 0x0EE => .returnFromCall
  | other => .hostRoutine other

/- The instruction of class `E` with this low byte, if any. -/
def decodeKey?
    (x : Register)
    (low : UInt8) : Option Instruction :=
  match low with
  | 0x9E => some (.skipIf (.keyHeld x))
  | 0xA1 => some (.skipIf (.keyFree x))
  | _ => none

/- The instruction of class `F` with this low byte, if any. -/
def decodeDevice?
    (x : Register)
    (low : UInt8) : Option Instruction :=
  match low with
  | 0x07 => some (.readDelay x)
  | 0x0A => some (.awaitKey x)
  | 0x15 => some (.setDelay x)
  | 0x18 => some (.setSound x)
  | 0x1E => some (.addIndex x)
  | 0x29 => some (.pointAtGlyph x)
  | 0x33 => some (.storeDecimal x)
  | 0x55 => some (.saveRegisters x)
  | 0x65 => some (.restoreRegisters x)
  | _ => none

/-
  The instruction that a word stands for, or none for a word
  that names no instruction. The last case is class `F`.
-/
def decode? (w : Word) : Option Instruction :=
  let x := Word.second w
  let y := Word.third w
  match Word.leading w with
  | 0x0 => some (decodeSystem (Word.target w))
  | 0x1 => some (.jump (Word.target w))
  | 0x2 => some (.call (Word.target w))
  | 0x3 => some (.skipIf (.isByte x (Word.lowByte w)))
  | 0x4 => some (.skipIf (.isNotByte x (Word.lowByte w)))
  | 0x5 =>
      if (Word.last w).val = 0 then
        some (.skipIf (.same x y))
      else
        none
  | 0x6 => some (.load x (Word.lowByte w))
  | 0x7 => some (.addByte x (Word.lowByte w))
  | 0x8 =>
      (Operator.ofCode? (Word.last w)).map
        (fun op => .combine op x y)
  | 0x9 =>
      if (Word.last w).val = 0 then
        some (.skipIf (.different x y))
      else
        none
  | 0xA => some (.setIndex (Word.target w))
  | 0xB => some (.jumpBy (Word.target w))
  | 0xC => some (.random x (Word.lowByte w))
  | 0xD => some (.draw x y (Word.last w))
  | 0xE => decodeKey? x (Word.lowByte w)
  | _ => decodeDevice? x (Word.lowByte w)

end Instruction

end ChipEight
