import ChipEight.Instruction.Basic
import ChipEight.Text.Hex

/-
  The assembly text of an instruction, such as
  `LD V1, 0x0A` or `DRW V0, V1, 5`.

  Registers are written with one digit, bytes with two and
  addresses with three; the row count of a drawing is the
  one decimal number.

  Key definitions include:
    * `ChipEight.Register.name`
    * `ChipEight.Test.mnemonic`
    * `ChipEight.Operator.mnemonic`
    * `ChipEight.Instruction.mnemonic`
-/

namespace ChipEight

------------------------------------------------------------
-- Operands
------------------------------------------------------------

/- The name of a register. -/
def Register.name (x : Register) : String :=
  "V" ++ hex 1 x.val

/- A byte as an operand. -/
def byteOperand (byte : UInt8) : String :=
  hexMarked 2 byte.toNat

/- An address as an operand. -/
def Address.operand (target : Address) : String :=
  hexMarked 3 target.val

/- A head with two operands. -/
def twoOperands
    (head first second : String) : String :=
  head ++ " " ++ first ++ ", " ++ second

------------------------------------------------------------
-- Instructions
------------------------------------------------------------

/- The assembly text of a skip under a test. -/
def Test.mnemonic : Test → String
  | .isByte x byte =>
      twoOperands "SE" (Register.name x) (byteOperand byte)
  | .isNotByte x byte =>
      twoOperands "SNE" (Register.name x) (byteOperand byte)
  | .same x y =>
      twoOperands "SE" (Register.name x) (Register.name y)
  | .different x y =>
      twoOperands "SNE" (Register.name x) (Register.name y)
  | .keyHeld x =>
      "SKP " ++ Register.name x
  | .keyFree x =>
      "SKNP " ++ Register.name x

/- The head of the assembly text of an operator. -/
def Operator.mnemonic : Operator → String
  | .move => "LD"
  | .or => "OR"
  | .and => "AND"
  | .xor => "XOR"
  | .add => "ADD"
  | .subtract => "SUB"
  | .shiftRight => "SHR"
  | .subtractFrom => "SUBN"
  | .shiftLeft => "SHL"

/- The assembly text of an instruction. -/
def Instruction.mnemonic : Instruction → String
  | .clearScreen => "CLS"
  | .returnFromCall => "RET"
  | .hostRoutine target =>
      "SYS " ++ Address.operand target
  | .jump target =>
      "JP " ++ Address.operand target
  | .call target =>
      "CALL " ++ Address.operand target
  | .skipIf test => test.mnemonic
  | .load x byte =>
      twoOperands "LD" (Register.name x) (byteOperand byte)
  | .addByte x byte =>
      twoOperands "ADD" (Register.name x) (byteOperand byte)
  | .combine op x y =>
      twoOperands op.mnemonic (Register.name x)
        (Register.name y)
  | .setIndex target =>
      twoOperands "LD" "I" (Address.operand target)
  | .jumpBy target =>
      twoOperands "JP" "V0" (Address.operand target)
  | .random x mask =>
      twoOperands "RND" (Register.name x) (byteOperand mask)
  | .draw x y rows =>
      twoOperands "DRW" (Register.name x) (Register.name y) ++
        ", " ++ toString rows.val
  | .readDelay x =>
      twoOperands "LD" (Register.name x) "DT"
  | .awaitKey x =>
      twoOperands "LD" (Register.name x) "K"
  | .setDelay x =>
      twoOperands "LD" "DT" (Register.name x)
  | .setSound x =>
      twoOperands "LD" "ST" (Register.name x)
  | .addIndex x =>
      twoOperands "ADD" "I" (Register.name x)
  | .pointAtGlyph x =>
      twoOperands "LD" "F" (Register.name x)
  | .storeDecimal x =>
      twoOperands "LD" "B" (Register.name x)
  | .saveRegisters x =>
      twoOperands "LD" "[I]" (Register.name x)
  | .restoreRegisters x =>
      twoOperands "LD" (Register.name x) "[I]"

end ChipEight
