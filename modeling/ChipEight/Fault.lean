import ChipEight.Text.Hex

/-
  The conditions that stop a machine, and their wording.

  Key definitions include:
    * `ChipEight.Fault`
    * `ChipEight.Fault.message`
-/

namespace ChipEight

------------------------------------------------------------
-- Causes
------------------------------------------------------------

/- A condition that stops the running program for good. -/
inductive Fault where
  /- The word at an address names no instruction. -/
  | undefinedWord (word address : UInt16)
  /- A call was made while the call stack was full. -/
  | stackOverflow
  /- An address was taken from an empty call stack. -/
  | stackUnderflow
  /- A subroutine return was met outside any call. -/
  | returnOutsideCall
  /- A program is larger than the memory set aside for it. -/
  | programTooLarge (size limit : Nat)
  /- A register was named that the processor does not have. -/
  | noSuchRegister (index : UInt8)
deriving DecidableEq

------------------------------------------------------------
-- Wording
------------------------------------------------------------

/- What is told about a fault. -/
def Fault.message : Fault → String
  | .undefinedWord word address =>
      "unsupported opcode " ++ hexMarked 4 word.toNat ++
        " at " ++ hexMarked 3 address.toNat
  | .stackOverflow =>
      "stack overflow: call nested deeper than 16 levels"
  | .stackUnderflow =>
      "stack underflow: pop from an empty stack"
  | .returnOutsideCall =>
      "return with an empty call stack"
  | .programTooLarge size limit =>
      "ROM is too large (" ++ toString size ++
        " bytes), max size is " ++ toString limit ++ " bytes"
  | .noSuchRegister index =>
      "invalid register V" ++ hex 1 index.toNat

end ChipEight
