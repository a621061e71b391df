import ChipEight.Instruction.Encoding
import ChipEight.Instruction.Mnemonic
import ChipEight.Memory

/-
  Listings of program memory, a word a line.

  Data between instructions is listed as the instruction its
  word happens to name, or as a plain word if it names none.

  Key definitions include:
    * `ChipEight.Line`
    * `ChipEight.Line.instruction?`
    * `ChipEight.Line.text`
    * `ChipEight.Memory.disassemble`
-/

namespace ChipEight

------------------------------------------------------------
-- Lines
------------------------------------------------------------

/- A word of a listing and its address. -/
structure Line where
  address : UInt16
  word : Word
deriving DecidableEq

namespace Line

/- The instruction that the word names, if any. -/
def instruction? (line : Line) : Option Instruction :=
  Instruction.decode? line.word

/- The text of the word itself. -/
def statement (line : Line) : String :=
  match line.instruction? with
  | some instruction => instruction.mnemonic
  | none => "DW " ++ hexMarked 4 line.word.toNat

/- The address, the word and its text. -/
def text (line : Line) : String :=
  hex 3 line.address.toNat ++ ": " ++
    hex 4 line.word.toNat ++ "  " ++ line.statement

end Line

------------------------------------------------------------
-- Listings
------------------------------------------------------------

/-
  The words of a program of a size, from the program start
  on. A last odd byte is read together with the byte behind
  it.
-/
def Memory.disassemble
    (m : Memory)
    (size : Nat) : List Line :=
  (List.range ((size + 1) / 2)).map
    (fun k =>
      let address :=
        UInt16.ofNat ((programStart + 2 * k) % 4096)
      { address := address, word := m.readWord address })

end ChipEight
