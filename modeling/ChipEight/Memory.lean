import ChipEight.Fault
import ChipEight.Font
import ChipEight.Instruction.Basic

/-
  The memory of the machine: 4096 bytes in a circle, with the
  font sheet write-protected at its bottom and programs loaded
  from `0x200` on.

  Addresses are sixteen bits wide and are taken modulo the
  size of memory, so every address names a byte.

  Key definitions include:
    * `ChipEight.Memory`
    * `ChipEight.Memory.initial`
    * `ChipEight.Memory.read`
    * `ChipEight.Memory.write`
    * `ChipEight.Memory.readWord`
    * `ChipEight.Memory.readRange`
    * `ChipEight.Memory.writeAll`
    * `ChipEight.Memory.loadFont`
    * `ChipEight.Memory.loadProgram`
-/

namespace ChipEight

------------------------------------------------------------
-- Cells
------------------------------------------------------------

/- The bytes of memory, by address. -/
structure Memory where
  cells : Vector UInt8 4096
deriving DecidableEq

namespace Memory

/- The number of cells. -/
def size : Nat :=
  4096

/- Where programs are loaded. -/
def programStart : Nat :=
  0x200

/- The bytes from the program start to the end of memory. -/
def programLimit : Nat :=
  size - programStart

/- The cell that an address names. -/
def cellOf (a : UInt16) : Address :=
  Address.ofNat a.toNat

/- Whether an address names a cell of the font sheet. -/
def isProtected (a : UInt16) : Bool :=
  (cellOf a).val < Font.size

------------------------------------------------------------
-- Reading
------------------------------------------------------------

/- The byte at an address. -/
def read
    (m : Memory)
    (a : UInt16) : UInt8 :=
  m.cells[cellOf a]

/- The two bytes from an address on, the high one first. -/
def readWord
    (m : Memory)
    (a : UInt16) : UInt16 :=
  UInt16.ofNat
    ((m.read a).toNat * 256 + (m.read (a + 1)).toNat)

/- The bytes from an address on, around the end of memory. -/
def readRange
    (m : Memory)
    (a : UInt16)
    (count : Nat) : List UInt8 :=
  (List.range count).map
    (fun k => m.read (a + UInt16.ofNat k))

------------------------------------------------------------
-- Writing
------------------------------------------------------------

/- Set the byte at an address, unless it is protected. -/
def write
    (m : Memory)
    (a : UInt16)
    (value : UInt8) : Memory :=
  if isProtected a then
    m
  else
    { cells := m.cells.set (cellOf a) value }

/- Any other cell holds what was written. -/
theorem read_write_self
    (m : Memory)
    {a : UInt16}
    (value : UInt8)
    (h : isProtected a = false) :
    (m.write a value).read a = value := by
  simp [write, read, h]

/- A write leaves all other cells as they are. -/
theorem read_write_of_ne
    (m : Memory)
    {a b : UInt16}
    (value : UInt8)
    (h : cellOf a ≠ cellOf b) :
    (m.write a value).read b = m.read b := by
  have hVal : (cellOf a).val ≠ (cellOf b).val := by
    intro hEq
    exact h (Fin.ext hEq)
  unfold write
  split
  · rfl
  · simp [read, hVal]

/- Make writes one after another. -/
def writeAll
    (m : Memory)
    (writes : List (UInt16 × UInt8)) : Memory :=
  writes.foldl (fun m w => m.write w.1 w.2) m

/-
  Copy bytes to consecutive cells, without regard to write
  protection. Bytes past the end of memory are dropped.
-/
def copyTo
    (m : Memory)
    (start : Nat)
    (bytes : List UInt8) : Memory :=
  match bytes with
  | [] => m
  | byte :: rest =>
      copyTo
        { cells := m.cells.setIfInBounds start byte }
        (start + 1) rest

/- Put the font sheet in its place. -/
def loadFont (m : Memory) : Memory :=
  m.copyTo Font.base Font.sheet.toList

/- Memory as a machine starts with it: the font, else zero. -/
def initial : Memory :=
  loadFont { cells := Vector.replicate 4096 0 }

/-
  Copy a program to the program start. A program that does
  not fit is refused as a whole.
-/
def loadProgram
    (m : Memory)
    (program : List UInt8) : Except Fault Memory :=
  if programLimit < program.length then
    .error (.programTooLarge program.length programLimit)
  else
    .ok (m.copyTo programStart program)

end Memory

end ChipEight
