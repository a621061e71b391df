import ChipEight.CallStack
import ChipEight.Fault
import ChipEight.Instruction.Basic

/-
  The registers of the machine: sixteen bytes, the index, the
  program counter and the call stack.

  Instructions name a register by a `Register`, which always
  exists; callers from outside name it by a byte, which may
  not.

  Key definitions include:
    * `ChipEight.Processor`
    * `ChipEight.Processor.get`
    * `ChipEight.Processor.set`
    * `ChipEight.Processor.get?`
    * `ChipEight.Processor.set?`
    * `ChipEight.Processor.push`
    * `ChipEight.Processor.pop`
    * `ChipEight.Processor.advance`
    * `ChipEight.Processor.jump`
-/

namespace ChipEight

------------------------------------------------------------
-- Registers
------------------------------------------------------------

/- The registers and the call stack. -/
structure Processor where
  v : Vector UInt8 16
  index : UInt16
  pc : UInt16
  stack : CallStack
deriving DecidableEq

namespace Processor

/- The number of registers. -/
def registerCount : Nat :=
  16

/- All registers zero, about to run the program start. -/
def initial : Processor where
  v := Vector.replicate 16 0
  index := 0
  pc := 0x200
  stack := CallStack.empty

/- The byte in a register. -/
def get
    (p : Processor)
    (x : Register) : UInt8 :=
  p.v[x]

/- Put a byte into a register. -/
def set
    (p : Processor)
    (x : Register)
    (value : UInt8) : Processor :=
  { p with v := p.v.set x value }

/- A register holds what was put into it. -/
theorem get_set_self
    (p : Processor)
    (x : Register)
    (value : UInt8) :
    (p.set x value).get x = value := by
  simp [get, set]

/- The other registers keep what they held. -/
theorem get_set_of_ne
    (p : Processor)
    {x y : Register}
    (value : UInt8)
    (h : x ≠ y) :
    (p.set x value).get y = p.get y := by
  have hVal : x.val ≠ y.val := by
    intro hEq
    exact h (Fin.ext hEq)
  simp [get, set, hVal]

/- The byte in the register of a number. -/
def get?
    (p : Processor)
    (index : UInt8) : Except Fault UInt8 :=
  if h : index.toNat < 16 then
    .ok (p.get ⟨index.toNat, h⟩)
  else
    .error (.noSuchRegister index)

/- Put a byte into the register of a number. -/
def set?
    (p : Processor)
    (index value : UInt8) : Except Fault Processor :=
  if h : index.toNat < 16 then
    .ok (p.set ⟨index.toNat, h⟩ value)
  else
    .error (.noSuchRegister index)

------------------------------------------------------------
-- Control
------------------------------------------------------------

/- An address brought into memory. -/
def wrap (a : UInt16) : UInt16 :=
  a &&& 0x0FFF

/- Go on at an address. -/
def jump
    (p : Processor)
    (a : UInt16) : Processor :=
  { p with pc := wrap a }

/- Move the program counter forward. -/
def advance
    (p : Processor)
    (distance : UInt16) : Processor :=
  p.jump (p.pc + distance)

/- Remember a return address. -/
def push
    (p : Processor)
    (a : UInt16) : Except Fault Processor :=
  match p.stack.push? a with
  | none => .error .stackOverflow
  | some stack => .ok { p with stack := stack }

/- Take the newest return address. -/
def pop (p : Processor) :
    Except Fault (UInt16 × Processor) :=
  match p.stack.pop? with
  | none => .error .stackUnderflow
  | some (a, stack) => .ok (a, { p with stack := stack })

end Processor

end ChipEight
