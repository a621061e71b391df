import ChipEight.Machine.Basic

/-
  What each instruction does to a machine.

  When an instruction is applied, the program counter points
  behind it already: jumps, calls and returns replace it and
  a skip moves it once more.

  What an instruction asks of the world around the machine is
  said apart: the key it wants to know about
  (`Machine.keyAsked?`) is answered beforehand, and what is
  to be done afterwards (`Instruction.aftermath`) depends on
  the instruction alone.

  Key definitions include:
    * `ChipEight.Machine.holds`
    * `ChipEight.Machine.combined`
    * `ChipEight.Machine.memoryWrites`
    * `ChipEight.Machine.execute`
    * `ChipEight.Machine.keyAsked?`
    * `ChipEight.Aftermath`
    * `ChipEight.Instruction.aftermath`
-/

namespace ChipEight

namespace Machine

------------------------------------------------------------
-- Registers
------------------------------------------------------------

/- The byte in a register. -/
def reg
    (m : Machine)
    (x : Register) : UInt8 :=
  m.processor.get x

/- Put a byte into a register. -/
def setReg
    (m : Machine)
    (x : Register)
    (value : UInt8) : Machine :=
  { m with processor := m.processor.set x value }

/- Set the flag register to one or zero. -/
def setFlag
    (m : Machine)
    (on : Bool) : Machine :=
  m.setReg Register.flag (if on then 1 else 0)

/- Set the index. -/
def setIndex
    (m : Machine)
    (a : UInt16) : Machine :=
  { m with processor := { m.processor with index := a } }

/- Go on at an address. -/
def jump
    (m : Machine)
    (a : UInt16) : Machine :=
  { m with processor := m.processor.jump a }

/- Move the program counter past a word. -/
def passWord (m : Machine) : Machine :=
  { m with processor := m.processor.advance 2 }

------------------------------------------------------------
-- Skips
------------------------------------------------------------

/- The key that a register names, by its low four bits. -/
def keyIn
    (m : Machine)
    (x : Register) : UInt8 :=
  m.reg x &&& 0xF

/- The key whose state a test depends on. -/
def keyTested?
    (m : Machine) : Test → Option UInt8
  | .keyHeld x => some (m.keyIn x)
  | .keyFree x => some (m.keyIn x)
  | _ => none

/- The key whose state an instruction depends on. -/
def keyAsked?
    (m : Machine) : Instruction → Option UInt8
  | .skipIf test => m.keyTested? test
  | _ => none

/-
  Whether a test holds, given whether the key that it names
  is held.
-/
def holds
    (m : Machine)
    (held : Bool) : Test → Bool
  | .isByte x byte => m.reg x == byte
  | .isNotByte x byte => m.reg x != byte
  | .same x y => m.reg x == m.reg y
  | .different x y => m.reg x != m.reg y
  | .keyHeld _ => held
  | .keyFree _ => !held

------------------------------------------------------------
-- Arithmetic
------------------------------------------------------------

/-
  Leave a result in a register, and then a flag: where both
  go to the flag register, the flag stays.
-/
def setResult
    (m : Machine)
    (x : Register)
    (result : UInt8)
    (flag : Bool) : Machine :=
  (m.setReg x result).setFlag flag

/-
  Leave the bit shifted out in the flag register, and then a
  result: where both go to the flag register, the result
  stays.
-/
def setShifted
    (m : Machine)
    (x : Register)
    (result : UInt8)
    (out : Bool) : Machine :=
  (m.setFlag out).setReg x result

/- Whether the sum of two bytes leaves a byte. -/
def carries (a b : UInt8) : Bool :=
  255 < a.toNat + b.toNat

/- The machine after an operator on two registers. -/
def combine
    (m : Machine)
    (op : Operator)
    (x y : Register) : Machine :=
  let a := m.reg x
  let b := m.reg y
  match op with
  | .move => m.setReg x b
  | .or => m.setReg x (a ||| b)
  | .and => m.setReg x (a &&& b)
  | .xor => m.setReg x (a ^^^ b)
  | .add => m.setResult x (a + b) (carries a b)
  | .subtract => m.setResult x (a - b) (b ≤ a)
  | .shiftRight => m.setShifted x (a >>> 1) (a &&& 1 == 1)
  | .subtractFrom => m.setResult x (b - a) (a ≤ b)
  | .shiftLeft => m.setShifted x (a <<< 1) (a >>> 7 == 1)

------------------------------------------------------------
-- Memory
------------------------------------------------------------

/- Bytes with the addresses from the index on. -/
def atIndex
    (m : Machine)
    (bytes : List UInt8) : List (UInt16 × UInt8) :=
  (bytes.zipIdx).map
    (fun entry =>
      (m.processor.index + UInt16.ofNat entry.2, entry.1))

/- The three decimal digits of a byte, hundreds first. -/
def decimalDigits (value : UInt8) : List UInt8 :=
  [value / 100, value / 10 % 10, value % 10]

/- The registers up to one of them. -/
def registersTo (x : Register) : List Register :=
  (List.finRange 16).take (x.val + 1)

/- The writes that an instruction makes, in order. -/
def memoryWrites
    (m : Machine) : Instruction → List (UInt16 × UInt8)
  | .storeDecimal x => m.atIndex (decimalDigits (m.reg x))
  | .saveRegisters x =>
      m.atIndex ((registersTo x).map m.reg)
  | _ => []

/- Make the writes of an instruction. -/
def store
    (m : Machine)
    (instruction : Instruction) : Machine :=
  { m with
    memory := m.memory.writeAll (m.memoryWrites instruction) }

/- Fill the registers up to one of them from the index on. -/
def restore
    (m : Machine)
    (x : Register) : Machine :=
  (registersTo x).foldl
    (fun n r =>
      n.setReg r
        (m.memory.read
          (m.processor.index + UInt16.ofNat r.val)))
    m

------------------------------------------------------------
-- Calls
------------------------------------------------------------

/- Call the subroutine at an address. -/
def call
    (m : Machine)
    (a : UInt16) : Except Fault Machine :=
  match m.processor.push m.processor.pc with
  | .error fault => .error fault
  | .ok processor =>
      .ok { m with processor := processor.jump a }

/- Go back behind the latest call. -/
def returnFromCall (m : Machine) : Except Fault Machine :=
  match m.processor.pop with
  | .error .stackUnderflow => .error .returnOutsideCall
  | .error fault => .error fault
  | .ok (a, processor) =>
      .ok { m with processor := processor.jump a }

------------------------------------------------------------
-- Pictures
------------------------------------------------------------

/- Draw the sprite at the index and flag a collision. -/
def draw
    (m : Machine)
    (x y : Register)
    (rows : Nat) : Machine :=
  let sprite :=
    m.memory.readRange m.processor.index rows
  let hit := m.frame.collides (m.reg x) (m.reg y) sprite
  let frame := m.frame.blit (m.reg x) (m.reg y) sprite
  { m with frame := frame }.setFlag hit

------------------------------------------------------------
-- Instructions
------------------------------------------------------------

/-
  The machine after an instruction, or the fault that keeps
  it from being carried out. `held` says whether the key that
  the instruction asks about is held.
-/
def execute
    (m : Machine)
    (held : Bool) : Instruction → Except Fault Machine
  | .clearScreen => .ok { m with frame := Frame.blank }
  | .returnFromCall => m.returnFromCall
  | .hostRoutine _ => .ok m
  | .jump target => .ok (m.jump (UInt16.ofNat target.val))
  | .call target => m.call (UInt16.ofNat target.val)
  | .skipIf test =>
      .ok (if m.holds held test then m.passWord else m)
  | .load x byte => .ok (m.setReg x byte)
  | .addByte x byte =>
      .ok
        (m.setResult x (m.reg x + byte)
          (carries (m.reg x) byte))
  | .combine op x y => .ok (m.combine op x y)
  | .setIndex target =>
      .ok (m.setIndex (UInt16.ofNat target.val))
  | .jumpBy target =>
      .ok
        (m.jump
          (UInt16.ofNat (target.val + (m.reg Register.first).toNat)))
  | .random x mask =>
      let (byte, m) := m.takeRandom
      .ok (m.setReg x (byte &&& mask))
  | .draw x y rows => .ok (m.draw x y rows.val)
  | .readDelay x => .ok (m.setReg x m.timers.delay)
  | .awaitKey _ => .ok m
  | .setDelay x =>
      .ok
        { m with
          timers := { m.timers with delay := m.reg x } }
  | .setSound x =>
      .ok
        { m with
          timers := { m.timers with sound := m.reg x } }
  | .addIndex x =>
      .ok
        (m.setIndex
          (Processor.wrap
            (m.processor.index + (m.reg x).toUInt16)))
  | .pointAtGlyph x =>
      .ok (m.setIndex (Font.glyphAddress (m.reg x)))
  | .storeDecimal x => .ok (m.store (.storeDecimal x))
  | .saveRegisters x => .ok (m.store (.saveRegisters x))
  | .restoreRegisters x => .ok (m.restore x)

end Machine

------------------------------------------------------------
-- Aftermath
------------------------------------------------------------

/- What is to be done once an instruction is carried out. -/
inductive Aftermath where
  /- Nothing; go on with the next word. -/
  | goOn
  /- The picture was drawn and is to be shown. -/
  | showFrame
  /- No further word runs until a key press is stored. -/
  | awaitKey (x : Register)
deriving DecidableEq

/- What is to be done after an instruction. -/
def Instruction.aftermath : Instruction → Aftermath
  | .clearScreen => .showFrame
  | .draw _ _ _ => .showFrame
  | .awaitKey x => .awaitKey x
  | _ => .goOn

end ChipEight
