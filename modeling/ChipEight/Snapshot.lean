import ChipEight.Instruction.Encoding
import ChipEight.Instruction.Mnemonic
import ChipEight.Machine.Basic

/-
  A machine's registers, timers and the memory around its
  program counter, for a person to look at.

  Key definitions include:
    * `ChipEight.Snapshot`
    * `ChipEight.Machine.snapshot`
    * `ChipEight.Snapshot.text`
-/

namespace ChipEight

------------------------------------------------------------
-- Contents
------------------------------------------------------------

/- What a snapshot shows. -/
structure Snapshot where
  pc : UInt16
  depth : UInt8
  stack : List UInt16
  v : Vector UInt8 16
  index : UInt16
  delay : UInt8
  sound : UInt8
  word : Word
  windowStart : UInt16
  window : List UInt8
deriving DecidableEq

namespace Snapshot

/- Bytes of memory that a snapshot shows. -/
def windowSize : Nat :=
  16

end Snapshot

/- What is to be seen of a machine. -/
def Machine.snapshot (m : Machine) : Snapshot :=
  let p := m.processor
  let windowStart := Processor.wrap (p.pc - 8)
  { pc := p.pc
    depth := UInt8.ofNat p.stack.depth
    stack := p.stack.toList
    v := p.v
    index := p.index
    delay := m.timers.delay
    sound := m.timers.sound
    word := m.fetch
    windowStart := windowStart
    window :=
      m.memory.readRange windowStart Snapshot.windowSize }

------------------------------------------------------------
-- Text
------------------------------------------------------------

namespace Snapshot

/- The program counter and the word it points at. -/
def counterLine (s : Snapshot) : String :=
  let statement :=
    match Instruction.decode? s.word with
    | some instruction => instruction.mnemonic
    | none => "???"
  "PC " ++ hexMarked 3 s.pc.toNat ++
    "  op " ++ hex 4 s.word.toNat ++ "  " ++ statement

/- The index and the timers. -/
def indexLine (s : Snapshot) : String :=
  "I  " ++ hexMarked 3 s.index.toNat ++
    "  DT " ++ hex 2 s.delay.toNat ++
    "  ST " ++ hex 2 s.sound.toNat

/- A register and its byte. -/
def registerCell
    (s : Snapshot)
    (x : Register) : String :=
  Register.name x ++ " " ++ hex 2 (s.v.get x).toNat

/- Four registers, from one of them on. -/
def registerLine
    (s : Snapshot)
    (first : Nat) : String :=
  "  ".intercalate
    ((List.range 4).map
      (fun k => s.registerCell (Register.ofNat (first + k))))

/- The depth of the call stack and its addresses. -/
def stackLine (s : Snapshot) : String :=
  "SP " ++ hex 1 s.depth.toNat ++ "  stack [" ++
    " ".intercalate
      (s.stack.map (fun a => hex 3 a.toNat)) ++
    "]"

/- A byte of the window, marked if the counter is there. -/
def windowCell
    (s : Snapshot)
    (byte : UInt8)
    (offset : Nat) : String :=
  let address := (s.windowStart.toNat + offset) % 4096
  (if address = s.pc.toNat then " >" else "  ") ++
    hex 2 byte.toNat

/- The window and the address it starts at. -/
def windowLine (s : Snapshot) : String :=
  hex 3 s.windowStart.toNat ++ ":" ++
    String.join
      ((s.window.zipIdx).map
        (fun entry => s.windowCell entry.1 entry.2))

/- The lines of a snapshot. -/
def lines (s : Snapshot) : List String :=
  [s.counterLine, s.indexLine,
    s.registerLine 0, s.registerLine 4,
    s.registerLine 8, s.registerLine 12,
    s.stackLine, s.windowLine]

/- The text of a snapshot, without a last line break. -/
def text (s : Snapshot) : String :=
  "\n".intercalate s.lines

end Snapshot

end ChipEight
