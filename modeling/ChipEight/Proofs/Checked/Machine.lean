import ChipEight.Machine.Execute
import ChipEight.Proofs.Checked.Frame
import ChipEight.Snapshot

/-
  Instructions worked out with checks, in place.

  An instruction that faults has no machine to give back: it
  leaves the one it was given, in the state that it had got
  to. So the outcome of an instruction is a machine in any
  case, and a fault besides if there was one.

  No check fails, whatever the machine. What a faulting
  instruction leaves is what it found, for calls and returns
  look at the stack before they write.

  Key definitions include:
    * `ChipEight.Processor.push?`
    * `ChipEight.Processor.pop?`
    * `ChipEight.Machine.outcome`
    * `ChipEight.Machine.execute?`
    * `ChipEight.Machine.snapshot?`
    * `ChipEight.Snapshot.text?`

  Main declarations:
    * `ChipEight.Machine.execute?_eq`
    * `ChipEight.Machine.snapshot?_eq`
    * `ChipEight.Snapshot.text?_eq`
-/

namespace ChipEight

------------------------------------------------------------
-- Calls
------------------------------------------------------------

namespace Processor

/-
  Remember a return address: the depth is raised, and the
  slot below it is filled.
-/
def push?
    (p : Processor)
    (a : UInt16) : Option (Except Fault Processor) :=
  if p.stack.depth = CallStack.capacity then
    some (.error .stackOverflow)
  else do
    let depth ←
      Checked.sum Checked.byteLimit p.stack.depth 1
    let slot ← Checked.difference depth 1
    if slot < CallStack.capacity then
      let stack ← p.stack.push? a
      some (.ok { p with stack := stack })
    else
      none

/-
  Take the newest return address: the depth is lowered, and
  the slot that it then tells is read.
-/
def pop? (p : Processor) :
    Option (Except Fault (UInt16 × Processor)) :=
  if p.stack.depth = 0 then
    some (.error .stackUnderflow)
  else do
    let slot ← Checked.difference p.stack.depth 1
    let a ← p.stack.toList[slot]?
    let (_, stack) ← p.stack.pop?
    some (.ok (a, { p with stack := stack }))

/- Remembering a return address passes all checks. -/
theorem push?_eq
    (p : Processor)
    (a : UInt16) :
    p.push? a = some (p.push a) := by
  have hLe : p.stack.depth ≤ 16 := p.stack.length_le
  unfold push? push
  cases hPush : p.stack.push? a with
  | none =>
      rw [if_pos (CallStack.push?_eq_none_iff.mp hPush)]
  | some stack =>
      have hFree : ¬ p.stack.depth = CallStack.capacity := by
        intro hFull
        rw [CallStack.push?_eq_none_iff.mpr hFull] at hPush
        cases hPush
      have hDepth :
          p.stack.depth + 1 < Checked.byteLimit := by
        unfold Checked.byteLimit
        omega
      have hSlot :
          p.stack.depth + 1 - 1 < CallStack.capacity := by
        unfold CallStack.capacity at hFree ⊢
        omega
      rw [if_neg hFree, Checked.sum_bind hDepth,
        Checked.difference_bind (by omega), if_pos hSlot]
      rfl

/- Taking a return address passes all checks. -/
theorem pop?_eq (p : Processor) :
    p.pop? = some p.pop := by
  unfold pop? pop
  cases hPop : p.stack.pop? with
  | none =>
      have hEmpty : p.stack.depth = 0 := by
        rw [← CallStack.length_toList,
          CallStack.pop?_eq_none_iff.mp hPop]
        rfl
      rw [if_pos hEmpty]
  | some popped =>
      rcases popped with ⟨a, rest⟩
      have hList := CallStack.toList_pop? hPop
      have hDepth :
          p.stack.depth = rest.toList.length + 1 := by
        rw [← CallStack.length_toList, hList,
          List.length_append]
        rfl
      have hNonempty : ¬ p.stack.depth = 0 := by
        omega
      have hNewest :
          p.stack.toList[p.stack.depth - 1]? = some a := by
        rw [hList, hDepth, Nat.add_sub_cancel,
          List.getElem?_concat_length]
      rw [if_neg hNonempty,
        Checked.difference_bind (by omega), hNewest]
      rfl

end Processor

namespace Machine

/-
  What an instruction leaves behind: the machine that it
  made, or the one it found and a fault.
-/
def outcome
    (m : Machine) :
    Except Fault Machine → Machine × Option Fault
  | .ok after => (after, none)
  | .error fault => (m, some fault)

/- Call the subroutine at an address. -/
def call?
    (m : Machine)
    (a : UInt16) : Option (Machine × Option Fault) := do
  match ← m.processor.push? m.processor.pc with
  | .error fault => some (m, some fault)
  | .ok processor =>
      some ({ m with processor := processor.jump a }, none)

/- Go back behind the latest call. -/
def returnFromCall?
    (m : Machine) : Option (Machine × Option Fault) := do
  match ← m.processor.pop? with
  | .error .stackUnderflow => some (m, some .returnOutsideCall)
  | .error fault => some (m, some fault)
  | .ok (a, processor) =>
      some ({ m with processor := processor.jump a }, none)

/- A call passes all checks, and writes nothing if it faults. -/
theorem call?_eq
    (m : Machine)
    (a : UInt16) :
    m.call? a = some (m.outcome (m.call a)) := by
  unfold call? call
  rw [Processor.push?_eq, Option.bind_eq_bind,
    Option.bind_some]
  cases m.processor.push m.processor.pc with
  | error fault => rfl
  | ok processor => rfl

/- So does a return. -/
theorem returnFromCall?_eq (m : Machine) :
    m.returnFromCall? =
      some (m.outcome m.returnFromCall) := by
  unfold returnFromCall? returnFromCall
  rw [Processor.pop?_eq, Option.bind_eq_bind,
    Option.bind_some]
  cases m.processor.pop with
  | ok popped => rfl
  | error fault =>
      cases fault with
      | stackUnderflow => rfl
      | _ => rfl

------------------------------------------------------------
-- Addresses
------------------------------------------------------------

/- Go on at an address moved by the first register. -/
def jumpBy?
    (m : Machine)
    (target : Address) : Option Machine := do
  let place ←
    Checked.sum Checked.wordLimit target.val
      (m.reg Register.first).toNat
  some (m.jump (UInt16.ofNat place))

/- Point the index at the sprite of a digit. -/
def pointAtGlyph?
    (m : Machine)
    (x : Register) : Option Machine := do
  let offset ←
    Checked.product Checked.wordLimit (m.reg x).toNat
      Font.glyphSize
  let place ←
    Checked.sum Checked.wordLimit Font.base offset
  some
    (m.setIndex (Processor.wrap (UInt16.ofNat place)))

/- A moved target is kept by a word. -/
theorem jumpBy?_eq
    (m : Machine)
    (target : Address) :
    m.jumpBy? target =
      some
        (m.jump
          (UInt16.ofNat
            (target.val + (m.reg Register.first).toNat))) := by
  have hTarget := target.isLt
  have hByte := (m.reg Register.first).toNat_lt
  have hPlace :
      target.val + (m.reg Register.first).toNat <
        Checked.wordLimit := by
    unfold Checked.wordLimit
    omega
  rw [jumpBy?, Checked.sum_bind hPlace]

/- So is the place of a sprite. -/
theorem pointAtGlyph?_eq
    (m : Machine)
    (x : Register) :
    m.pointAtGlyph? x =
      some (m.setIndex (Font.glyphAddress (m.reg x))) := by
  have hByte := (m.reg x).toNat_lt
  have hOffset :
      (m.reg x).toNat * Font.glyphSize <
        Checked.wordLimit := by
    unfold Font.glyphSize Checked.wordLimit
    omega
  have hPlace :
      Font.base + (m.reg x).toNat * Font.glyphSize <
        Checked.wordLimit := by
    unfold Font.base
    omega
  have hAddress :
      Processor.wrap
          (UInt16.ofNat
            (Font.base +
              (m.reg x).toNat * Font.glyphSize)) =
        Font.glyphAddress (m.reg x) := by
    apply UInt16.toNat_inj.mp
    rw [Processor.toNat_wrap, Font.glyphAddress,
      UInt16.toNat_ofNat', UInt16.toNat_ofNat']
    omega
  rw [pointAtGlyph?, Checked.product_bind hOffset,
    Checked.sum_bind hPlace, hAddress]

------------------------------------------------------------
-- Memory And Pictures
------------------------------------------------------------

/- Make the writes of an instruction. -/
def store?
    (m : Machine)
    (instruction : Instruction) : Option Machine := do
  let memory ←
    m.memory.writeAll? (m.memoryWrites instruction)
  some { m with memory := memory }

/- Fill the registers up to one of them from the index on. -/
def restore?
    (m : Machine)
    (x : Register) : Option Machine :=
  (registersTo x).foldlM
    (fun n r => do
      let value ←
        n.memory.read?
          (m.processor.index + UInt16.ofNat r.val)
      some (n.setReg r value))
    m

/- Draw the sprite at the index and flag a collision. -/
def draw?
    (m : Machine)
    (x y : Register)
    (rows : Nat) : Option Machine := do
  let sprite ←
    m.memory.readRange? m.processor.index rows
  let (hit, frame) ←
    m.frame.blit? (m.reg x) (m.reg y) sprite
  some ({ m with frame := frame }.setFlag hit)

/- Writes pass all checks. -/
theorem store?_eq
    (m : Machine)
    (instruction : Instruction) :
    m.store? instruction = some (m.store instruction) := by
  rw [store?, Memory.writeAll?_eq]
  rfl

/- So does filling registers, which leaves memory alone. -/
theorem restore?_eq
    (m : Machine)
    (x : Register) :
    m.restore? x = some (m.restore x) := by
  refine Checked.foldlM_eq_pure_foldl
    (fun n => n.memory = m.memory) ?_ ?_ rfl
  · intro n r _ hMemory
    rw [Memory.read?_eq, hMemory]
    rfl
  · intro n r hMemory
    exact hMemory

/- So does drawing. -/
theorem draw?_eq
    (m : Machine)
    (x y : Register)
    (rows : Nat) :
    m.draw? x y rows = some (m.draw x y rows) := by
  rw [draw?, Memory.readRange?_eq, Option.bind_eq_bind,
    Option.bind_some, Frame.blit?_eq]
  rfl

------------------------------------------------------------
-- Instructions
------------------------------------------------------------

/-
  Carry an instruction out in place. Those without a place or
  a number to be checked are the same as ever, but must not
  fault.
-/
def execute?
    (m : Machine)
    (held : Bool) :
    Instruction → Option (Machine × Option Fault)
  | .returnFromCall => m.returnFromCall?
  | .call target => m.call? (UInt16.ofNat target.val)
  | .jumpBy target =>
      (m.jumpBy? target).map (fun after => (after, none))
  | .draw x y rows =>
      (m.draw? x y rows.val).map (fun after => (after, none))
  | .pointAtGlyph x =>
      (m.pointAtGlyph? x).map (fun after => (after, none))
  | .storeDecimal x =>
      (m.store? (.storeDecimal x)).map
        (fun after => (after, none))
  | .saveRegisters x =>
      (m.store? (.saveRegisters x)).map
        (fun after => (after, none))
  | .restoreRegisters x =>
      (m.restore? x).map (fun after => (after, none))
  | other =>
      match m.execute held other with
      | .ok after => some (after, none)
      | .error _ => none

/-
  Every instruction passes all checks, and leaves the machine
  as it found it if it faults.
-/
theorem execute?_eq
    (m : Machine)
    (held : Bool)
    (instruction : Instruction) :
    m.execute? held instruction =
      some (m.outcome (m.execute held instruction)) := by
  cases instruction with
  | returnFromCall =>
      exact m.returnFromCall?_eq
  | call target =>
      exact m.call?_eq _
  | jumpBy target =>
      rw [execute?, jumpBy?_eq]
      rfl
  | draw x y rows =>
      rw [execute?, draw?_eq]
      rfl
  | pointAtGlyph x =>
      rw [execute?, pointAtGlyph?_eq]
      rfl
  | storeDecimal x =>
      rw [execute?, store?_eq]
      rfl
  | saveRegisters x =>
      rw [execute?, store?_eq]
      rfl
  | restoreRegisters x =>
      rw [execute?, restore?_eq]
      rfl
  | _ => rfl

------------------------------------------------------------
-- Snapshots
------------------------------------------------------------

/-
  Look at a machine: the calls that have not returned are a
  slice of the stack, and the window is read from memory.
-/
def snapshot? (m : Machine) : Option Snapshot :=
  let p := m.processor
  let windowStart := Processor.wrap (p.pc - 8)
  if p.stack.depth ≤ CallStack.capacity then do
    let word ← m.memory.readWord? p.pc
    let window ←
      m.memory.readRange? windowStart Snapshot.windowSize
    some
      { pc := p.pc
        depth := UInt8.ofNat p.stack.depth
        stack := p.stack.toList
        v := p.v
        index := p.index
        delay := m.timers.delay
        sound := m.timers.sound
        word := word
        windowStart := windowStart
        window := window }
  else
    none

/- Looking at a machine passes all checks. -/
theorem snapshot?_eq (m : Machine) :
    m.snapshot? = some m.snapshot := by
  have hDepth :
      m.processor.stack.depth ≤ CallStack.capacity :=
    m.processor.stack.depth_le_capacity
  unfold snapshot?
  simp only [if_pos hDepth, Memory.readWord?_eq,
    Memory.readRange?_eq, Option.bind_eq_bind,
    Option.bind_some]
  rfl

/- The window of a snapshot lies in memory. -/
theorem windowStart_snapshot_lt (m : Machine) :
    m.snapshot.windowStart.toNat < 4096 :=
  Processor.toNat_wrap_lt _

/- The window of a snapshot has sixteen bytes. -/
theorem length_window_snapshot (m : Machine) :
    m.snapshot.window.length = 16 := by
  have hWindow :
      m.snapshot.window =
        m.memory.readRange m.snapshot.windowStart 16 :=
    rfl
  rw [hWindow, Memory.readRange, List.length_map,
    List.length_range]

end Machine

namespace Snapshot

/- Four registers, numbered from the number of their row. -/
def registerLine?
    (s : Snapshot)
    (row : Nat) : Option String := do
  let cells ←
    (List.range 4).mapM
      (fun column => do
        let first ←
          Checked.product Checked.wordLimit row 4
        let number ←
          Checked.sum Checked.wordLimit first column
        some (s.registerCell (Register.ofNat number)))
  some ("  ".intercalate cells)

/- A byte of the window, marked if the counter is there. -/
def windowCell?
    (s : Snapshot)
    (byte : UInt8)
    (offset : Nat) : Option String := do
  let place ←
    Checked.sum Checked.wordLimit s.windowStart.toNat offset
  let address := Processor.wrap (UInt16.ofNat place)
  some
    ((if address.toNat = s.pc.toNat then " >" else "  ") ++
      hex 2 byte.toNat)

/- The text of a snapshot, without a last line break. -/
def text? (s : Snapshot) : Option String := do
  let registers ← (List.range 4).mapM s.registerLine?
  let window ←
    (s.window.zipIdx).mapM
      (fun entry => s.windowCell? entry.1 entry.2)
  some
    ("\n".intercalate
      ([s.counterLine, s.indexLine] ++ registers ++
        [s.stackLine,
          hex 3 s.windowStart.toNat ++ ":" ++
            String.join window]))

/- Registers are numbered below sixteen. -/
theorem registerLine?_eq
    (s : Snapshot)
    {row : Nat}
    (h : row < 4) :
    s.registerLine? row =
      some (s.registerLine (row * 4)) := by
  have hFirst : row * 4 < Checked.wordLimit := by
    unfold Checked.wordLimit
    omega
  have hCells :
      (List.range 4).mapM
          (fun column => do
            let first ←
              Checked.product Checked.wordLimit row 4
            let number ←
              Checked.sum Checked.wordLimit first column
            some (s.registerCell (Register.ofNat number))) =
        some
          ((List.range 4).map
            (fun column =>
              s.registerCell
                (Register.ofNat (row * 4 + column)))) := by
    apply Checked.mapM_eq_pure_map
    intro column hColumn
    have hLt := List.mem_range.mp hColumn
    have hNumber :
        row * 4 + column < Checked.wordLimit := by
      unfold Checked.wordLimit
      omega
    rw [Checked.product_bind hFirst,
      Checked.sum_bind hNumber]
    rfl
  rw [registerLine?, hCells]
  rfl

/- The window ends where addresses can still be counted. -/
theorem windowCell?_eq
    (s : Snapshot)
    (byte : UInt8)
    {offset : Nat}
    (h :
      s.windowStart.toNat + offset < Checked.wordLimit) :
    s.windowCell? byte offset =
      some (s.windowCell byte offset) := by
  have hAddress :
      (Processor.wrap
          (UInt16.ofNat
            (s.windowStart.toNat + offset))).toNat =
        (s.windowStart.toNat + offset) % 4096 := by
    unfold Checked.wordLimit at h
    rw [Processor.toNat_wrap, UInt16.toNat_ofNat',
      Nat.mod_eq_of_lt h]
  rw [windowCell?, Checked.sum_bind h]
  simp only [hAddress]
  rfl

/- A snapshot of a machine can be written. -/
theorem text?_eq
    {s : Snapshot}
    (hStart : s.windowStart.toNat < 4096)
    (hLength : s.window.length = 16) :
    s.text? = some s.text := by
  have hRegisters :
      (List.range 4).mapM s.registerLine? =
        some
          ((List.range 4).map
            (fun row => s.registerLine (row * 4))) := by
    apply Checked.mapM_eq_pure_map
    intro row hRow
    exact s.registerLine?_eq (List.mem_range.mp hRow)
  have hWindow :
      (s.window.zipIdx).mapM
          (fun entry => s.windowCell? entry.1 entry.2) =
        some
          ((s.window.zipIdx).map
            (fun entry =>
              s.windowCell entry.1 entry.2)) := by
    apply Checked.mapM_eq_pure_map
    intro entry hEntry
    apply s.windowCell?_eq
    have hOffset := List.snd_lt_add_of_mem_zipIdx hEntry
    unfold Checked.wordLimit
    omega
  rw [text?, hRegisters, Option.bind_eq_bind,
    Option.bind_some, hWindow]
  rfl

end Snapshot

end ChipEight
