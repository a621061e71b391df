import ChipEight.Proofs.Checked.Machine
import ChipEight.Proofs.Instruction.Forms
import ChipEight.Proofs.Machine.Stores

/-
  Which parts of a machine a word can change.

  The forms of a word tell it for most parts. Cells of memory
  are changed from the index on, and registers are named by
  the digits of the word. What lies outside the footprint of
  a word is left as it was, whether the word is carried out
  or faults.

  Key definitions include:
    * `ChipEight.Part`
    * `ChipEight.Part.Same`
    * `ChipEight.Machine.Footprint`
    * `ChipEight.Machine.KeepsTo`

  Main declarations:
    * `ChipEight.Machine.same_iff_eq`
    * `ChipEight.Machine.keepsTo_of_decode?`
    * `ChipEight.Machine.keepsTo_execute`
-/

namespace ChipEight

------------------------------------------------------------
-- Parts
------------------------------------------------------------

/- A part of a machine. -/
inductive Part where
  /- The picture. -/
  | frame
  /- A byte of memory. -/
  | cell (a : Address)
  /- The program counter. -/
  | counter
  /- The return addresses. -/
  | stack
  /- The index. -/
  | index
  /- The delay timer. -/
  | delay
  /- The sound timer. -/
  | sound
  /- The random bytes to come. -/
  | generator
  /- A register. -/
  | register (r : Register)
deriving DecidableEq

/- Whether two machines are the same in a part. -/
def Part.Same (m after : Machine) : Part → Prop
  | .frame => after.frame = m.frame
  | .cell a => after.memory.cells.get a = m.memory.cells.get a
  | .counter => after.processor.pc = m.processor.pc
  | .stack => after.processor.stack = m.processor.stack
  | .index => after.processor.index = m.processor.index
  | .delay => after.timers.delay = m.timers.delay
  | .sound => after.timers.sound = m.timers.sound
  | .generator => after.generator = m.generator
  | .register r => after.reg r = m.reg r

namespace Part

/- Every machine is the same as itself. -/
theorem same_refl
    (m : Machine)
    (part : Part) :
    part.Same m m := by
  cases part with
  | _ => rfl

/- What two changes leave the same is the same after both. -/
theorem Same.trans
    {m n after : Machine}
    {part : Part}
    (h : part.Same m n)
    (hAfter : part.Same n after) :
    part.Same m after := by
  cases part with
  | _ => exact Eq.trans hAfter h

end Part

attribute [ext] Processor Memory Timers Machine

namespace Machine

/- A machine has no other parts. -/
theorem same_iff_eq {m after : Machine} :
    (∀ part : Part, part.Same m after) ↔ after = m := by
  constructor
  · intro h
    have hRegisters : after.processor.v = m.processor.v := by
      apply Vector.ext
      intro k hk
      exact h (.register ⟨k, hk⟩)
    have hCells : after.memory.cells = m.memory.cells := by
      apply Vector.ext
      intro k hk
      exact h (.cell ⟨k, hk⟩)
    have hProcessor : after.processor = m.processor :=
      Processor.ext hRegisters (h .index) (h .counter)
        (h .stack)
    have hTimers : after.timers = m.timers :=
      Timers.ext (h .delay) (h .sound)
    exact
      Machine.ext hProcessor (Memory.ext hCells) hTimers
        (h .frame) (h .generator)
  · rintro rfl part
    exact part.same_refl after

/- A register is set apart from all other parts. -/
theorem same_setReg
    {m : Machine}
    {x : Register}
    {part : Part}
    (h : part ≠ .register x)
    (value : UInt8) :
    part.Same m (m.setReg x value) := by
  cases part with
  | register r =>
      have hNe : r ≠ x := by
        rintro rfl
        exact h rfl
      exact m.reg_setReg_of_ne value hNe
  | _ => rfl

end Machine

------------------------------------------------------------
-- Footprints
------------------------------------------------------------

namespace Word

/- Whether a word has the digits of one of some forms. -/
def FitsOne
    (w : Word)
    (forms : List Form) : Prop :=
  ∃ f ∈ forms, f.Fits w

instance
    (w : Word)
    (forms : List Form) :
    Decidable (w.FitsOne forms) := by
  unfold FitsOne
  infer_instance

/- The forms whose words leave a flag. -/
def flagForms : List Form :=
  [Form.ofClass 0x7] ++
  [0x4, 0x5, 0x6, 0x7, 0xE].map (Form.ofLast 0x8) ++
  [Form.ofClass 0xD]

/- The forms whose words leave a byte in one register. -/
def targetForms : List Form :=
  [0x6, 0x7].map Form.ofClass ++
  [0x0, 0x1, 0x2, 0x3, 0x4, 0x5, 0x6, 0x7, 0xE].map
    (Form.ofLast 0x8) ++
  [Form.ofClass 0xC, Form.ofLow 0xF 0x07]

end Word

namespace Machine

/-
  The parts of a machine that a word can change. Any word
  moves the counter.
-/
def Footprint
    (m : Machine)
    (w : Word) : Part → Prop
  | .frame => w.FitsOne [.ofAll 0xE 0x0, .ofClass 0xD]
  | .cell a =>
      (w.FitsOne [.ofLow 0xF 0x33] ∧
          ∃ k < 3,
            a.val = (m.processor.index.toNat + k) % 4096) ∨
        (w.FitsOne [.ofLow 0xF 0x55] ∧
          ∃ k ≤ (Word.second w).val,
            a.val = (m.processor.index.toNat + k) % 4096)
  | .counter => True
  | .stack => w.FitsOne [.ofClass 0x2, .ofAll 0xE 0xE]
  | .index =>
      w.FitsOne
        [.ofClass 0xA, .ofLow 0xF 0x1E, .ofLow 0xF 0x29]
  | .delay => w.FitsOne [.ofLow 0xF 0x15]
  | .sound => w.FitsOne [.ofLow 0xF 0x18]
  | .generator => w.FitsOne [.ofClass 0xC]
  | .register r =>
      (r = Register.flag ∧ w.FitsOne Word.flagForms) ∨
        (r = Word.second w ∧ w.FitsOne Word.targetForms) ∨
        (r ≤ Word.second w ∧ w.FitsOne [.ofLow 0xF 0x65])

instance
    (m : Machine)
    (w : Word)
    (part : Part) :
    Decidable (m.Footprint w part) := by
  cases part with
  | _ =>
      unfold Footprint
      infer_instance

/-
  Whether a machine that comes from another one is the same
  outside the footprint of a word.
-/
def KeepsTo
    (m : Machine)
    (w : Word)
    (after : Machine) : Prop :=
  ∀ part : Part, m.Footprint w part ∨ part.Same m after

variable {m n : Machine} {w : Word}

/- A machine that does nothing keeps to any footprint. -/
theorem keepsTo_refl
    (m : Machine)
    (w : Word) :
    m.KeepsTo w m :=
  fun part => Or.inr (part.same_refl m)

namespace KeepsTo

/- A part of the footprint may be changed. -/
theorem change
    {after : Machine}
    {part : Part}
    (h : m.KeepsTo w n)
    (hPart : m.Footprint w part)
    (hRest : ∀ other ≠ part, other.Same n after) :
    m.KeepsTo w after := by
  intro other
  by_cases hOther : other = part
  · rw [hOther]
    exact Or.inl hPart
  · rcases h other with hInside | hSame
    · exact Or.inl hInside
    · exact Or.inr (hSame.trans (hRest other hOther))

/- The word that is to be carried out was passed before. -/
theorem of_passWord
    {after : Machine}
    (h : m.passWord.KeepsTo w after) :
    m.KeepsTo w after := by
  intro part
  have hPart := h part
  cases part with
  | counter => exact Or.inl trivial
  | _ => exact hPart

/- The counter may be moved by any word. -/
theorem jump
    (h : m.KeepsTo w n)
    (a : UInt16) :
    m.KeepsTo w (n.jump a) := by
  have hPart : m.Footprint w .counter := trivial
  apply h.change hPart
  intro other hOther
  cases other with
  | counter => exact absurd rfl hOther
  | _ => rfl

/- A register of the footprint may be set. -/
theorem setReg
    {x : Register}
    (h : m.KeepsTo w n)
    (hPart : m.Footprint w (.register x))
    (value : UInt8) :
    m.KeepsTo w (n.setReg x value) := by
  apply h.change hPart
  intro other hOther
  exact same_setReg hOther value

/- So may the index. -/
theorem setIndex
    (h : m.KeepsTo w n)
    (hPart : m.Footprint w .index)
    (a : UInt16) :
    m.KeepsTo w (n.setIndex a) := by
  apply h.change hPart
  intro other hOther
  cases other with
  | index => exact absurd rfl hOther
  | _ => rfl

/- So may the call stack. -/
theorem setStack
    (h : m.KeepsTo w n)
    (hPart : m.Footprint w .stack)
    (stack : CallStack) :
    m.KeepsTo w (n.setStack stack) := by
  apply h.change hPart
  intro other hOther
  cases other with
  | stack => exact absurd rfl hOther
  | _ => rfl

/- So may the picture. -/
theorem setFrame
    (h : m.KeepsTo w n)
    (hPart : m.Footprint w .frame)
    (frame : Frame) :
    m.KeepsTo w { n with frame := frame } := by
  apply h.change hPart
  intro other hOther
  cases other with
  | frame => exact absurd rfl hOther
  | _ => rfl

/- So may the delay timer. -/
theorem setDelay
    (h : m.KeepsTo w n)
    (hPart : m.Footprint w .delay)
    (value : UInt8) :
    m.KeepsTo w
      { n with timers := { n.timers with delay := value } } := by
  apply h.change hPart
  intro other hOther
  cases other with
  | delay => exact absurd rfl hOther
  | _ => rfl

/- So may the sound timer. -/
theorem setSound
    (h : m.KeepsTo w n)
    (hPart : m.Footprint w .sound)
    (value : UInt8) :
    m.KeepsTo w
      { n with timers := { n.timers with sound := value } } := by
  apply h.change hPart
  intro other hOther
  cases other with
  | sound => exact absurd rfl hOther
  | _ => rfl

/- So may the random bytes. -/
theorem takeRandom
    (h : m.KeepsTo w n)
    (hPart : m.Footprint w .generator) :
    m.KeepsTo w n.takeRandom.2 := by
  apply h.change hPart
  intro other hOther
  cases other with
  | generator => exact absurd rfl hOther
  | _ => rfl

end KeepsTo

------------------------------------------------------------
-- Instructions
------------------------------------------------------------

/- An instruction has one of the forms that hold its own. -/
theorem fitsOne_encode
    {instruction : Instruction}
    {forms : List Word.Form}
    (h : instruction.form ∈ forms) :
    instruction.encode.FitsOne forms :=
  ⟨instruction.form, h, instruction.fits_form⟩

/- An instruction of some forms may leave a flag. -/
theorem footprint_flag
    {instruction : Instruction}
    (h : instruction.form ∈ Word.flagForms) :
    m.Footprint instruction.encode
      (.register Register.flag) :=
  Or.inl ⟨rfl, fitsOne_encode h⟩

/- An instruction of some forms may change its register. -/
theorem footprint_target
    {instruction : Instruction}
    {x : Register}
    (hX : Word.second instruction.encode = x)
    (h : instruction.form ∈ Word.targetForms) :
    m.Footprint instruction.encode (.register x) :=
  Or.inr (Or.inl ⟨hX.symm, fitsOne_encode h⟩)

/- Instructions that leave a byte in their register do. -/
theorem keepsTo_setReg
    {instruction : Instruction}
    {x : Register}
    (h : m.KeepsTo instruction.encode n)
    (hX : Word.second instruction.encode = x)
    (hForm : instruction.form ∈ Word.targetForms)
    (value : UInt8) :
    m.KeepsTo instruction.encode (n.setReg x value) :=
  h.setReg (footprint_target hX hForm) value

/- So do those that leave a flag behind it. -/
theorem keepsTo_setResult
    {instruction : Instruction}
    {x : Register}
    (h : m.KeepsTo instruction.encode n)
    (hX : Word.second instruction.encode = x)
    (hTarget : instruction.form ∈ Word.targetForms)
    (hFlag : instruction.form ∈ Word.flagForms)
    (value : UInt8)
    (flag : Bool) :
    m.KeepsTo instruction.encode
      (n.setResult x value flag) :=
  (keepsTo_setReg h hX hTarget value).setReg
    (footprint_flag hFlag) _

/- So do those that set the index. -/
theorem keepsTo_setIndex
    {instruction : Instruction}
    (hForm :
      instruction.form ∈
        [Word.Form.ofClass 0xA, .ofLow 0xF 0x1E,
          .ofLow 0xF 0x29])
    (a : UInt16) :
    m.KeepsTo instruction.encode (m.setIndex a) :=
  (m.keepsTo_refl _).setIndex (fitsOne_encode hForm) a

/- So do those that go to a subroutine or come from one. -/
theorem keepsTo_setStack_jump
    {instruction : Instruction}
    (hForm :
      instruction.form ∈
        [Word.Form.ofClass 0x2, .ofAll 0xE 0xE])
    (stack : CallStack)
    (a : UInt16) :
    m.KeepsTo instruction.encode
      ((m.setStack stack).jump a) :=
  ((m.keepsTo_refl _).setStack (fitsOne_encode hForm)
    stack).jump a

/- A random byte is taken before its register is set. -/
theorem keepsTo_random
    (m : Machine)
    (x : Register)
    (mask value : UInt8) :
    m.KeepsTo (Instruction.random x mask).encode
      (m.takeRandom.2.setReg x value) := by
  have hTaken :
      m.KeepsTo (Instruction.random x mask).encode
        m.takeRandom.2 :=
    (m.keepsTo_refl _).takeRandom
      (fitsOne_encode (by simp [Instruction.form]))
  exact
    keepsTo_setReg hTaken (Word.second_ofByte 0xC x mask)
      (by simp [Instruction.form, Word.targetForms]) value

/- A drawing changes the picture and leaves a flag. -/
theorem keepsTo_draw
    (m : Machine)
    (x y : Register)
    (rows : Fin 16) :
    m.KeepsTo (Instruction.draw x y rows).encode
      (m.draw x y rows.val) := by
  have hFrame :
      m.Footprint (Instruction.draw x y rows).encode
        .frame :=
    fitsOne_encode (by simp [Instruction.form])
  have hFlag :
      m.Footprint (Instruction.draw x y rows).encode
        (.register Register.flag) :=
    footprint_flag
      (by simp [Instruction.form, Word.flagForms])
  exact
    ((m.keepsTo_refl _).setFrame hFrame _).setReg hFlag _

/- An operator keeps to its register and the flag. -/
theorem keepsTo_combine
    (m : Machine)
    (op : Operator)
    (x y : Register) :
    m.KeepsTo (Instruction.combine op x y).encode
      (m.combine op x y) := by
  let w := (Instruction.combine op x y).encode
  have hSecond : Word.second w = x :=
    Word.second_ofPair 0x8 x y ⟨op.code, op.code_lt⟩
  have hTarget : m.Footprint w (.register x) := by
    apply footprint_target hSecond
    cases op with
    | _ =>
        simp [Instruction.form, Operator.code,
          Word.targetForms]
  have hFlag :
      op.code ∈ [0x4, 0x5, 0x6, 0x7, 0xE] →
        m.Footprint w (.register Register.flag) := by
    intro hCode
    apply footprint_flag
    apply List.mem_append_left
    exact List.mem_append_right _ (List.mem_map_of_mem hCode)
  have hStart := m.keepsTo_refl w
  cases op with
  | move => exact hStart.setReg hTarget _
  | or => exact hStart.setReg hTarget _
  | and => exact hStart.setReg hTarget _
  | xor => exact hStart.setReg hTarget _
  | add =>
      exact
        (hStart.setReg hTarget _).setReg (hFlag (by decide)) _
  | subtract =>
      exact
        (hStart.setReg hTarget _).setReg (hFlag (by decide)) _
  | shiftRight =>
      exact
        (hStart.setReg (hFlag (by decide)) _).setReg hTarget _
  | subtractFrom =>
      exact
        (hStart.setReg hTarget _).setReg (hFlag (by decide)) _
  | shiftLeft =>
      exact
        (hStart.setReg (hFlag (by decide)) _).setReg hTarget _

/- Registers that are filled are in the footprint. -/
theorem keepsTo_restore
    (m : Machine)
    (x : Register) :
    m.KeepsTo (Instruction.restoreRegisters x).encode
      (m.restore x) := by
  refine List.foldlRecOn _ _ (m.keepsTo_refl _) ?_
  intro n h r hMem
  have hLe :
      r ≤
        Word.second
          (Instruction.restoreRegisters x).encode := by
    have hSecond := Word.second_ofByte 0xF x 0x65
    exact hSecond.symm ▸ mem_registersTo_iff.mp hMem
  have hPart :
      m.Footprint (Instruction.restoreRegisters x).encode
        (.register r) :=
    Or.inr
      (Or.inr
        ⟨hLe, fitsOne_encode (List.mem_singleton.mpr rfl)⟩)
  exact h.setReg hPart _

/- So are the cells that bytes are stored in. -/
theorem Stores.keepsTo
    {after : Machine}
    {bytes : List UInt8}
    {told : List Record}
    (h : m.Stores bytes after told)
    (hCells :
      ∀ a : Address,
        ∀ k < bytes.length,
          a.val = (m.processor.index.toNat + k) % 4096 →
            m.Footprint w (.cell a)) :
    m.KeepsTo w after := by
  intro part
  rw [h.others]
  cases part with
  | cell a =>
      by_cases hPart : m.Footprint w (.cell a)
      · exact Or.inl hPart
      · apply Or.inr
        apply h.spared
        apply Or.inr
        intro k hLt hPlace
        exact hPart (hCells a k hLt hPlace)
  | _ => exact Or.inr rfl

/- The three digits of a register go into three cells. -/
theorem keepsTo_storeDecimal
    (m : Machine)
    (x : Register) :
    m.KeepsTo (Instruction.storeDecimal x).encode
      (m.store (.storeDecimal x)) := by
  have hStores :=
    m.stores_storeDecimal (spells_decimalDigits (m.reg x))
  apply hStores.keepsTo
  intro a k hLt hPlace
  exact
    Or.inl
      ⟨fitsOne_encode (by simp [Instruction.form]), k, hLt,
        hPlace⟩

/- Each register that is saved goes into one cell. -/
theorem keepsTo_saveRegisters
    (m : Machine)
    (x : Register) :
    m.KeepsTo (Instruction.saveRegisters x).encode
      (m.store (.saveRegisters x)) := by
  apply (m.stores_saveRegisters x).keepsTo
  intro a k hLt hPlace
  have hSecond := Word.second_ofByte 0xF x 0x55
  have hLe : k ≤ x.val := by
    rw [registerBytes, List.length_map,
      List.length_range] at hLt
    omega
  exact
    Or.inr
      ⟨fitsOne_encode (by simp [Instruction.form]), k,
        hSecond.symm ▸ hLe, hPlace⟩

/- Every instruction keeps to the footprint of its word. -/
theorem keepsTo_encode
    {after : Machine}
    {held : Bool}
    {instruction : Instruction}
    (h : m.execute held instruction = .ok after) :
    m.KeepsTo instruction.encode after := by
  have hStart := m.keepsTo_refl instruction.encode
  cases instruction with
  | returnFromCall =>
      rcases exists_pop_of_returnFromCall h with
        ⟨a, stack, _, rfl⟩
      exact
        keepsTo_setStack_jump (by simp [Instruction.form])
          stack a
  | call target =>
      rcases exists_push_of_call h with ⟨stack, _, rfl⟩
      exact
        keepsTo_setStack_jump (by simp [Instruction.form])
          stack _
  | hostRoutine target =>
      cases h
      exact hStart
  | awaitKey x =>
      cases h
      exact hStart
  | jump target =>
      cases h
      exact hStart.jump _
  | jumpBy target =>
      cases h
      exact hStart.jump _
  | skipIf test =>
      cases h
      split
      · exact hStart.jump _
      · exact hStart
  | load x byte =>
      cases h
      exact
        keepsTo_setReg hStart (Word.second_ofByte 0x6 x byte)
          (by simp [Instruction.form, Word.targetForms]) _
  | readDelay x =>
      cases h
      exact
        keepsTo_setReg hStart (Word.second_ofByte 0xF x 0x07)
          (by simp [Instruction.form, Word.targetForms]) _
  | addByte x byte =>
      cases h
      exact
        keepsTo_setResult hStart
          (Word.second_ofByte 0x7 x byte)
          (by simp [Instruction.form, Word.targetForms])
          (by simp [Instruction.form, Word.flagForms]) _ _
  | combine op x y =>
      cases h
      exact m.keepsTo_combine op x y
  | random x mask =>
      cases h
      exact m.keepsTo_random x mask _
  | restoreRegisters x =>
      cases h
      exact m.keepsTo_restore x
  | setIndex target =>
      cases h
      exact keepsTo_setIndex (by simp [Instruction.form]) _
  | addIndex x =>
      cases h
      exact keepsTo_setIndex (by simp [Instruction.form]) _
  | pointAtGlyph x =>
      cases h
      exact keepsTo_setIndex (by simp [Instruction.form]) _
  | setDelay x =>
      cases h
      exact
        hStart.setDelay
          (fitsOne_encode (by simp [Instruction.form])) _
  | setSound x =>
      cases h
      exact
        hStart.setSound
          (fitsOne_encode (by simp [Instruction.form])) _
  | clearScreen =>
      cases h
      exact
        hStart.setFrame
          (fitsOne_encode (by simp [Instruction.form])) _
  | draw x y rows =>
      cases h
      exact m.keepsTo_draw x y rows
  | storeDecimal x =>
      cases h
      exact m.keepsTo_storeDecimal x
  | saveRegisters x =>
      cases h
      exact m.keepsTo_saveRegisters x

/- So does the word that an instruction is read from. -/
theorem keepsTo_of_decode?
    {after : Machine}
    {held : Bool}
    {instruction : Instruction}
    (hWord : Instruction.decode? w = some instruction)
    (h : m.execute held instruction = .ok after) :
    m.KeepsTo w after := by
  have hKeeps := keepsTo_encode h
  rw [Instruction.encode_of_decode? hWord] at hKeeps
  exact hKeeps

/-
  A word that is carried out in place leaves a machine that
  keeps to its footprint, also if it faults.
-/
theorem keepsTo_execute
    (m : Machine)
    (held : Bool)
    {instruction : Instruction}
    (h : Instruction.decode? w = some instruction) :
    ∃ after fault,
      m.execute? held instruction = some (after, fault) ∧
        m.KeepsTo w after := by
  rw [execute?_eq]
  cases hRun : m.execute held instruction with
  | error fault =>
      exact ⟨m, some fault, rfl, m.keepsTo_refl w⟩
  | ok after =>
      exact ⟨after, none, rfl, keepsTo_of_decode? h hRun⟩

end Machine

end ChipEight
