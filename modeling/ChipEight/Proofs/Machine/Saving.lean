import ChipEight.Proofs.Machine.Stores

/-
  Registers that are saved and read back.

  What is written from the index on is read from there again,
  around the end of memory. Only cells of the font sheet keep
  their bytes, so a register that was to be saved there gets
  a row of a glyph instead of its byte.

  Key definitions include:
    * `ChipEight.Machine.ReadsBack`

  Main declarations:
    * `ChipEight.Machine.reg_restore`
    * `ChipEight.Machine.readsBack_restore`
    * `ChipEight.Machine.saved_registers_are_read_back`
-/

namespace ChipEight

namespace Machine

------------------------------------------------------------
-- Reading Registers
------------------------------------------------------------

/- Registers that are not filled keep their bytes. -/
theorem reg_foldl_setReg_of_notMem
    (m : Machine)
    (value : Register → UInt8)
    {registers : List Register}
    {r : Register}
    (h : r ∉ registers) :
    (registers.foldl
        (fun n q => n.setReg q (value q)) m).reg r =
      m.reg r := by
  induction registers generalizing m with
  | nil => rfl
  | cons q rest ih =>
      rw [List.mem_cons, not_or] at h
      rcases h with ⟨hNe, hRest⟩
      rw [List.foldl_cons, ih _ hRest,
        reg_setReg_of_ne _ _ hNe]

/- Registers that are filled in turn get their own bytes. -/
theorem reg_foldl_setReg_of_mem
    (m : Machine)
    (value : Register → UInt8)
    {registers : List Register}
    {r : Register}
    (h : r ∈ registers) :
    (registers.foldl
        (fun n q => n.setReg q (value q)) m).reg r =
      value r := by
  induction registers generalizing m with
  | nil => cases h
  | cons q rest ih =>
      rw [List.foldl_cons]
      by_cases hLater : r ∈ rest
      · exact ih _ hLater
      · have hFirst : r = q :=
          (List.mem_cons.mp h).resolve_right hLater
        rw [reg_foldl_setReg_of_notMem _ _ hLater, hFirst,
          reg_setReg_self]

/- A register is filled from its place behind the index. -/
theorem reg_restore
    (m : Machine)
    (x r : Register) :
    (m.restore x).reg r =
      if r ≤ x then
        m.memory.cells.get
          (Address.ofNat (m.processor.index.toNat + r.val))
      else
        m.reg r := by
  unfold restore
  by_cases hLe : r ≤ x
  · rw [reg_foldl_setReg_of_mem _ _
      (mem_registersTo_iff.mpr hLe), if_pos hLe,
      Memory.read_add]
  · have hOther : r ∉ registersTo x := by
      intro hMem
      exact hLe (mem_registersTo_iff.mp hMem)
    rw [reg_foldl_setReg_of_notMem _ _ hOther, if_neg hLe]

/- Filling registers changes nothing else. -/
theorem sameButRegisters_restore
    (m : Machine)
    (x : Register) :
    m.SameButRegisters (m.restore x) := by
  refine List.foldlRecOn _ _ rfl ?_
  intro n h r _
  unfold SameButRegisters at h ⊢
  rw [h]
  rfl

------------------------------------------------------------
-- Saving And Reading Back
------------------------------------------------------------

/- A register has its place among those that are saved. -/
theorem getElem?_registerBytes
    (m : Machine)
    {x r : Register}
    (h : r ≤ x) :
    (m.registerBytes x)[r.val]? = some (m.reg r) := by
  have hLt : r.val < x.val + 1 :=
    Nat.lt_succ_of_le h
  have hSelf : Register.ofNat r.val = r :=
    Fin.ext (Nat.mod_eq_of_lt r.isLt)
  simp [registerBytes, hLt, hSelf]

/-
  Whether the registers up to one of them come back that a
  machine had, in a machine that comes from another one: those
  whose place is on the font sheet get its bytes, the
  registers behind are as in the other machine, and so is all
  else. The index is the one that the registers were saved at.
-/
structure ReadsBack
    (m : Machine)
    (x : Register)
    (changed restored : Machine) : Prop where
  saved :
    ∀ r ≤ x,
      80 ≤ (m.processor.index.toNat + r.val) % 4096 →
        restored.reg r = m.reg r
  glyphs :
    ∀ r ≤ x,
      ∀ h :
          (m.processor.index.toNat + r.val) % 4096 < 80,
        restored.reg r =
          Font.sheet[
            (m.processor.index.toNat + r.val) % 4096]
  behind : ∀ r, x < r → restored.reg r = changed.reg r
  index : restored.processor.index = m.processor.index
  others : changed.SameButRegisters restored

/-
  Registers that were saved are read back, if memory and the
  index were left alone in between.
-/
theorem readsBack_restore
    {m changed : Machine}
    {x : Register}
    (hFont : m.memory.HasFont)
    (hMemory :
      changed.memory = (m.store (.saveRegisters x)).memory)
    (hIndex : changed.processor.index = m.processor.index) :
    m.ReadsBack x changed (changed.restore x) := by
  have hStores := m.stores_saveRegisters x
  have hSame := changed.sameButRegisters_restore x
  have hRead :
      ∀ r ≤ x,
        (changed.restore x).reg r =
          (m.store (.saveRegisters x)).memory.cells.get
            (Address.ofNat
              (m.processor.index.toNat + r.val)) := by
    intro r hLe
    rw [reg_restore, if_pos hLe, hMemory, hIndex]
  refine ⟨?_, ?_, ?_, ?_, hSame⟩
  · intro r hLe hBehind
    rw [hRead r hLe]
    exact
      hStores.stored _ r.val _
        (m.getElem?_registerBytes hLe) rfl hBehind
  · intro r hLe hSheet
    rw [hRead r hLe, hStores.spared _ (Or.inl hSheet)]
    exact hFont _ hSheet
  · intro r hLt
    rw [reg_restore, if_neg (Fin.not_le.mpr hLt)]
  · rw [← hIndex, hSame]

/-
  Registers that are saved at the index and read back from
  there have their bytes again, whatever else was done to the
  machine in between, but for those whose place is on the font
  sheet: these get its bytes. Neither word changes the index.
-/
theorem saved_registers_are_read_back
    {m : Machine}
    (hFont : m.memory.HasFont)
    (x : Register)
    (held again : Bool) :
    m.CarriesOut held (Word.ofByte 0xF x 0x55)
      (fun saved =>
        saved.processor = m.processor ∧
          ∀ changed : Machine,
            changed.memory = saved.memory →
              changed.processor.index =
                  saved.processor.index →
                changed.CarriesOut again
                  (Word.ofByte 0xF x 0x65)
                  (fun restored =>
                    m.ReadsBack x changed restored ∧
                      ((∀ r ≤ x,
                          80 ≤
                            (m.processor.index.toNat +
                              r.val) % 4096) →
                        ∀ r ≤ x,
                          restored.reg r = m.reg r))) := by
  refine
    ⟨_, _, Instruction.decode?_ofByte_device x 0x55, rfl,
      rfl, ?_⟩
  intro changed hMemory hIndex
  have hBack : m.ReadsBack x changed (changed.restore x) :=
    readsBack_restore hFont hMemory hIndex
  refine
    ⟨_, _, Instruction.decode?_ofByte_device x 0x65, rfl,
      hBack, ?_⟩
  intro hBehind r hLe
  exact hBack.saved r hLe (hBehind r hLe)

/-
  Four registers are saved from the last two addresses on.
  The first two of them come back, the others get the first
  rows of a glyph, and a fifth register is left alone.
-/
theorem registers_saved_around_end_of_memory :
    let m :=
      (((Machine.initial 7).setIndex 0xFFFE).setReg 1 7).setReg
        2 8
    m.memory.HasFont ∧
      m.CarriesOut false (Word.ofByte 0xF 3 0x55)
        (fun saved =>
          ((saved.setReg 1 5).setReg 4 6).CarriesOut false
            (Word.ofByte 0xF 3 0x65)
            (fun restored =>
              restored.reg 0 = 0 ∧
                restored.reg 1 = 7 ∧
                restored.reg 2 = 0xF0 ∧
                restored.reg 3 = 0x90 ∧
                restored.reg 4 = 6)) := by
  intro m
  have hFont : m.memory.HasFont := Memory.hasFont_initial
  have hIndex : m.processor.index.toNat = 0xFFFE := rfl
  rcases saved_registers_are_read_back hFont 3 false false with
    ⟨save, saved, hSave, hSaved, _, hBack⟩
  rcases hBack ((saved.setReg 1 5).setReg 4 6) rfl rfl with
    ⟨restore, restored, hRestore, hRestored, hReads, _⟩
  refine
    ⟨hFont, save, saved, hSave, hSaved, restore, restored,
      hRestore, hRestored, ?_, ?_, ?_, ?_, ?_⟩
  · exact hReads.saved 0 (by decide) (by decide)
  · exact hReads.saved 1 (by decide) (by decide)
  · rw [hReads.glyphs 2 (by decide) (by decide)]
    simp only [hIndex]
    rfl
  · rw [hReads.glyphs 3 (by decide) (by decide)]
    simp only [hIndex]
    rfl
  · rw [hReads.behind 4 (by decide)]
    exact reg_setReg_self _ _ _

end Machine

end ChipEight
