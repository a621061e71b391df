import ChipEight.Log.Remark
import ChipEight.Proofs.Instruction.Fields
import ChipEight.Proofs.Machine.Effects
import ChipEight.Proofs.Machine.Memory

/-
  Where instructions that write to memory leave their bytes.

  Bytes are written from the index on, around the end of
  memory. There are too few of them to meet each other, so
  each byte is found in its cell afterwards, unless the cell
  is write-protected: then the cell is left alone, and the
  byte is told to the log.

  Key definitions include:
    * `ChipEight.Spells`
    * `ChipEight.Machine.registerBytes`
    * `ChipEight.Machine.Stores`

  Main declarations:
    * `ChipEight.Memory.get_writeAll_of_mem`
    * `ChipEight.Memory.get_writeAll_of_apart`
    * `ChipEight.Spells.eq_decimalDigits`
    * `ChipEight.Machine.stores_store`
    * `ChipEight.Machine.stores_storeDecimal`
    * `ChipEight.Machine.stores_saveRegisters`
-/

namespace ChipEight

------------------------------------------------------------
-- Writes In Turn
------------------------------------------------------------

namespace Memory

/- An address is protected if its cell is below 80. -/
theorem isProtected_iff {a : UInt16} :
    isProtected a = true ↔ (cellOf a).val < 80 := by
  unfold isProtected Font.size
  exact decide_eq_true_iff

/- A write sets its own cell, if that is not protected. -/
theorem get_write
    (m : Memory)
    (a : UInt16)
    (value : UInt8)
    (c : Address) :
    (m.write a value).cells.get c =
      if isProtected a = false ∧ cellOf a = c then
        value
      else
        m.cells.get c := by
  unfold write
  by_cases hLost : isProtected a = true
  · simp [hLost]
  · have hSet :
        (m.cells.set (cellOf a) value).get c =
          if (cellOf a).val = c.val then
            value
          else
            m.cells.get c :=
      Vector.getElem_set _ _
    simp [hLost, hSet, Fin.ext_iff]

/- Writes to other cells leave a cell as it was. -/
theorem get_writeAll_of_apart
    (m : Memory)
    {writes : List (UInt16 × UInt8)}
    {c : Address}
    (h :
      ∀ w ∈ writes,
        isProtected w.1 = false → cellOf w.1 ≠ c) :
    (m.writeAll writes).cells.get c = m.cells.get c := by
  induction writes generalizing m with
  | nil => rfl
  | cons w rest ih =>
      rcases List.forall_mem_cons.mp h with ⟨hFirst, hRest⟩
      have hApart :
          ¬ (isProtected w.1 = false ∧ cellOf w.1 = c) := by
        rintro ⟨hOpen, hCell⟩
        exact hFirst hOpen hCell
      change
        ((m.write w.1 w.2).writeAll rest).cells.get c = _
      rw [ih _ hRest, get_write, if_neg hApart]

/- Of writes to different cells, each stays. -/
theorem get_writeAll_of_mem
    (m : Memory)
    {writes : List (UInt16 × UInt8)}
    (hApart :
      writes.Pairwise
        (fun v w => cellOf v.1 ≠ cellOf w.1))
    {w : UInt16 × UInt8}
    (hMem : w ∈ writes)
    (hOpen : isProtected w.1 = false) :
    (m.writeAll writes).cells.get (cellOf w.1) = w.2 := by
  induction writes generalizing m with
  | nil => cases hMem
  | cons v rest ih =>
      rcases List.pairwise_cons.mp hApart with
        ⟨hFirst, hRest⟩
      change
        ((m.write v.1 v.2).writeAll rest).cells.get
            (cellOf w.1) =
          w.2
      rcases List.mem_cons.mp hMem with rfl | hLater
      · have hOthers :
            ∀ u ∈ rest,
              isProtected u.1 = false →
                cellOf u.1 ≠ cellOf w.1 := by
          intro u hu _ hCell
          exact hFirst u hu hCell.symm
        rw [get_writeAll_of_apart _ hOthers, get_write,
          if_pos ⟨hOpen, rfl⟩]
      · exact ih _ hRest hLater

end Memory

------------------------------------------------------------
-- Bytes To Be Stored
------------------------------------------------------------

/-
  Whether three bytes are the decimal digits of another one,
  hundreds first.
-/
structure Spells
    (hundreds tens ones value : UInt8) : Prop where
  hundreds_le : hundreds.toNat ≤ 9
  tens_le : tens.toNat ≤ 9
  ones_le : ones.toNat ≤ 9
  sum :
    100 * hundreds.toNat + 10 * tens.toNat + ones.toNat =
      value.toNat

/- A byte is spelled in one way only. -/
theorem Spells.eq_decimalDigits
    {hundreds tens ones value : UInt8}
    (h : Spells hundreds tens ones value) :
    [hundreds, tens, ones] =
      Machine.decimalDigits value := by
  have hHundreds := h.hundreds_le
  have hTens := h.tens_le
  have hOnes := h.ones_le
  have hSum := h.sum
  have hFirst : hundreds = value / 100 := by
    apply UInt8.toNat_inj.mp
    rw [UInt8.toNat_div]
    change hundreds.toNat = value.toNat / 100
    omega
  have hSecond : tens = value / 10 % 10 := by
    apply UInt8.toNat_inj.mp
    rw [UInt8.toNat_mod, UInt8.toNat_div]
    change tens.toNat = value.toNat / 10 % 10
    omega
  have hThird : ones = value % 10 := by
    apply UInt8.toNat_inj.mp
    rw [UInt8.toNat_mod]
    change ones.toNat = value.toNat % 10
    omega
  rw [hFirst, hSecond, hThird]
  rfl

/- Every byte is spelled by its digits. -/
theorem spells_decimalDigits (value : UInt8) :
    Spells (value / 100) (value / 10 % 10) (value % 10)
      value := by
  have hLt := value.toNat_lt
  have hFirst :
      (value / 100).toNat = value.toNat / 100 :=
    UInt8.toNat_div _ _
  have hSecond :
      (value / 10 % 10).toNat = value.toNat / 10 % 10 := by
    rw [UInt8.toNat_mod, UInt8.toNat_div]
    rfl
  have hThird : (value % 10).toNat = value.toNat % 10 :=
    UInt8.toNat_mod _ _
  refine ⟨?_, ?_, ?_, ?_⟩
  · omega
  · omega
  · omega
  · omega

namespace Machine

/- The bytes of the registers up to one of them. -/
def registerBytes
    (m : Machine)
    (x : Register) : List UInt8 :=
  (List.range (x.val + 1)).map
    (fun k => m.reg (Register.ofNat k))

/- These are the bytes that are saved. -/
theorem map_registersTo
    (m : Machine)
    (x : Register) :
    (registersTo x).map m.reg = m.registerBytes x := by
  rw [registersTo_eq, List.map_map]
  rfl

------------------------------------------------------------
-- Bytes From The Index On
------------------------------------------------------------

/- Each byte is written to its place behind the index. -/
theorem mem_atIndex_iff
    {m : Machine}
    {bytes : List UInt8}
    {w : UInt16 × UInt8} :
    w ∈ m.atIndex bytes ↔
      ∃ k,
        bytes[k]? = some w.2 ∧
          w.1 = m.processor.index + UInt16.ofNat k := by
  unfold atIndex
  rw [List.mem_map]
  constructor
  · rintro ⟨⟨byte, k⟩, hMem, rfl⟩
    exact ⟨k, List.mk_mem_zipIdx_iff_getElem?.mp hMem, rfl⟩
  · rintro ⟨k, hAt, hPlace⟩
    refine ⟨(w.2, k), ?_, ?_⟩
    · exact List.mk_mem_zipIdx_iff_getElem?.mpr hAt
    · rw [← hPlace]

/- No more bytes than cells go to different cells. -/
theorem pairwise_atIndex
    (m : Machine)
    {bytes : List UInt8}
    (h : bytes.length ≤ 4096) :
    (m.atIndex bytes).Pairwise
      (fun v w =>
        Memory.cellOf v.1 ≠ Memory.cellOf w.1) := by
  unfold atIndex
  rw [List.pairwise_map, List.pairwise_iff_getElem]
  intro i j hI hJ hLt hCell
  rw [List.length_zipIdx] at hI hJ
  rw [List.getElem_zipIdx, List.getElem_zipIdx,
    Memory.cellOf_add, Memory.cellOf_add, Fin.ext_iff]
    at hCell
  simp only [Address.ofNat, Nat.zero_add] at hCell
  omega

/-
  Whether a machine comes from bytes having been written from
  the index on, with something told of it: each byte is in its
  cell, unless the cell is one of the first 80, all other
  cells and parts are unchanged, and the bytes that are lost
  are told in their order, with their cells.
-/
structure Stores
    (m : Machine)
    (bytes : List UInt8)
    (after : Machine)
    (told : List Record) : Prop where
  stored :
    ∀ (c : Address) k byte,
      bytes[k]? = some byte →
        c.val = (m.processor.index.toNat + k) % 4096 →
          80 ≤ c.val → after.memory.cells.get c = byte
  spared :
    ∀ c : Address,
      (c.val < 80 ∨
          ∀ k < bytes.length,
            c.val ≠
              (m.processor.index.toNat + k) % 4096) →
        after.memory.cells.get c = m.memory.cells.get c
  others : after = { m with memory := after.memory }
  told :
    told =
      bytes.zipIdx.filterMap
        (fun entry =>
          if (m.processor.index.toNat + entry.2) % 4096 < 80
          then
            some
              (.writeIgnored entry.1
                (Address.ofNat
                  (m.processor.index.toNat + entry.2)))
          else
            none)

/- The bytes that are refused are told in their order. -/
theorem refusals_atIndex
    (m : Machine)
    (bytes : List UInt8) :
    refusals (m.atIndex bytes) =
      bytes.zipIdx.filterMap
        (fun entry =>
          if (m.processor.index.toNat + entry.2) % 4096 < 80
          then
            some
              (.writeIgnored entry.1
                (Address.ofNat
                  (m.processor.index.toNat + entry.2)))
          else
            none) := by
  unfold refusals atIndex
  rw [List.filter_map, List.map_map, ← List.filterMap_eq_map,
    List.filterMap_filter]
  congr 1
  funext entry
  have hProtected :
      Memory.isProtected
            (m.processor.index + UInt16.ofNat entry.2) =
          true ↔
        (m.processor.index.toNat + entry.2) % 4096 < 80 := by
    rw [Memory.isProtected_iff, Memory.cellOf_add]
    rfl
  simp only [Function.comp_apply, hProtected,
    Memory.cellOf_add]

/- An instruction that writes bytes stores or tells each. -/
theorem stores_store
    (m : Machine)
    {instruction : Instruction}
    {bytes : List UInt8}
    (hWrites :
      m.memoryWrites instruction = m.atIndex bytes)
    (hLength : bytes.length ≤ 4096) :
    m.Stores bytes (m.store instruction)
      (refusals (m.memoryWrites instruction)) where
  stored := by
    intro c k byte hAt hPlace hOpen
    have hCell :
        Memory.cellOf
            (m.processor.index + UInt16.ofNat k) =
          c := by
      rw [Memory.cellOf_add]
      exact Fin.ext hPlace.symm
    have hFree :
        Memory.isProtected
            (m.processor.index + UInt16.ofNat k) =
          false := by
      rw [← Bool.not_eq_true, Memory.isProtected_iff, hCell]
      omega
    have hMem :
        (m.processor.index + UInt16.ofNat k, byte) ∈
          m.atIndex bytes :=
      mem_atIndex_iff.mpr ⟨k, hAt, rfl⟩
    unfold store
    rw [hWrites, ← hCell]
    exact
      m.memory.get_writeAll_of_mem
        (m.pairwise_atIndex hLength) hMem hFree
  spared := by
    intro c hSpared
    unfold store
    rw [hWrites]
    apply Memory.get_writeAll_of_apart
    intro w hMem hFree hCell
    rcases mem_atIndex_iff.mp hMem with ⟨k, hAt, hPlace⟩
    have hLt : k < bytes.length :=
      (List.getElem?_eq_some_iff.mp hAt).1
    rw [← Bool.not_eq_true, Memory.isProtected_iff, hCell]
      at hFree
    rw [hPlace, Memory.cellOf_add] at hCell
    rcases hSpared with hLow | hApart
    · exact hFree hLow
    · exact hApart k hLt (congrArg Fin.val hCell).symm
  others := rfl
  told := by
    rw [hWrites]
    exact m.refusals_atIndex bytes

/- The digits of a register are stored or told. -/
theorem stores_storeDecimal
    (m : Machine)
    {x : Register}
    {hundreds tens ones : UInt8}
    (h : Spells hundreds tens ones (m.reg x)) :
    m.Stores [hundreds, tens, ones]
      (m.store (.storeDecimal x))
      (m.remarks (.storeDecimal x)) := by
  apply m.stores_store
  · rw [h.eq_decimalDigits]
    rfl
  · simp

/- So are the bytes of the registers that are saved. -/
theorem stores_saveRegisters
    (m : Machine)
    (x : Register) :
    m.Stores (m.registerBytes x)
      (m.store (.saveRegisters x))
      (m.remarks (.saveRegisters x)) := by
  have hLt := x.isLt
  apply m.stores_store
  · rw [← map_registersTo]
    rfl
  · simp only [registerBytes, List.length_map,
      List.length_range]
    omega

end Machine

end ChipEight
