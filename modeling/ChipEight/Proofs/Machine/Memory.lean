import ChipEight.Memory
import ChipEight.Processor

/-
  What the writers of memory leave in its cells.

  Wrapped addresses lie inside memory. The font sheet is in
  place from the start and stays there: writes skip its cells
  and programs are loaded behind them.

  Key definitions include:
    * `ChipEight.Memory.HasFont`

  Main declarations:
    * `ChipEight.Processor.toNat_wrap`
    * `ChipEight.Processor.advance_two`
    * `ChipEight.Memory.cellOf_add`
    * `ChipEight.Memory.toNat_readWord`
    * `ChipEight.Memory.cells_copyTo`
    * `ChipEight.Memory.HasFont.writeAll`
    * `ChipEight.Memory.HasFont.loadProgram`
-/

namespace ChipEight

------------------------------------------------------------
-- Wrapped Addresses
------------------------------------------------------------

namespace Processor

/- Wrapping takes an address modulo the size of memory. -/
theorem toNat_wrap (a : UInt16) :
    (wrap a).toNat = a.toNat % 4096 := by
  have hMask : (0x0FFF : UInt16).toNat = 2 ^ 12 - 1 := rfl
  rw [wrap, UInt16.toNat_and, hMask,
    Nat.and_two_pow_sub_one_eq_mod]

/- A wrapped address lies inside memory. -/
theorem toNat_wrap_lt (a : UInt16) :
    (wrap a).toNat < 4096 := by
  rw [toNat_wrap]
  exact Nat.mod_lt _ (by decide)

/- An address inside memory is wrapped already. -/
theorem wrap_of_lt
    {a : UInt16}
    (h : a.toNat < 4096) :
    wrap a = a := by
  apply UInt16.toNat_inj.mp
  rw [toNat_wrap, Nat.mod_eq_of_lt h]

/- A number below the size of memory is such an address. -/
theorem wrap_ofNat_of_lt
    {n : Nat}
    (h : n < 4096) :
    wrap (UInt16.ofNat n) = UInt16.ofNat n := by
  apply wrap_of_lt
  rw [UInt16.toNat_ofNat']
  omega

/- The counter moves on by two and wraps around. -/
theorem advance_two (p : Processor) :
    p.advance 2 =
      { p with
        pc := UInt16.ofNat ((p.pc.toNat + 2) % 4096) } := by
  have hCounter :
      wrap (p.pc + 2) =
        UInt16.ofNat ((p.pc.toNat + 2) % 4096) := by
    apply UInt16.toNat_inj.mp
    have hTwo : (2 : UInt16).toNat = 2 := rfl
    rw [toNat_wrap, UInt16.toNat_add, hTwo,
      UInt16.toNat_ofNat']
    omega
  rw [advance, jump, hCounter]

end Processor

namespace Memory

/- The cell of an address is the one it wraps to. -/
theorem val_cellOf (a : UInt16) :
    (cellOf a).val = (Processor.wrap a).toNat := by
  rw [Processor.toNat_wrap]
  rfl

/- A cell is counted on from another one around the end. -/
theorem cellOf_add (a : UInt16) (k : Nat) :
    cellOf (a + UInt16.ofNat k) =
      Address.ofNat (a.toNat + k) := by
  apply Fin.ext
  change
    (a + UInt16.ofNat k).toNat % 4096 =
      (a.toNat + k) % 4096
  rw [UInt16.toNat_add, UInt16.toNat_ofNat']
  omega

/- So is the byte in it. -/
theorem read_add
    (m : Memory)
    (a : UInt16)
    (k : Nat) :
    m.read (a + UInt16.ofNat k) =
      m.cells.get (Address.ofNat (a.toNat + k)) :=
  congrArg m.cells.get (cellOf_add a k)

/- A word is two bytes in turn, the high one first. -/
theorem toNat_readWord
    (m : Memory)
    (a : UInt16) :
    (m.readWord a).toNat =
      256 * (m.cells.get (Address.ofNat a.toNat)).toNat +
        (m.cells.get
          (Address.ofNat (a.toNat + 1))).toNat := by
  have hHigh :
      m.read a = m.cells.get (Address.ofNat a.toNat) :=
    rfl
  have hLow :
      m.read (a + 1) =
        m.cells.get (Address.ofNat (a.toNat + 1)) :=
    m.read_add a 1
  have hHighLt :=
    (m.cells.get (Address.ofNat a.toNat)).toNat_lt
  have hLowLt :=
    (m.cells.get (Address.ofNat (a.toNat + 1))).toNat_lt
  rw [readWord, hHigh, hLow, UInt16.toNat_ofNat']
  omega

------------------------------------------------------------
-- Copies
------------------------------------------------------------

/-
  A copy replaces the cells from its start on, as far as its
  bytes reach.
-/
theorem cells_copyTo
    (m : Memory)
    (start : Nat)
    (bytes : List UInt8)
    (i : Nat)
    (hi : i < 4096) :
    (m.copyTo start bytes).cells[i] =
      if start ≤ i then
        bytes.getD (i - start) m.cells[i]
      else
        m.cells[i] := by
  induction bytes generalizing m start with
  | nil =>
      simp [copyTo]
  | cons byte rest ih =>
      rw [copyTo, ih, Vector.getElem_setIfInBounds]
      by_cases hEq : start = i
      · subst hEq
        have hPast : ¬ start + 1 ≤ start := by
          omega
        rw [if_neg hPast, if_pos rfl, if_pos (Nat.le_refl _),
          Nat.sub_self, List.getD_cons_zero]
      · rw [if_neg hEq]
        by_cases hLe : start ≤ i
        · have hLater : start + 1 ≤ i := by
            omega
          have hOffset : i - start = i - (start + 1) + 1 := by
            omega
          rw [if_pos hLater, if_pos hLe, hOffset,
            List.getD_cons_succ]
        · have hNot : ¬ start + 1 ≤ i := by
            omega
          rw [if_neg hNot, if_neg hLe]

------------------------------------------------------------
-- The Font Sheet
------------------------------------------------------------

/- Whether the font sheet lies at the bottom of memory. -/
def HasFont (m : Memory) : Prop :=
  ∀ (k : Nat) (_ : k < 80), m.cells[k] = Font.sheet[k]

/- The font sheet is where it was loaded. -/
theorem hasFont_loadFont (m : Memory) :
    m.loadFont.HasFont := by
  intro k hk
  have hBase : Font.base ≤ k := Nat.zero_le k
  have hLength : k < Font.sheet.toList.length := by
    rw [Vector.length_toList]
    exact hk
  rw [loadFont, cells_copyTo, if_pos hBase, Font.base,
    Nat.sub_zero, List.getD_eq_getElem?_getD,
    List.getElem?_eq_getElem hLength, Option.getD_some,
    Vector.getElem_toList]

/- A machine starts with the font sheet. -/
theorem hasFont_initial : initial.HasFont :=
  hasFont_loadFont _

namespace HasFont

variable {m : Memory}

/- A write spares the font sheet. -/
theorem write
    (h : m.HasFont)
    (a : UInt16)
    (value : UInt8) :
    (m.write a value).HasFont := by
  unfold Memory.write
  split
  · exact h
  · rename_i hOpen
    intro k hk
    have hApart : (cellOf a).val ≠ k := by
      intro hEq
      apply hOpen
      simpa [isProtected, Font.size, hEq] using hk
    rw [Vector.getElem_set_ne _ _ hApart]
    exact h k hk

/- So do writes in turn. -/
theorem writeAll
    (h : m.HasFont)
    (writes : List (UInt16 × UInt8)) :
    (m.writeAll writes).HasFont := by
  refine List.foldlRecOn _ _ h ?_
  intro n hFont w _
  exact hFont.write w.1 w.2

/- A program is loaded behind the font sheet. -/
theorem loadProgram
    {after : Memory}
    {program : List UInt8}
    (h : m.HasFont)
    (hLoad : m.loadProgram program = .ok after) :
    after.HasFont := by
  unfold Memory.loadProgram at hLoad
  split at hLoad
  · cases hLoad
  · cases hLoad
    intro k hk
    have hBefore : ¬ programStart ≤ k := by
      unfold programStart
      omega
    rw [cells_copyTo, if_neg hBefore]
    exact h k hk

end HasFont

/- A program that is loaded fits behind the program start. -/
theorem length_le_of_loadProgram
    {m after : Memory}
    {program : List UInt8}
    (h : m.loadProgram program = .ok after) :
    program.length ≤ programLimit := by
  unfold loadProgram at h
  split at h
  · cases h
  · omega

end Memory

end ChipEight
