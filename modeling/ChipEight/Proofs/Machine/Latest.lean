import ChipEight.Proofs.Machine.Listing
import ChipEight.Proofs.Machine.Stores
import Mathlib.Data.List.Induction

/-
  Memory keeps what was put into it latest.

  However writes, programs and the font sheet follow each
  other, a cell of the font sheet holds its byte of the sheet,
  and any other cell holds the byte that was put there latest,
  or zero. So the byte at an address is told by the history of
  memory alone, and addresses that name the same cell are one
  and the same.

  Key definitions include:
    * `ChipEight.Memory.Access`
    * `ChipEight.Memory.Access.puts?`
    * `ChipEight.Memory.access`
    * `ChipEight.Memory.latest?`
    * `ChipEight.Memory.shown`

  Main declarations:
    * `ChipEight.Memory.get_access`
    * `ChipEight.Memory.get_accessAll`
    * `ChipEight.Memory.get_accessAll_initial`
    * `ChipEight.Memory.reads_follow_history`
-/

namespace ChipEight

namespace Memory

------------------------------------------------------------
-- Accesses
------------------------------------------------------------

/- What can be done to memory. -/
inductive Access where
  /- Write a byte to an address. -/
  | write (a : UInt16) (value : UInt8)
  /- Load a program of any length. -/
  | load (program : List UInt8)
  /- Put the font sheet in its place. -/
  | loadFont
deriving DecidableEq

/-
  Memory after an access, and the fault that was met, if any.
  A program that is refused leaves memory as it was found.
-/
def access
    (m : Memory) : Access → Memory × Option Fault
  | .write a value => (m.write a value, none)
  | .load program =>
      match m.loadProgram program with
      | .error fault => (m, some fault)
      | .ok after => (after, none)
  | .loadFont => (m.loadFont, none)

/- Memory after accesses in turn. -/
def accessAll
    (m : Memory)
    (history : List Access) : Memory :=
  history.foldl (fun m x => (m.access x).1) m

/-
  The byte that an access puts into a cell behind the font
  sheet, if any: a write to an address that names the cell,
  or a program that fits and reaches the cell.
-/
def Access.puts? : Access → Nat → Option UInt8
  | .write a value, cell =>
      if a.toNat % 4096 = cell then
        some value
      else
        none
  | .load program, cell =>
      if program.length ≤ 3584 ∧ 512 ≤ cell then
        program[cell - 512]?
      else
        none
  | .loadFont, _ => none

/- The byte that was put into a cell latest, if any. -/
def latest?
    (history : List Access)
    (cell : Nat) : Option UInt8 :=
  history.reverse.findSome? (fun x => x.puts? cell)

/-
  The byte that a cell holds after a history: one of the font
  sheet, or the one that was put there latest, or zero.
-/
def shown
    (history : List Access)
    (cell : Nat) : UInt8 :=
  if h : cell < 80 then
    Font.sheet[cell]
  else
    (latest? history cell).getD 0

------------------------------------------------------------
-- One Access
------------------------------------------------------------

/- A program that is too large is refused as a whole. -/
theorem access_load_of_lt
    (m : Memory)
    {program : List UInt8}
    (h : 3584 < program.length) :
    m.access (.load program) =
      (m, some (.programTooLarge program.length 3584)) := by
  have hRefused :
      m.loadProgram program =
        .error (.programTooLarge program.length 3584) :=
    if_pos h
  rw [access, hRefused]

/- Any other program is loaded. -/
theorem access_load_of_le
    (m : Memory)
    {program : List UInt8}
    (h : program.length ≤ 3584) :
    ∃ after,
      m.loadProgram program = .ok after ∧
        m.access (.load program) = (after, none) := by
  rcases m.exists_loadProgram h with ⟨after, hLoad⟩
  refine ⟨after, hLoad, ?_⟩
  rw [access, hLoad]

/- The font sheet stays in place. -/
theorem HasFont.access
    {m : Memory}
    (h : m.HasFont)
    (x : Access) :
    (m.access x).1.HasFont := by
  cases x with
  | write a value => exact h.write a value
  | load program =>
      rcases Nat.lt_or_ge 3584 program.length with
        hLarge | hFits
      · rw [access_load_of_lt m hLarge]
        exact h
      · rcases m.access_load_of_le hFits with
          ⟨after, hLoad, hAccess⟩
        rw [hAccess]
        exact h.loadProgram hLoad
  | loadFont => exact hasFont_loadFont m

/- Loading the font sheet again spares the cells behind it. -/
theorem get_loadFont
    (m : Memory)
    {c : Address}
    (h : 80 ≤ c.val) :
    m.loadFont.cells.get c = m.cells.get c := by
  have hBase : Font.base ≤ c.val := Nat.zero_le _
  have hPast : Font.sheet.toList.length ≤ c.val - Font.base := by
    rw [Vector.length_toList]
    exact h
  have hCopy :=
    m.cells_copyTo Font.base Font.sheet.toList c.val c.isLt
  rw [if_pos hBase, List.getD_eq_default _ _ hPast] at hCopy
  exact hCopy

/-
  Behind the font sheet, a cell holds what an access puts
  there, or else what it held before.
-/
theorem get_access
    (m : Memory)
    (x : Access)
    {c : Address}
    (h : 80 ≤ c.val) :
    (m.access x).1.cells.get c =
      (x.puts? c.val).getD (m.cells.get c) := by
  cases x with
  | write a value =>
      have hCell :
          isProtected a = false ∧ cellOf a = c ↔
            a.toNat % 4096 = c.val := by
        rw [← Bool.not_eq_true, isProtected_iff, Fin.ext_iff]
        change ¬ a.toNat % 4096 < 80 ∧ _ ↔ _
        constructor
        · exact And.right
        · intro hEq
          exact ⟨by omega, hEq⟩
      change (m.write a value).cells.get c = _
      simp only [get_write, hCell, Access.puts?]
      split
      · rfl
      · rfl
  | load program =>
      rcases Nat.lt_or_ge 3584 program.length with
        hLarge | hFits
      · rw [access_load_of_lt m hLarge, Access.puts?,
          if_neg (by omega)]
        rfl
      · rcases m.access_load_of_le hFits with
          ⟨after, hLoad, hAccess⟩
        rw [hAccess, get_loadProgram hLoad, Access.puts?]
        by_cases hReached : 512 ≤ c.val
        · have hStart : programStart ≤ c.val := hReached
          rw [if_pos hStart, if_pos ⟨hFits, hReached⟩,
            List.getD_eq_getElem?_getD]
          rfl
        · have hStart : ¬ programStart ≤ c.val := hReached
          rw [if_neg hStart, if_neg (by omega)]
          rfl
  | loadFont => exact m.get_loadFont h

------------------------------------------------------------
-- Histories
------------------------------------------------------------

/- The font sheet stays in place all the time. -/
theorem HasFont.accessAll
    {m : Memory}
    (h : m.HasFont)
    (history : List Access) :
    (m.accessAll history).HasFont := by
  refine List.foldlRecOn _ _ h ?_
  intro n hFont x _
  exact hFont.access x

/- One more access comes before all others, looking back. -/
theorem latest?_concat
    (history : List Access)
    (x : Access)
    (cell : Nat) :
    latest? (history ++ [x]) cell =
      (x.puts? cell).or (latest? history cell) := by
  rw [latest?, List.reverse_concat, List.findSome?_cons]
  cases x.puts? cell with
  | none => rfl
  | some value => rfl

/-
  Behind the font sheet, a cell holds what was put there
  latest, or else what it held before all accesses.
-/
theorem get_accessAll
    (m : Memory)
    (history : List Access)
    {c : Address}
    (h : 80 ≤ c.val) :
    (m.accessAll history).cells.get c =
      (latest? history c.val).getD (m.cells.get c) := by
  induction history using List.reverseRecOn with
  | nil => rfl
  | append_singleton history x ih =>
      have hLast :
          m.accessAll (history ++ [x]) =
            ((m.accessAll history).access x).1 :=
        List.foldl_append
      rw [hLast, get_access _ x h, ih, latest?_concat]
      cases x.puts? c.val with
      | none => rfl
      | some value => rfl

/- Behind the font sheet, memory starts with zeros. -/
theorem get_initial
    {c : Address}
    (h : 80 ≤ c.val) :
    initial.cells.get c = 0 := by
  rw [initial, get_loadFont _ h]
  exact Vector.getElem_replicate _

/- The byte at an address is told by the history of memory. -/
theorem get_accessAll_initial
    (history : List Access)
    (c : Address) :
    (initial.accessAll history).cells.get c =
      shown history c.val := by
  by_cases hFont : c.val < 80
  · rw [shown, dif_pos hFont]
    exact hasFont_initial.accessAll history c.val hFont
  · have hOpen : 80 ≤ c.val := Nat.le_of_not_lt hFont
    rw [shown, dif_neg hFont, get_accessAll _ _ hOpen,
      get_initial hOpen]

------------------------------------------------------------
-- Reading
------------------------------------------------------------

/-
  After any history, an address shows the byte of its cell: of
  the font sheet below 80, else the byte that was put there
  latest, or zero. A program that does not fit changes
  nothing, and any other is loaded. A word is made of the
  bytes at an address and at the next one, and a range of the
  bytes from an address on around the end of memory, however
  long it is.
-/
theorem reads_follow_history (history : List Access) :
    let m := initial.accessAll history
    (∀ a : UInt16, m.read a = shown history (a.toNat % 4096)) ∧
      (∀ program : List UInt8,
        m.access (.load program) =
            (m, some (.programTooLarge program.length 3584)) ∧
            3584 < program.length ∨
          (m.access (.load program)).2 = none ∧
            program.length ≤ 3584) ∧
      (∀ a : UInt16,
        (m.readWord a).toNat =
          256 * (m.read a).toNat +
            (m.read
              (UInt16.ofNat ((a.toNat + 1) % 65536))).toNat) ∧
      ∀ (a : UInt16) (count : Nat),
        (m.readRange a count).length = count ∧
          ∀ k < count,
            (m.readRange a count)[k]? =
              some (shown history ((a.toNat + k) % 4096)) := by
  intro m
  refine ⟨?_, ?_, ?_, ?_⟩
  · intro a
    exact get_accessAll_initial history (cellOf a)
  · intro program
    rcases Nat.lt_or_ge 3584 program.length with
      hLarge | hFits
    · exact .inl ⟨m.access_load_of_lt hLarge, hLarge⟩
    · rcases m.access_load_of_le hFits with
        ⟨after, _, hAccess⟩
      refine .inr ⟨?_, hFits⟩
      rw [hAccess]
  · intro a
    have hNext :
        UInt16.ofNat ((a.toNat + 1) % 65536) = a + 1 := by
      apply UInt16.toNat_inj.mp
      rw [UInt16.toNat_ofNat', UInt16.toNat_add]
      exact Nat.mod_mod _ _
    have hHigh := (m.read a).toNat_lt
    have hLow := (m.read (a + 1)).toNat_lt
    rw [hNext, readWord, UInt16.toNat_ofNat']
    omega
  · intro a count
    refine ⟨?_, ?_⟩
    · rw [readRange, List.length_map, List.length_range]
    · intro k hk
      have hByte :=
        get_accessAll_initial history
          (Address.ofNat (a.toNat + k))
      rw [readRange, List.getElem?_map,
        List.getElem?_range hk, Option.map_some, read_add,
        hByte]
      rfl

/-
  A byte that is written behind the end of memory lies under
  a program that is loaded afterwards, a program of 3585 bytes
  does not touch it, and a range of 70000 bytes shows it time
  and again.
-/
theorem far_write_is_covered_by_program :
    let tooLarge : List UInt8 := List.replicate 3585 7
    let history : List Access :=
      [.write 0xF201 0xAB, .write 0x104F 1, .write 0x1300 0xCD,
        .load [0x12, 0x34], .load tooLarge, .loadFont]
    let m := initial.accessAll history
    m.read 0x3201 = 0x34 ∧
      m.read 0xF04F = 0x80 ∧
      m.read 0x8300 = 0xCD ∧
      m.access (.load tooLarge) =
        (m, some (.programTooLarge 3585 3584)) ∧
      (m.readWord 0x1200).toNat = 0x1234 ∧
      66305 < 70000 ∧
      (m.readRange 0xFFFF 70000)[66305]? = some 0xCD := by
  intro tooLarge history m
  have hLength : tooLarge.length = 3585 :=
    List.length_replicate
  rcases reads_follow_history history with
    ⟨hRead, hLoad, hWord, hRange⟩
  have hFacts :
      shown history 0x201 = 0x34 ∧
        shown history 0x4F = 0x80 ∧
        shown history 0x300 = 0xCD ∧
        shown history 0x200 = 0x12 := by
    decide +kernel
  rcases hFacts with ⟨hCovered, hGlyph, hWritten, hFirst⟩
  refine
    ⟨(hRead 0x3201).trans hCovered,
      (hRead 0xF04F).trans hGlyph,
      (hRead 0x8300).trans hWritten, ?_, ?_, by decide, ?_⟩
  · rcases hLoad tooLarge with hRefused | hLoaded
    · rw [← hLength]
      exact hRefused.1
    · omega
  · have hHigh : m.read 0x1200 = 0x12 :=
      (hRead 0x1200).trans hFirst
    have hLow : m.read 0x1201 = 0x34 :=
      (hRead 0x1201).trans hCovered
    have hSum := hWord 0x1200
    change _ = 256 * _ + (m.read 0x1201).toNat at hSum
    rw [hSum, hHigh, hLow]
    decide
  · rw [(hRange 0xFFFF 70000).2 66305 (by decide)]
    exact congrArg some hWritten

end Memory

end ChipEight
