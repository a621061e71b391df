import ChipEight.Listing
import ChipEight.Proofs.Machine.Memory

/-
  Memory worked at with checks.

  A checked operation does what the plain one does, place by
  place and sum by sum, and has no result if a place lies
  outside its array or a number outside its range. Numbers
  are checked against the type they are kept in; sizes, whose
  type is as wide as the host likes, against sixteen bits.

  Memory passes all checks, for its addresses are wrapped.

  Key definitions include:
    * `ChipEight.Checked.sum`
    * `ChipEight.Checked.difference`
    * `ChipEight.Checked.product`
    * `ChipEight.Memory.read?`
    * `ChipEight.Memory.write?`
    * `ChipEight.Memory.loadProgram?`
    * `ChipEight.Memory.disassemble?`
    * `ChipEight.Memory.listingLimit`

  Main declarations:
    * `ChipEight.Memory.readWord?_eq`
    * `ChipEight.Memory.readRange?_eq`
    * `ChipEight.Memory.writeAll?_eq`
    * `ChipEight.Memory.loadProgram?_eq`
    * `ChipEight.Memory.disassemble?_eq`
-/

namespace ChipEight

------------------------------------------------------------
-- Arithmetic
------------------------------------------------------------

namespace Checked

/- The numbers of a byte. -/
def byteLimit : Nat :=
  256

/- The numbers of a word. -/
def wordLimit : Nat :=
  65536

/- A sum, if it stays below a limit. -/
def sum (limit a b : Nat) : Option Nat :=
  if a + b < limit then
    some (a + b)
  else
    none

/- A difference, if it is no less than zero. -/
def difference (a b : Nat) : Option Nat :=
  if b ≤ a then
    some (a - b)
  else
    none

/- A product, if it stays below a limit. -/
def product (limit a b : Nat) : Option Nat :=
  if a * b < limit then
    some (a * b)
  else
    none

variable {α : Type}

/- Sums below the limit are worked on with. -/
theorem sum_bind
    {limit a b : Nat}
    (h : a + b < limit)
    (f : Nat → Option α) :
    (sum limit a b >>= f) = f (a + b) := by
  rw [sum, if_pos h]
  rfl

/- A byte does not keep the sum of 200 and 56. -/
example : sum byteLimit 200 56 = none := by decide

/- So are differences that are no less than zero. -/
theorem difference_bind
    {a b : Nat}
    (h : b ≤ a)
    (f : Nat → Option α) :
    (difference a b >>= f) = f (a - b) := by
  rw [difference, if_pos h]
  rfl

/- So are products below the limit. -/
theorem product_bind
    {limit a b : Nat}
    (h : a * b < limit)
    (f : Nat → Option α) :
    (product limit a b >>= f) = f (a * b) := by
  rw [product, if_pos h]
  rfl

/- A list is mapped if each of its members can be. -/
theorem mapM_eq_pure_map
    {β : Type}
    {μ : Type → Type}
    [Monad μ] [LawfulMonad μ]
    {f : α → μ β}
    {g : α → β}
    {l : List α}
    (h : ∀ a ∈ l, f a = pure (g a)) :
    l.mapM f = pure (l.map g) := by
  induction l with
  | nil =>
      rfl
  | cons a rest ih =>
      rcases List.forall_mem_cons.mp h with ⟨hFirst, hRest⟩
      rw [List.mapM_cons, hFirst, ih hRest, pure_bind,
        pure_bind]
      rfl

/- A list is not mapped if one of its members cannot be. -/
theorem mapM_eq_none
    {β : Type}
    {f : α → Option β}
    {l : List α}
    {a : α}
    (hMem : a ∈ l)
    (h : f a = none) :
    l.mapM f = none := by
  induction l with
  | nil =>
      cases hMem
  | cons b rest ih =>
      rw [List.mapM_cons]
      rcases List.mem_cons.mp hMem with rfl | hRest
      · rw [h]
        rfl
      · rw [ih hRest]
        cases f b with
        | none => rfl
        | some c => rfl

/-
  A fold passes all checks if each of its steps does, given
  what the steps before it keep true.
-/
theorem foldlM_eq_pure_foldl
    {σ : Type}
    {μ : Type → Type}
    [Monad μ] [LawfulMonad μ]
    {f : σ → α → μ σ}
    {g : σ → α → σ}
    (holds : σ → Prop)
    {l : List α}
    (hStep :
      ∀ s, ∀ a ∈ l, holds s → f s a = pure (g s a))
    (hKept : ∀ s a, holds s → holds (g s a))
    {s : σ}
    (h : holds s) :
    l.foldlM f s = pure (l.foldl g s) := by
  induction l generalizing s with
  | nil =>
      rfl
  | cons a rest ih =>
      rw [List.foldlM_cons,
        hStep s a List.mem_cons_self h, pure_bind]
      apply ih _ (hKept s a h)
      intro t b hb
      exact hStep t b (List.mem_cons_of_mem a hb)

end Checked

namespace Memory

------------------------------------------------------------
-- Reading
------------------------------------------------------------

/- The byte in the cell that an address wraps to. -/
def read?
    (m : Memory)
    (a : UInt16) : Option UInt8 :=
  m.cells[(Processor.wrap a).toNat]?

/- The two bytes from an address on, the high one first. -/
def readWord?
    (m : Memory)
    (a : UInt16) : Option UInt16 := do
  let high ← m.read? a
  let low ← m.read? (a + 1)
  some (UInt16.ofNat (high.toNat * 256 + low.toNat))

/- The bytes from an address on, one after another. -/
def readRange?
    (m : Memory)
    (a : UInt16)
    (count : Nat) : Option (List UInt8) :=
  (List.range count).mapM
    (fun k => m.read? (a + UInt16.ofNat k))

/- Every address can be read. -/
theorem read?_eq
    (m : Memory)
    (a : UInt16) :
    m.read? a = some (m.read a) := by
  have hCell := val_cellOf a
  have hLt := Processor.toNat_wrap_lt a
  rw [read?, Vector.getElem?_eq_getElem hLt, read]
  simp only [Fin.getElem_fin, hCell]

/- So can the word at every address. -/
theorem readWord?_eq
    (m : Memory)
    (a : UInt16) :
    m.readWord? a = some (m.readWord a) := by
  rw [readWord?, read?_eq, read?_eq]
  rfl

/- So can the bytes from every address on. -/
theorem readRange?_eq
    (m : Memory)
    (a : UInt16)
    (count : Nat) :
    m.readRange? a count = some (m.readRange a count) := by
  apply Checked.mapM_eq_pure_map
  intro k _
  exact m.read?_eq _

------------------------------------------------------------
-- Writing
------------------------------------------------------------

/-
  Set the cell that an address wraps to, unless it belongs to
  the font sheet.
-/
def write?
    (m : Memory)
    (a : UInt16)
    (value : UInt8) : Option Memory :=
  let cell := (Processor.wrap a).toNat
  if cell < Font.size then
    some m
  else if h : cell < 4096 then
    some { cells := m.cells.set cell value h }
  else
    none

/- Make writes one after another. -/
def writeAll?
    (m : Memory)
    (writes : List (UInt16 × UInt8)) : Option Memory :=
  writes.foldlM (fun m w => m.write? w.1 w.2) m

/-
  Copy a program into a slice of memory, which must have the
  program's length and end inside memory.
-/
def loadProgram?
    (m : Memory)
    (program : List UInt8) :
    Option (Except Fault Memory) :=
  if programLimit < program.length then
    some
      (.error
        (.programTooLarge program.length programLimit))
  else do
    let stop ←
      Checked.sum Checked.wordLimit programStart
        program.length
    if stop ≤ size then
      some (.ok (m.copyTo programStart program))
    else
      none

/- Every address can be written to. -/
theorem write?_eq
    (m : Memory)
    (a : UInt16)
    (value : UInt8) :
    m.write? a value = some (m.write a value) := by
  have hCell := val_cellOf a
  have hLt := Processor.toNat_wrap_lt a
  unfold write? write isProtected
  simp only [hCell, decide_eq_true_eq]
  rw [dif_pos hLt]
  split
  · rfl
  · rfl

/- So can several in turn. -/
theorem writeAll?_eq
    (m : Memory)
    (writes : List (UInt16 × UInt8)) :
    m.writeAll? writes = some (m.writeAll writes) := by
  refine Checked.foldlM_eq_pure_foldl
    (fun _ => True) ?_ ?_ trivial
  · intro m w _ _
    exact m.write?_eq w.1 w.2
  · intro m w _
    trivial

/- A program that is not refused ends inside memory. -/
theorem loadProgram?_eq
    (m : Memory)
    (program : List UInt8) :
    m.loadProgram? program =
      some (m.loadProgram program) := by
  unfold loadProgram? loadProgram
  split
  · rfl
  · rename_i hFits
    have hStop :
        programStart + program.length ≤ size := by
      unfold programLimit at hFits
      unfold programStart size at *
      omega
    have hLimit :
        programStart + program.length <
          Checked.wordLimit := by
      unfold size at hStop
      unfold Checked.wordLimit
      omega
    rw [Checked.sum_bind hLimit, if_pos hStop]

------------------------------------------------------------
-- Listing
------------------------------------------------------------

/-
  The words of a program of a size, each at an address that
  is counted from the program start.
-/
def disassemble?
    (m : Memory)
    (size : Nat) : Option (List Line) :=
  (List.range ((size + 1) / 2)).mapM
    (fun k => do
      let offset ←
        Checked.product Checked.wordLimit 2 k
      let place ←
        Checked.sum Checked.wordLimit programStart offset
      let address :=
        Processor.wrap (UInt16.ofNat place)
      let word ← m.readWord? address
      some { address := address, word := word })

/-
  The size up to which every address of a listing can be
  counted in sixteen bits.
-/
def listingLimit : Nat :=
  Checked.wordLimit - programStart

/- A program up to this size can be listed. -/
theorem disassemble?_eq
    (m : Memory)
    {length : Nat}
    (h : length ≤ listingLimit) :
    m.disassemble? length = some (m.disassemble length) := by
  apply Checked.mapM_eq_pure_map
  intro k hk
  have hCount := List.mem_range.mp hk
  have hLength : length ≤ 65024 := h
  have hOffset : 2 * k < Checked.wordLimit := by
    unfold Checked.wordLimit
    omega
  have hPlace :
      programStart + 2 * k < Checked.wordLimit := by
    unfold programStart Checked.wordLimit
    omega
  have hAddress :
      Processor.wrap (UInt16.ofNat (programStart + 2 * k)) =
        UInt16.ofNat ((programStart + 2 * k) % 4096) := by
    apply UInt16.toNat_inj.mp
    rw [Processor.toNat_wrap, UInt16.toNat_ofNat',
      UInt16.toNat_ofNat']
    unfold Checked.wordLimit at hPlace
    omega
  rw [Checked.product_bind hOffset,
    Checked.sum_bind hPlace, hAddress]
  simp only [readWord?_eq]
  rfl

/-
  A program of any greater size cannot: the address of its
  last word is too large.
-/
theorem disassemble?_eq_none
    (m : Memory)
    {length : Nat}
    (h : listingLimit < length) :
    m.disassemble? length = none := by
  have hLength : 65024 < length := h
  have hLast : 32512 ∈ List.range ((length + 1) / 2) := by
    apply List.mem_range.mpr
    omega
  exact Checked.mapM_eq_none hLast rfl

end Memory

end ChipEight
