import ChipEight.Listing
import ChipEight.Proofs.Machine.Memory
import Mathlib.Data.List.GetD

/-
  What the listing of a program shows of memory.

  The lines of a listing are at consecutive even places from
  the program start on, and the two bytes of each word are the
  bytes of memory there. So the bytes of a listing are those
  of the program that was loaded, and one byte behind it if
  their number is odd.

  Key definitions include:
    * `ChipEight.Word.bytes`
    * `ChipEight.Line.bytes`
    * `ChipEight.Memory.programByte`

  Main declarations:
    * `ChipEight.Memory.length_disassemble`
    * `ChipEight.Memory.getElem?_disassemble`
    * `ChipEight.Memory.flatMap_bytes_disassemble`
    * `ChipEight.Memory.take_bytes_of_loadProgram`
-/

namespace ChipEight

/- The two bytes of a word, the high one first. -/
def Word.bytes (w : Word) : List UInt8 :=
  [UInt8.ofNat (w.toNat / 256), UInt8.ofNat (w.toNat % 256)]

/- The bytes of the word of a line. -/
def Line.bytes (line : Line) : List UInt8 :=
  line.word.bytes

namespace Memory

------------------------------------------------------------
-- Loaded Programs
------------------------------------------------------------

/- The byte at a place that is counted from the start. -/
def programByte
    (m : Memory)
    (i : Nat) : UInt8 :=
  m.cells.get (Address.ofNat (programStart + i))

/- A program that fits is loaded. -/
theorem exists_loadProgram
    (m : Memory)
    {program : List UInt8}
    (h : program.length ≤ programLimit) :
    ∃ after, m.loadProgram program = .ok after := by
  refine ⟨m.copyTo programStart program, ?_⟩
  rw [loadProgram, if_neg (Nat.not_lt.mpr h)]

variable {m after : Memory} {program : List UInt8}

/- The cells after a program was loaded. -/
theorem get_loadProgram
    (h : m.loadProgram program = .ok after)
    (a : Address) :
    after.cells.get a =
      if programStart ≤ a.val then
        program.getD (a.val - programStart) (m.cells.get a)
      else
        m.cells.get a := by
  unfold loadProgram at h
  split at h
  · cases h
  · cases h
    exact m.cells_copyTo programStart program a.val a.isLt

/- Its bytes are there, and behind it what was there before. -/
theorem programByte_loadProgram
    (h : m.loadProgram program = .ok after)
    {i : Nat}
    (hi : programStart + i < 4096) :
    after.programByte i =
      program.getD i (m.programByte i) := by
  have hPlace :
      (Address.ofNat (programStart + i)).val =
        programStart + i :=
    Nat.mod_eq_of_lt hi
  rw [programByte, get_loadProgram h, hPlace,
    if_pos (Nat.le_add_right _ _), Nat.add_sub_cancel_left]
  rfl

/- All other cells are as they were. -/
theorem get_loadProgram_of_outside
    (h : m.loadProgram program = .ok after)
    {a : Address}
    (hOutside :
      a.val < programStart ∨
        programStart + program.length ≤ a.val) :
    after.cells.get a = m.cells.get a := by
  rw [get_loadProgram h]
  split
  · have hPast : program.length ≤ a.val - programStart := by
      omega
    rw [List.getD_eq_default _ _ hPast]
  · rfl

------------------------------------------------------------
-- Lines
------------------------------------------------------------

/- A listing has a line for every two bytes begun. -/
theorem length_disassemble
    (m : Memory)
    (size : Nat) :
    (m.disassemble size).length = (size + 1) / 2 := by
  simp [disassemble]

/- Every line is the word at its place. -/
theorem getElem?_disassemble
    (m : Memory)
    {size k : Nat}
    (h : 2 * k < size) :
    let address :=
      UInt16.ofNat ((programStart + 2 * k) % 4096)
    (m.disassemble size)[k]? =
      some
        { address := address
          word := m.readWord address } := by
  intro address
  have hLine : k < (size + 1) / 2 := by
    omega
  rw [disassemble, List.getElem?_map,
    List.getElem?_range hLine]
  rfl

/- This word is made of the two bytes there. -/
theorem toNat_readWord_programByte
    (m : Memory)
    (i : Nat) :
    (m.readWord
        (UInt16.ofNat ((programStart + i) % 4096))).toNat =
      256 * (m.programByte i).toNat +
        (m.programByte (i + 1)).toNat := by
  have hPlace :
      (UInt16.ofNat ((programStart + i) % 4096)).toNat =
        (programStart + i) % 4096 := by
    rw [UInt16.toNat_ofNat']
    omega
  have hFirst :
      Address.ofNat ((programStart + i) % 4096) =
        Address.ofNat (programStart + i) :=
    Fin.ext (Nat.mod_mod _ _)
  have hSecond :
      Address.ofNat ((programStart + i) % 4096 + 1) =
        Address.ofNat (programStart + (i + 1)) := by
    apply Fin.ext
    change _ % 4096 = _ % 4096
    omega
  rw [toNat_readWord, hPlace, hFirst, hSecond]
  rfl

------------------------------------------------------------
-- Bytes
------------------------------------------------------------

/- So these are the bytes of the line. -/
theorem bytes_readWord
    (m : Memory)
    (i : Nat) :
    let address := UInt16.ofNat ((programStart + i) % 4096)
    ({ address := address
       word := m.readWord address } : Line).bytes =
      [m.programByte i, m.programByte (i + 1)] := by
  intro address
  have hLow := (m.programByte (i + 1)).toNat_lt
  have hHigh :
      (256 * (m.programByte i).toNat +
          (m.programByte (i + 1)).toNat) / 256 =
        (m.programByte i).toNat := by
    omega
  have hRest :
      (256 * (m.programByte i).toNat +
          (m.programByte (i + 1)).toNat) % 256 =
        (m.programByte (i + 1)).toNat := by
    omega
  simp only [Line.bytes, Word.bytes, address,
    toNat_readWord_programByte, hHigh, hRest,
    UInt8.ofNat_toNat]

/- Places that are listed in pairs are listed in turn. -/
theorem flatMap_pairs
    {α : Type}
    (f : Nat → α)
    (count : Nat) :
    (List.range count).flatMap
        (fun k => [f (2 * k), f (2 * k + 1)]) =
      (List.range (2 * count)).map f := by
  induction count with
  | zero => rfl
  | succ count ih =>
      have hTwo : 2 * (count + 1) = 2 * count + 1 + 1 := by
        omega
      rw [hTwo, List.range_succ, List.flatMap_append, ih,
        List.range_succ, List.range_succ, List.map_append,
        List.map_append, List.append_assoc]
      rfl

/- The bytes of a listing are those of memory in turn. -/
theorem flatMap_bytes_disassemble
    (m : Memory)
    (size : Nat) :
    (m.disassemble size).flatMap Line.bytes =
      (List.range (2 * ((size + 1) / 2))).map
        m.programByte := by
  rw [disassemble, List.flatMap_map, ← flatMap_pairs]
  congr 1
  funext k
  exact m.bytes_readWord (2 * k)

/- As many of them as were loaded are the program. -/
theorem take_bytes_of_loadProgram
    (h : m.loadProgram program = .ok after) :
    ((after.disassemble program.length).flatMap
        Line.bytes).take program.length =
      program := by
  have hLength : program.length ≤ 3584 :=
    length_le_of_loadProgram h
  have hEnough :
      program.length ≤ 2 * ((program.length + 1) / 2) := by
    omega
  rw [flatMap_bytes_disassemble, ← List.map_take,
    List.take_range, Nat.min_eq_left hEnough]
  apply List.ext_getElem
  · simp
  · intro i _ hi
    have hPlace : programStart + i < 4096 := by
      unfold programStart
      omega
    rw [List.getElem_map, List.getElem_range,
      programByte_loadProgram h hPlace,
      List.getD_eq_getElem _ _ hi]

end Memory

end ChipEight
