import ChipEight.Proofs.Instruction.Assembly
import ChipEight.Proofs.Session.Loading

/-
  A program is read back from its listing.

  The column of assembly texts is enough: each text stands for
  the word of its line, and the words in turn are the bytes of
  the program. So two programs of a size with the same column
  are the same program, whatever was in memory before either
  was loaded.

  Key definitions include:
    * `ChipEight.Line.column`
    * `ChipEight.Assembly.assemble`

  Main declarations:
    * `ChipEight.Line.column_eq`
    * `ChipEight.Line.word?_statement`
    * `ChipEight.Memory.assemble_column`
    * `ChipEight.Session.programs_eq_of_columns_eq`
-/

namespace ChipEight

------------------------------------------------------------
-- Lines
------------------------------------------------------------

namespace Line

/- The text of a line behind its address and its word. -/
def column (line : Line) : String :=
  String.ofList (line.text.toList.drop 11)

/- In memory the address has three digits. -/
theorem column_eq
    {line : Line}
    (h : line.address.toNat < 4096) :
    line.column = line.statement := by
  have hAddress :
      (Hex.padded 3 line.address.toNat).length = 3 :=
    Hex.length_padded (by decide) h
  have hWord :
      (Hex.padded 4 line.word.toNat).length = 4 :=
    Hex.length_padded (by decide) line.word.toNat_lt
  have hText :
      line.text.toList =
        (Hex.padded 3 line.address.toNat ++ [':', ' '] ++
            Hex.padded 4 line.word.toNat ++ [' ', ' ']) ++
          line.statement.toList := by
    simp [text]
  have hFront :
      (Hex.padded 3 line.address.toNat ++ [':', ' '] ++
          Hex.padded 4 line.word.toNat ++
          [' ', ' ']).length = 11 := by
    simp [hAddress, hWord]
  rw [column, hText, List.drop_left' hFront,
    String.ofList_toList]

/- The text of a word that is an instruction. -/
theorem statement_of_decode?
    {line : Line}
    {i : Instruction}
    (h : Instruction.decode? line.word = some i) :
    line.statement = i.mnemonic := by
  rw [statement, instruction?, h]

/- The text of a word that is none. -/
theorem statement_of_decode?_eq_none
    {line : Line}
    (h : Instruction.decode? line.word = none) :
    line.statement = "DW " ++ hexMarked 4 line.word.toNat := by
  rw [statement, instruction?, h]

/- The text of a word stands for the word. -/
theorem word?_statement (line : Line) :
    Assembly.word? line.statement = some line.word := by
  rcases hCode : Instruction.decode? line.word with _ | i
  · rw [statement_of_decode?_eq_none hCode,
      Assembly.word?_data]
  · rw [statement_of_decode? hCode, Assembly.word?_mnemonic,
      Instruction.encode_of_decode? hCode]

/- So the texts of lines stand for their words. -/
theorem filterMap_word?_statement (lines : List Line) :
    (lines.map statement).filterMap Assembly.word? =
      lines.map word := by
  induction lines with
  | nil => rfl
  | cons line lines ih =>
      rw [List.map_cons,
        List.filterMap_cons_some line.word?_statement, ih]
      rfl

end Line

------------------------------------------------------------
-- Assembling
------------------------------------------------------------

/- The bytes of the words that statements stand for. -/
def Assembly.assemble (column : List String) : List UInt8 :=
  (column.filterMap word?).flatMap Word.bytes

namespace Memory

/- Every address of a listing is one of memory. -/
theorem address_lt_of_mem_disassemble
    {m : Memory}
    {size : Nat}
    {line : Line}
    (h : line ∈ m.disassemble size) :
    line.address.toNat < 4096 := by
  rcases List.mem_map.mp h with ⟨k, _, rfl⟩
  have hPlace : (programStart + 2 * k) % 4096 < 4096 :=
    Nat.mod_lt _ (by decide)
  change (UInt16.ofNat _).toNat < 4096
  rw [UInt16.toNat_ofNat']
  omega

/- The column of a listing has the texts of its words. -/
theorem map_column_disassemble
    (m : Memory)
    (size : Nat) :
    (m.disassemble size).map Line.column =
      (m.disassemble size).map Line.statement := by
  apply List.map_congr_left
  intro line hMem
  exact Line.column_eq (address_lt_of_mem_disassemble hMem)

/- Its column is assembled to the bytes of a listing. -/
theorem assemble_column
    (m : Memory)
    (size : Nat) :
    Assembly.assemble ((m.disassemble size).map Line.column) =
      (m.disassemble size).flatMap Line.bytes := by
  rw [map_column_disassemble, Assembly.assemble,
    Line.filterMap_word?_statement, List.flatMap_map]
  rfl

end Memory

------------------------------------------------------------
-- Listed Programs
------------------------------------------------------------

namespace Session

variable {κ ι : Type}

/- A loaded program is assembled from its listing's column. -/
theorem take_assemble_of_load
    (s : Session κ)
    {program : List UInt8}
    (h : program.length ≤ Memory.programLimit) :
    (Assembly.assemble
        ((s.load program).1.engine.listing.map
          Line.column)).take program.length =
      program := by
  rcases s.load_of_fits h with ⟨memory, hLoad, hAfter⟩
  have hListing :
      (s.load program).1.engine.listing =
        memory.disassemble program.length := by
    rw [hAfter]
    rfl
  rw [hListing, Memory.assemble_column,
    Memory.take_bytes_of_loadProgram hLoad]

/-
  Programs of one size are told apart by the column of their
  listings alone, wherever they are loaded. Every text of the
  column is that of an instruction or of plain data. It is
  enough since an instruction keeps all of its word, no two
  instructions share a text, and none has that of data.
-/
theorem programs_eq_of_columns_eq
    (s : Session κ)
    (t : Session ι)
    (first second : List UInt8)
    (hFits : first.length ≤ 3584)
    (hSize : second.length = first.length) :
    let one := (s.load first).1.engine.listing
    let other := (t.load second).1.engine.listing
    (s.load first).2 = none ∧
      (t.load second).2 = none ∧
      (∀ line ∈ one,
        line.column =
          match Instruction.decode? line.word with
          | some i => i.mnemonic
          | none => "DW " ++ hexMarked 4 line.word.toNat) ∧
      (one.map Line.column = other.map Line.column →
        first = second) ∧
      (∀ (w : Word) (i : Instruction),
        Instruction.decode? w = some i → i.encode = w) ∧
      (∀ i j : Instruction,
        i.mnemonic = j.mnemonic → i = j) ∧
      ∀ (i : Instruction) (w : Word),
        i.mnemonic ≠ "DW " ++ hexMarked 4 w.toNat := by
  intro one other
  have hOther : second.length ≤ Memory.programLimit :=
    Nat.le_trans (Nat.le_of_eq hSize) hFits
  refine ⟨?_, ?_, ?_, ?_, ?_, ?_, ?_⟩
  · rcases s.load_of_fits hFits with ⟨memory, _, hAfter⟩
    rw [hAfter]
  · rcases t.load_of_fits hOther with ⟨memory, _, hAfter⟩
    rw [hAfter]
  · intro line hMem
    rw [Line.column_eq
      (Memory.address_lt_of_mem_disassemble hMem)]
    rfl
  · intro hColumns
    calc first
        = (Assembly.assemble (one.map Line.column)).take
            first.length :=
          (s.take_assemble_of_load hFits).symm
      _ = (Assembly.assemble (other.map Line.column)).take
            second.length := by
          rw [hColumns, hSize]
      _ = second := t.take_assemble_of_load hOther
  · intro w i hCode
    exact Instruction.encode_of_decode? hCode
  · intro i j hText
    exact Instruction.mnemonic_injective hText
  · intro i w
    exact i.mnemonic_ne_data w

/-
  A drawing of five rows and one of six differ by a decimal
  digit, whatever was loaded before.
-/
theorem drawings_have_different_columns :
    let fresh :=
      Session.initial (Engine.initial ⟨100, 60⟩ 7)
        Keypad.initial
    let used := (fresh.load [0x00, 0xE0, 0x50, 0x01]).1
    let one :=
      (fresh.load [0xD0, 0x15, 0x50, 0x01]).1.engine.listing
    let other :=
      (used.load [0xD0, 0x16, 0x50, 0x01]).1.engine.listing
    one.map Line.column = ["DRW V0, V1, 5", "DW 0x5001"] ∧
      one.map Line.column ≠ other.map Line.column := by
  intro fresh used one other
  rcases
      programs_eq_of_columns_eq fresh used
        [0xD0, 0x15, 0x50, 0x01] [0xD0, 0x16, 0x50, 0x01]
        (by decide) rfl with
    ⟨_, _, _, hSame, _⟩
  refine ⟨by decide +kernel, ?_⟩
  intro hColumns
  exact absurd (hSame hColumns) (by decide)

end Session

end ChipEight
