import ChipEight.Console.Keypad
import ChipEight.Proofs.Checked.Memory
import ChipEight.Proofs.Machine.Listing
import ChipEight.Proofs.Session.Conduct

/-
  Loading a program and listing it.

  A program that fits is put into memory and its size is
  remembered, and nothing else of the engine changes. Its
  listing gives it back: the words of the lines are its bytes
  in turn, with one byte that was there before behind an odd
  number of them.

  Main declarations:
    * `ChipEight.Session.load_of_fits`
    * `ChipEight.Session.line_of_load`
    * `ChipEight.Session.loaded_program_is_listed`
-/

namespace ChipEight

namespace Session

variable {κ : Type}

/- A program that fits into memory is loaded. -/
theorem load_of_fits
    (s : Session κ)
    {program : List UInt8}
    (h : program.length ≤ Memory.programLimit) :
    ∃ memory,
      s.engine.machine.memory.loadProgram program =
          .ok memory ∧
        s.load program =
          ({ s with
            engine :=
              { s.engine with
                machine :=
                  { s.engine.machine with memory := memory }
                programSize := program.length }
            log :=
              s.log.push (.programLoaded program.length) },
            none) := by
  rcases s.engine.machine.memory.exists_loadProgram h with
    ⟨memory, hLoad⟩
  exact ⟨memory, hLoad, load_of_ok hLoad⟩

/-
  The lines of memory after a program was loaded: each is in
  its place, and its word is made of bytes of the program or,
  at the end, of the byte behind it.
-/
theorem line_of_load
    {m after : Memory}
    {program : List UInt8}
    (hLoad : m.loadProgram program = .ok after)
    {k : Nat}
    (hk : 2 * k < program.length) :
    ∃ line,
      (after.disassemble program.length)[k]? = some line ∧
        line.address.toNat = 0x200 + 2 * k ∧
        line.word.toNat =
          256 * program[2 * k].toNat +
            (program.getD (2 * k + 1)
              (m.programByte program.length)).toNat := by
  have hLength : program.length ≤ 3584 :=
    Memory.length_le_of_loadProgram hLoad
  have hPlaces :
      Memory.programStart + (2 * k + 1) < 4096 := by
    unfold Memory.programStart
    omega
  have hHigh :
      after.programByte (2 * k) = program[2 * k] := by
    rw [Memory.programByte_loadProgram hLoad
        (Nat.lt_of_succ_lt hPlaces),
      List.getD_eq_getElem _ _ hk]
  have hLow :
      after.programByte (2 * k + 1) =
        program.getD (2 * k + 1)
          (m.programByte program.length) := by
    rw [Memory.programByte_loadProgram hLoad hPlaces]
    by_cases hInside : 2 * k + 1 < program.length
    · rw [List.getD_eq_getElem _ _ hInside,
        List.getD_eq_getElem _ _ hInside]
    · have hEnd : 2 * k + 1 = program.length := by
        omega
      rw [hEnd]
  refine ⟨_, after.getElem?_disassemble hk, ?_, ?_⟩
  · rw [UInt16.toNat_ofNat']
    unfold Memory.programStart
    omega
  · change (after.readWord _).toNat = _
    rw [Memory.toNat_readWord_programByte, hHigh, hLow]

/-
  Any program of at most 3584 bytes is loaded without a fault.
  The engine it leaves differs from the one before by the
  bytes of the program in memory and by the program's size.
  Its listing has a line for every two bytes begun, each with
  its address inside memory and the word made of its bytes,
  and as many bytes of the listing as were loaded are the
  program. Addresses of listings are never too large for
  sixteen bits, up to the size of 65024 bytes and no further.
-/
theorem loaded_program_is_listed
    (s : Session κ)
    (program : List UInt8)
    (hFits : program.length ≤ 3584) :
    let before := s.engine.machine.memory
    let length := program.length
    let after := (s.load program).1
    let listing := after.engine.listing
    (s.load program).2 = none ∧
      (∃ memory,
        after.engine =
            { s.engine with
              machine :=
                { s.engine.machine with memory := memory }
              programSize := length } ∧
          (∀ (i : Nat) (_ : i < length),
            memory.cells.get (Address.ofNat (0x200 + i)) =
              program[i]) ∧
          ∀ a : Address,
            a.val < 0x200 ∨ 0x200 + length ≤ a.val →
              memory.cells.get a = before.cells.get a) ∧
      after.exchanges = s.exchanges ∧
      after.controls = s.controls ∧
      listing.length = (length + 1) / 2 ∧
      (∀ (k : Nat) (_ : 2 * k < length),
        ∃ line,
          listing[k]? = some line ∧
            line.address.toNat = 0x200 + 2 * k ∧
            0x200 + 2 * k < 4096 ∧
            line.word.toNat =
              256 * program[2 * k].toNat +
                (program.getD (2 * k + 1)
                  (before.cells.get
                    (Address.ofNat
                      (0x200 + length)))).toNat) ∧
      (listing.flatMap Line.bytes).take length = program ∧
      ∀ (m : Memory) (size : Nat),
        (size ≤ 65024 →
            m.disassemble? size =
              some (m.disassemble size)) ∧
          (65024 < size → m.disassemble? size = none) := by
  intro before length after listing
  rcases s.load_of_fits hFits with ⟨memory, hLoad, hAfter⟩
  have hListing : listing = memory.disassemble length := by
    simp only [listing, after, hAfter]
    rfl
  refine
    ⟨?_, ⟨memory, ?_, ?_, ?_⟩, ?_, ?_, ?_, ?_, ?_, ?_⟩
  · rw [hAfter]
  · simp only [after, hAfter]
    rfl
  · intro i hi
    have hPlace : Memory.programStart + i < 4096 := by
      unfold Memory.programStart
      omega
    rw [← List.getD_eq_getElem _ (before.programByte i) hi]
    exact Memory.programByte_loadProgram hLoad hPlace
  · intro a hOutside
    exact Memory.get_loadProgram_of_outside hLoad hOutside
  · simp only [after, hAfter]
  · simp only [after, hAfter]
  · rw [hListing, Memory.length_disassemble]
  · intro k hk
    rcases line_of_load hLoad hk with
      ⟨line, hLine, hAddress, hWord⟩
    refine ⟨line, ?_, hAddress, by omega, hWord⟩
    rw [hListing, hLine]
  · rw [hListing]
    exact Memory.take_bytes_of_loadProgram hLoad
  · intro m size
    constructor
    · intro h
      exact m.disassemble?_eq h
    · intro h
      exact m.disassemble?_eq_none h

/-
  Three bytes are loaded over an earlier program of four. The
  last line ends with a byte of the earlier one.
-/
theorem earlier_byte_ends_listing :
    let first :=
      ((Session.initial (Engine.initial ⟨100, 60⟩ 7)
        Keypad.initial).load [0x12, 0x34, 0x56, 0x78]).1
    let after := (first.load [0xA2, 0x2A, 0x60]).1
    after.engine.listing.length = 2 ∧
      (∃ line,
        after.engine.listing[1]? = some line ∧
          line.address.toNat = 0x202 ∧
          line.word.toNat = 0x6078) ∧
      (after.engine.listing.flatMap Line.bytes).take 3 =
        [0xA2, 0x2A, 0x60] := by
  intro first after
  have hBehind :
      first.engine.machine.memory.cells.get
        (Address.ofNat (0x200 + 3)) = 0x78 := by
    decide +kernel
  rcases
      loaded_program_is_listed first [0xA2, 0x2A, 0x60]
        (by decide) with
    ⟨_, _, _, _, hLength, hLines, hBytes, _⟩
  refine ⟨hLength, ?_, hBytes⟩
  rcases hLines 1 (by decide) with
    ⟨line, hLine, hAddress, _, hWord⟩
  refine ⟨line, hLine, hAddress, ?_⟩
  rw [hWord]
  change
    256 * 0x60 +
      (first.engine.machine.memory.cells.get
        (Address.ofNat (0x200 + 3))).toNat = 0x6078
  rw [hBehind]
  rfl

end Session

end ChipEight
