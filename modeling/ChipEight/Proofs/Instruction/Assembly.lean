import ChipEight.Instruction.Mnemonic
import ChipEight.Instruction.RoundTrip
import ChipEight.Proofs.Text.Hex

/-
  Assembly text can be read back.

  A statement is cut at its spaces and commas. Each part tells
  by its looks whether it is a register, a byte, an address, a
  whole word or a name. The first part names what is done, and
  where instructions share a name, the kinds of their operands
  tell them apart. So no two instructions share a text, and
  none has the text of a word that is plain data.

  Key definitions include:
    * `ChipEight.Assembly.words`
    * `ChipEight.Assembly.Part`
    * `ChipEight.Assembly.parts`
    * `ChipEight.Assembly.instruction?`
    * `ChipEight.Assembly.word?`

  Main declarations:
    * `ChipEight.Assembly.instruction?_mnemonic`
    * `ChipEight.Assembly.word?_mnemonic`
    * `ChipEight.Assembly.word?_data`
    * `ChipEight.Instruction.mnemonic_injective`
    * `ChipEight.Instruction.mnemonic_ne_data`
-/

namespace ChipEight

namespace Assembly

------------------------------------------------------------
-- Words Of A Text
------------------------------------------------------------

/- Whether a character stands between words. -/
def isSeparator (c : Char) : Bool :=
  c == ' ' || c == ','

/- What stands between the separators of a text. -/
def words (text : List Char) : List (List Char) :=
  (text.splitOnP isSeparator).filter
    (fun word => !word.isEmpty)

/- Whether characters make up one word. -/
def IsWord (text : List Char) : Prop :=
  text ≠ [] ∧ ∀ c ∈ text, isSeparator c = false

/- A text is looked through to see whether it is a word. -/
theorem isWord_iff {text : List Char} :
    text.isEmpty = false ∧
        text.all (fun c => !isSeparator c) = true ↔
      IsWord text := by
  simp [IsWord]

instance (text : List Char) : Decidable (IsWord text) :=
  decidable_of_decidable_of_iff isWord_iff

/- A word is a text of one word. -/
theorem words_of_isWord
    {word : List Char}
    (h : IsWord word) :
    words word = [word] := by
  rw [words, List.splitOnP_eq_singleton h.2]
  simp [h.1]

/- A separator ends a word. -/
theorem words_append
    {word : List Char}
    {c : Char}
    (h : IsWord word)
    (hEnd : isSeparator c = true)
    (rest : List Char) :
    words (word ++ c :: rest) = word :: words rest := by
  rw [words,
    List.splitOnP_append_cons_of_forall_mem h.2 c hEnd]
  simp [words, h.1]

/- A separator in front of a text does not matter. -/
theorem words_cons
    {c : Char}
    (hEnd : isSeparator c = true)
    (rest : List Char) :
    words (c :: rest) = words rest := by
  have hNone :
      ∀ d ∈ ([] : List Char), isSeparator d = false := by
    intro d hMem
    cases hMem
  have hSplit :=
    List.splitOnP_append_cons_of_forall_mem hNone c hEnd rest
  rw [List.nil_append] at hSplit
  rw [words, hSplit]
  rfl

/- The characters of the name of a register. -/
theorem toList_name (x : Register) :
    (Register.name x).toList = 'V' :: Hex.padded 1 x.val := by
  rw [Register.name, String.toList_append, toList_hex]
  rfl

/- No digit is a separator. -/
theorem isSeparator_of_mem_padded
    {width n : Nat}
    {c : Char}
    (h : c ∈ Hex.padded width n) :
    isSeparator c = false := by
  have hDigits :
      ∀ d < 16, isSeparator (Hex.digit d) = false := by
    decide
  rcases Hex.isDigit_of_mem_padded h with ⟨d, hLt, rfl⟩
  exact hDigits d hLt

/- The name of a register is a word. -/
theorem isWord_name (x : Register) :
    IsWord (Register.name x).toList := by
  rw [toList_name]
  refine ⟨List.cons_ne_nil _ _, ?_⟩
  intro c hMem
  rcases List.mem_cons.mp hMem with rfl | hDigit
  · rfl
  · exact isSeparator_of_mem_padded hDigit

/- So is a number behind its mark. -/
theorem isWord_hexMarked (width n : Nat) :
    IsWord (hexMarked width n).toList := by
  rw [toList_hexMarked]
  refine ⟨List.cons_ne_nil _ _, ?_⟩
  intro c hMem
  rcases List.mem_cons.mp hMem with rfl | hRest
  · rfl
  · rcases List.mem_cons.mp hRest with rfl | hDigit
    · rfl
    · exact isSeparator_of_mem_padded hDigit

/- So is an address. -/
theorem isWord_operand (nnn : Address) :
    IsWord (Address.operand nnn).toList :=
  isWord_hexMarked 3 nnn.val

------------------------------------------------------------
-- Parts Of A Statement
------------------------------------------------------------

/- What a word of a statement says. -/
inductive Part where
  | register (x : Register)
  | byte (kk : UInt8)
  | address (nnn : Address)
  | data (w : Word)
  /- An operation, a place that has a name, or a count. -/
  | name (text : String)
deriving DecidableEq

/-
  A word as it is read: a `V` begins a register and a mark a
  number, which is told by its width.
-/
def Part.ofWord : List Char → Part
  | 'V' :: digits =>
      .register (Register.ofNat (Hex.value digits))
  | '0' :: 'x' :: digits =>
      if digits.length = 2 then
        .byte (UInt8.ofNat (Hex.value digits))
      else if digits.length = 3 then
        .address (Address.ofNat (Hex.value digits))
      else
        .data (UInt16.ofNat (Hex.value digits))
  | text => .name (String.ofList text)

/- The parts of a statement. -/
def parts (statement : String) : List Part :=
  (words statement.toList).map Part.ofWord

/- A register is read from its name. -/
theorem ofWord_name (x : Register) :
    Part.ofWord (Register.name x).toList = .register x := by
  have hRegister : Register.ofNat x.val = x :=
    Fin.ext (Nat.mod_eq_of_lt x.isLt)
  rw [toList_name, Part.ofWord, Hex.value_padded, hRegister]

/- A byte is read from its two digits. -/
theorem ofWord_byteOperand (kk : UInt8) :
    Part.ofWord (byteOperand kk).toList = .byte kk := by
  have hWidth : (Hex.padded 2 kk.toNat).length = 2 :=
    Hex.length_padded (by decide) kk.toNat_lt
  rw [byteOperand, toList_hexMarked, Part.ofWord,
    if_pos hWidth, Hex.value_padded, UInt8.ofNat_toNat]

/- An address is read from its three digits. -/
theorem ofWord_operand (nnn : Address) :
    Part.ofWord (Address.operand nnn).toList =
      .address nnn := by
  have hWidth : (Hex.padded 3 nnn.val).length = 3 :=
    Hex.length_padded (by decide) nnn.isLt
  have hAddress : Address.ofNat nnn.val = nnn :=
    Fin.ext (Nat.mod_eq_of_lt nnn.isLt)
  rw [Address.operand, toList_hexMarked, Part.ofWord, hWidth,
    Hex.value_padded, hAddress]
  rfl

/- A word that is data is read from its four digits. -/
theorem ofWord_hexMarked (w : Word) :
    Part.ofWord (hexMarked 4 w.toNat).toList = .data w := by
  have hWidth : (Hex.padded 4 w.toNat).length = 4 :=
    Hex.length_padded (by decide) w.toNat_lt
  rw [toList_hexMarked, Part.ofWord, hWidth,
    Hex.value_padded, UInt16.ofNat_toNat]
  rfl

------------------------------------------------------------
-- Reading Statements
------------------------------------------------------------

/- The instruction of a name without operands. -/
def plain? : String → Option Instruction
  | "CLS" => some .clearScreen
  | "RET" => some .returnFromCall
  | _ => none

/- The instruction of a name and an address. -/
def atAddress?
    (head : String)
    (nnn : Address) : Option Instruction :=
  match head with
  | "SYS" => some (.hostRoutine nnn)
  | "JP" => some (.jump nnn)
  | "CALL" => some (.call nnn)
  | _ => none

/- The instruction of a name and the register of a key. -/
def ofKey?
    (head : String)
    (x : Register) : Option Instruction :=
  match head with
  | "SKP" => some (.skipIf (.keyHeld x))
  | "SKNP" => some (.skipIf (.keyFree x))
  | _ => none

/- The instruction of a name, a register and a byte. -/
def withByte?
    (head : String)
    (x : Register)
    (kk : UInt8) : Option Instruction :=
  match head with
  | "SE" => some (.skipIf (.isByte x kk))
  | "SNE" => some (.skipIf (.isNotByte x kk))
  | "LD" => some (.load x kk)
  | "ADD" => some (.addByte x kk)
  | "RND" => some (.random x kk)
  | _ => none

/- The instruction of a name and two registers. -/
def withRegisters?
    (head : String)
    (x y : Register) : Option Instruction :=
  match head with
  | "SE" => some (.skipIf (.same x y))
  | "SNE" => some (.skipIf (.different x y))
  | "LD" => some (.combine .move x y)
  | "OR" => some (.combine .or x y)
  | "AND" => some (.combine .and x y)
  | "XOR" => some (.combine .xor x y)
  | "ADD" => some (.combine .add x y)
  | "SUB" => some (.combine .subtract x y)
  | "SHR" => some (.combine .shiftRight x y)
  | "SUBN" => some (.combine .subtractFrom x y)
  | "SHL" => some (.combine .shiftLeft x y)
  | _ => none

/- The instruction that fills a register from a place. -/
def fromPlace?
    (head place : String)
    (x : Register) : Option Instruction :=
  match head, place with
  | "LD", "DT" => some (.readDelay x)
  | "LD", "K" => some (.awaitKey x)
  | "LD", "[I]" => some (.restoreRegisters x)
  | _, _ => none

/- The instruction that takes a register to a place. -/
def toPlace?
    (head place : String)
    (x : Register) : Option Instruction :=
  match head, place with
  | "LD", "DT" => some (.setDelay x)
  | "LD", "ST" => some (.setSound x)
  | "ADD", "I" => some (.addIndex x)
  | "LD", "F" => some (.pointAtGlyph x)
  | "LD", "B" => some (.storeDecimal x)
  | "LD", "[I]" => some (.saveRegisters x)
  | _, _ => none

/- The number of rows that is written like this. -/
def rows? (text : String) : Option (Fin 16) :=
  (List.finRange 16).find? (fun n => toString n.val == text)

/- The instruction of the parts of a statement, if any. -/
def ofParts? : List Part → Option Instruction
  | [.name head] => plain? head
  | [.name head, .address nnn] => atAddress? head nnn
  | [.name head, .register x] => ofKey? head x
  | [.name head, .register x, .byte kk] =>
      withByte? head x kk
  | [.name head, .register x, .register y] =>
      withRegisters? head x y
  | [.name head, .register x, .name place] =>
      fromPlace? head place x
  | [.name head, .name place, .register x] =>
      toPlace? head place x
  | [.name "LD", .name "I", .address nnn] =>
      some (.setIndex nnn)
  | [.name "JP", .register 0, .address nnn] =>
      some (.jumpBy nnn)
  | [.name "DRW", .register x, .register y, .name rows] =>
      (rows? rows).map (.draw x y)
  | _ => none

/- The instruction whose assembly text this is, if any. -/
def instruction? (statement : String) : Option Instruction :=
  ofParts? (parts statement)

/- The word of a statement that is plain data, if it is. -/
def data? : List Part → Option Word
  | [.name "DW", .data w] => some w
  | _ => none

/-
  The word that a statement stands for, if any: the code of
  an instruction or plain data.
-/
def word? (statement : String) : Option Word :=
  match instruction? statement with
  | some i => some i.encode
  | none => data? (parts statement)

------------------------------------------------------------
-- Shapes Of Statements
------------------------------------------------------------

/- Whether a text is read as a name. -/
def IsName (text : String) : Prop :=
  IsWord text.toList ∧ Part.ofWord text.toList = .name text

instance (text : String) : Decidable (IsName text) := by
  unfold IsName
  infer_instance

/- A statement with one operand has two parts. -/
theorem parts_operand
    {head spaced operand : String}
    (hHead : IsName head)
    (hSpaced : spaced = head ++ " ")
    (hOperand : IsWord operand.toList) :
    parts (spaced ++ operand) =
      [.name head, Part.ofWord operand.toList] := by
  have hText :
      (spaced ++ operand).toList =
        head.toList ++ ' ' :: operand.toList := by
    simp [hSpaced]
  rw [parts, hText, words_append hHead.1 rfl,
    words_of_isWord hOperand, List.map_cons, hHead.2]
  rfl

/- The parts of a statement with an address alone. -/
theorem parts_addressAlone
    {head spaced : String}
    (hHead : IsName head)
    (hSpaced : spaced = head ++ " ")
    (nnn : Address) :
    parts (spaced ++ Address.operand nnn) =
      [.name head, .address nnn] := by
  rw [parts_operand hHead hSpaced (isWord_operand nnn),
    ofWord_operand]

/- The parts of a statement with a register alone. -/
theorem parts_registerAlone
    {head spaced : String}
    (hHead : IsName head)
    (hSpaced : spaced = head ++ " ")
    (x : Register) :
    parts (spaced ++ Register.name x) =
      [.name head, .register x] := by
  rw [parts_operand hHead hSpaced (isWord_name x),
    ofWord_name]

/- A statement with two operands has the parts of both. -/
theorem parts_twoOperands
    {head first : String}
    (hHead : IsName head)
    (hFirst : IsWord first.toList)
    (second : String) :
    parts (twoOperands head first second) =
      .name head :: Part.ofWord first.toList ::
        parts second := by
  have hText :
      (twoOperands head first second).toList =
        head.toList ++ ' ' ::
          (first.toList ++ ',' :: ' ' :: second.toList) := by
    simp [twoOperands]
  rw [parts, hText, words_append hHead.1 rfl,
    words_append hFirst rfl, words_cons rfl, List.map_cons,
    List.map_cons, hHead.2]
  rfl

/- A word is one part. -/
theorem parts_of_isWord
    {text : String}
    (h : IsWord text.toList) :
    parts text = [Part.ofWord text.toList] := by
  rw [parts, words_of_isWord h]
  rfl

/- The parts of a statement with two registers. -/
theorem parts_registers
    {head : String}
    (hHead : IsName head)
    (x y : Register) :
    parts
        (twoOperands head (Register.name x)
          (Register.name y)) =
      [.name head, .register x, .register y] := by
  rw [parts_twoOperands hHead (isWord_name x), ofWord_name,
    parts_of_isWord (isWord_name y), ofWord_name]

/- The parts of a statement with a register and a byte. -/
theorem parts_byte
    {head : String}
    (hHead : IsName head)
    (x : Register)
    (kk : UInt8) :
    parts
        (twoOperands head (Register.name x)
          (byteOperand kk)) =
      [.name head, .register x, .byte kk] := by
  have hByte : IsWord (byteOperand kk).toList :=
    isWord_hexMarked 2 kk.toNat
  rw [parts_twoOperands hHead (isWord_name x), ofWord_name,
    parts_of_isWord hByte, ofWord_byteOperand]

/- The parts of a statement with a register and a place. -/
theorem parts_fromPlace
    {head place : String}
    (hHead : IsName head)
    (hPlace : IsName place)
    (x : Register) :
    parts (twoOperands head (Register.name x) place) =
      [.name head, .register x, .name place] := by
  rw [parts_twoOperands hHead (isWord_name x), ofWord_name,
    parts_of_isWord hPlace.1, hPlace.2]

/- The parts of a statement with a place and a register. -/
theorem parts_toPlace
    {head place : String}
    (hHead : IsName head)
    (hPlace : IsName place)
    (x : Register) :
    parts (twoOperands head place (Register.name x)) =
      [.name head, .name place, .register x] := by
  rw [parts_twoOperands hHead hPlace.1, hPlace.2,
    parts_of_isWord (isWord_name x), ofWord_name]

/- The parts of a statement that ends with an address. -/
theorem parts_address
    {head first : String}
    (hHead : IsName head)
    (hFirst : IsWord first.toList)
    (nnn : Address) :
    parts
        (twoOperands head first (Address.operand nnn)) =
      [.name head, Part.ofWord first.toList,
        .address nnn] := by
  rw [parts_twoOperands hHead hFirst,
    parts_of_isWord (isWord_operand nnn), ofWord_operand]

/- The number of rows of a drawing is a name. -/
theorem isName_rows (rows : Fin 16) :
    IsName (toString rows.val) := by
  revert rows
  decide +kernel

/- The parts of a drawing. -/
theorem parts_draw
    (x y rows : Fin 16) :
    parts
        (twoOperands "DRW" (Register.name x)
            (Register.name y) ++
          ", " ++ toString rows.val) =
      [.name "DRW", .register x, .register y,
        .name (toString rows.val)] := by
  have hText :
      twoOperands "DRW" (Register.name x)
            (Register.name y) ++
          ", " ++ toString rows.val =
        twoOperands "DRW" (Register.name x)
          (Register.name y ++ ", " ++
            toString rows.val) := by
    simp [twoOperands, String.append_assoc]
  have hRest :
      (Register.name y ++ ", " ++
          toString rows.val).toList =
        (Register.name y).toList ++ ',' :: ' ' ::
          (toString rows.val).toList := by
    simp
  have hRows := isName_rows rows
  rw [hText, parts_twoOperands (by decide) (isWord_name x),
    ofWord_name, parts, hRest,
    words_append (isWord_name y) rfl, words_cons rfl,
    words_of_isWord hRows.1, List.map_cons, List.map_cons,
    ofWord_name, hRows.2]
  rfl

/- The number of rows is read back. -/
theorem rows?_toString (rows : Fin 16) :
    rows? (toString rows.val) = some rows := by
  revert rows
  decide +kernel

------------------------------------------------------------
-- Reading Back
------------------------------------------------------------

/- A test is read back from its assembly text. -/
theorem ofParts?_test (test : Test) :
    ofParts? (parts test.mnemonic) =
      some (.skipIf test) := by
  cases test with
  | isByte x byte =>
      rw [Test.mnemonic, parts_byte (by decide)]
      rfl
  | isNotByte x byte =>
      rw [Test.mnemonic, parts_byte (by decide)]
      rfl
  | same x y =>
      rw [Test.mnemonic, parts_registers (by decide)]
      rfl
  | different x y =>
      rw [Test.mnemonic, parts_registers (by decide)]
      rfl
  | keyHeld x =>
      have hSpaced : "SKP " = "SKP" ++ " " := rfl
      rw [Test.mnemonic,
        parts_registerAlone (by decide) hSpaced]
      rfl
  | keyFree x =>
      have hSpaced : "SKNP " = "SKNP" ++ " " := rfl
      rw [Test.mnemonic,
        parts_registerAlone (by decide) hSpaced]
      rfl

/- So is an operation of two registers. -/
theorem ofParts?_combine
    (op : Operator)
    (x y : Register) :
    ofParts? (parts (Instruction.combine op x y).mnemonic) =
      some (.combine op x y) := by
  have hHead : IsName op.mnemonic := by
    cases op with
    | _ => decide
  rw [Instruction.mnemonic, parts_registers hHead]
  cases op with
  | _ => rfl

/- So is every instruction. -/
theorem instruction?_mnemonic (i : Instruction) :
    instruction? i.mnemonic = some i := by
  rw [instruction?]
  cases i with
  | clearScreen => rfl
  | returnFromCall => rfl
  | hostRoutine target =>
      have hSpaced : "SYS " = "SYS" ++ " " := rfl
      rw [Instruction.mnemonic,
        parts_addressAlone (by decide) hSpaced]
      rfl
  | jump target =>
      have hSpaced : "JP " = "JP" ++ " " := rfl
      rw [Instruction.mnemonic,
        parts_addressAlone (by decide) hSpaced]
      rfl
  | call target =>
      have hSpaced : "CALL " = "CALL" ++ " " := rfl
      rw [Instruction.mnemonic,
        parts_addressAlone (by decide) hSpaced]
      rfl
  | skipIf test => exact ofParts?_test test
  | load x byte =>
      rw [Instruction.mnemonic, parts_byte (by decide)]
      rfl
  | addByte x byte =>
      rw [Instruction.mnemonic, parts_byte (by decide)]
      rfl
  | combine op x y => exact ofParts?_combine op x y
  | setIndex target =>
      rw [Instruction.mnemonic,
        parts_address (by decide) (by decide)]
      rfl
  | jumpBy target =>
      rw [Instruction.mnemonic,
        parts_address (by decide) (by decide)]
      rfl
  | random x mask =>
      rw [Instruction.mnemonic, parts_byte (by decide)]
      rfl
  | draw x y rows =>
      rw [Instruction.mnemonic, parts_draw]
      change (rows? (toString rows.val)).map _ = _
      rw [rows?_toString]
      rfl
  | readDelay x =>
      rw [Instruction.mnemonic,
        parts_fromPlace (by decide) (by decide)]
      rfl
  | awaitKey x =>
      rw [Instruction.mnemonic,
        parts_fromPlace (by decide) (by decide)]
      rfl
  | setDelay x =>
      rw [Instruction.mnemonic,
        parts_toPlace (by decide) (by decide)]
      rfl
  | setSound x =>
      rw [Instruction.mnemonic,
        parts_toPlace (by decide) (by decide)]
      rfl
  | addIndex x =>
      rw [Instruction.mnemonic,
        parts_toPlace (by decide) (by decide)]
      rfl
  | pointAtGlyph x =>
      rw [Instruction.mnemonic,
        parts_toPlace (by decide) (by decide)]
      rfl
  | storeDecimal x =>
      rw [Instruction.mnemonic,
        parts_toPlace (by decide) (by decide)]
      rfl
  | saveRegisters x =>
      rw [Instruction.mnemonic,
        parts_toPlace (by decide) (by decide)]
      rfl
  | restoreRegisters x =>
      rw [Instruction.mnemonic,
        parts_fromPlace (by decide) (by decide)]
      rfl

/- And its text stands for its code. -/
theorem word?_mnemonic (i : Instruction) :
    word? i.mnemonic = some i.encode := by
  rw [word?, instruction?_mnemonic]

/- The parts of a word that is plain data. -/
theorem parts_data (w : Word) :
    parts ("DW " ++ hexMarked 4 w.toNat) =
      [.name "DW", .data w] := by
  have hSpaced : "DW " = "DW" ++ " " := rfl
  rw [parts_operand (by decide) hSpaced
      (isWord_hexMarked 4 w.toNat),
    ofWord_hexMarked]

/- No instruction has the text of plain data. -/
theorem instruction?_data (w : Word) :
    instruction? ("DW " ++ hexMarked 4 w.toNat) = none := by
  rw [instruction?, parts_data]
  rfl

/- Plain data is read back. -/
theorem word?_data (w : Word) :
    word? ("DW " ++ hexMarked 4 w.toNat) = some w := by
  rw [word?, instruction?_data, parts_data]
  rfl

end Assembly

/- No two instructions share a text. -/
theorem Instruction.mnemonic_injective :
    Function.Injective Instruction.mnemonic := by
  intro first second hText
  have hRead := Assembly.instruction?_mnemonic first
  rw [hText, Assembly.instruction?_mnemonic] at hRead
  exact (Option.some.inj hRead).symm

/- The text of an instruction is not that of plain data. -/
theorem Instruction.mnemonic_ne_data
    (i : Instruction)
    (w : Word) :
    i.mnemonic ≠ "DW " ++ hexMarked 4 w.toNat := by
  intro hText
  have hRead := Assembly.instruction?_mnemonic i
  rw [hText, Assembly.instruction?_data] at hRead
  cases hRead

end ChipEight
