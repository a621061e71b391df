import ChipEight.Instruction.Mnemonic
import ChipEight.Proofs.Text.Hex

/-
  Texts of several lines.

  Lines that are joined by line breaks are found again if none
  of them has a line break of its own. Numbers and assembly
  text have none.

  Key definitions include:
    * `ChipEight.linesOf`
    * `ChipEight.OnOneLine`

  Main declarations:
    * `ChipEight.onOneLine_append`
    * `ChipEight.onOneLine_intercalate`
    * `ChipEight.linesOf_intercalate`
    * `ChipEight.Instruction.onOneLine_mnemonic`
-/

namespace ChipEight

------------------------------------------------------------
-- Lines
------------------------------------------------------------

/- The characters of the lines of a text. -/
def linesOf (text : String) : List (List Char) :=
  text.toList.splitOn '\n'

/- Whether a text has no line break. -/
def OnOneLine (text : String) : Prop :=
  '\n' ∉ text.toList

instance (text : String) : Decidable (OnOneLine text) :=
  inferInstanceAs (Decidable ('\n' ∉ text.toList))

/- A text is on one line if its parts are. -/
@[simp]
theorem onOneLine_append (first second : String) :
    OnOneLine (first ++ second) ↔
      OnOneLine first ∧ OnOneLine second := by
  simp [OnOneLine, not_or]

/- So is a text that is joined. -/
theorem onOneLine_join
    {parts : List String}
    (h : ∀ part ∈ parts, OnOneLine part) :
    OnOneLine (String.join parts) := by
  intro hMem
  rw [String.toList_join, List.mem_flatMap] at hMem
  rcases hMem with ⟨part, hPart, hBreak⟩
  exact h part hPart hBreak

/- So is a text that is joined with something between. -/
theorem onOneLine_intercalate
    {between : String}
    {parts : List String}
    (hBetween : OnOneLine between)
    (h : ∀ part ∈ parts, OnOneLine part) :
    OnOneLine (between.intercalate parts) := by
  induction parts with
  | nil => simp [OnOneLine]
  | cons first rest ih =>
      rcases List.forall_mem_cons.mp h with ⟨hFirst, hRest⟩
      cases rest with
      | nil =>
          rw [String.intercalate_singleton]
          exact hFirst
      | cons second rest =>
          rw [String.intercalate_cons_cons,
            onOneLine_append, onOneLine_append]
          exact ⟨⟨hFirst, hBetween⟩, ih hRest⟩

/- Lines that are joined are found again. -/
theorem linesOf_intercalate
    {lines : List String}
    (hSome : lines ≠ [])
    (h : ∀ line ∈ lines, OnOneLine line) :
    linesOf ("\n".intercalate lines) =
      lines.map String.toList := by
  have hBreak : "\n".toList = ['\n'] := rfl
  rw [linesOf, String.toList_intercalate, hBreak]
  apply List.splitOn_intercalate
  · intro line hLine
    rcases List.mem_map.mp hLine with ⟨text, hText, rfl⟩
    exact h text hText
  · simpa using hSome

------------------------------------------------------------
-- Numbers And Operands
------------------------------------------------------------

/- A number is on one line. -/
@[simp]
theorem onOneLine_hex (width n : Nat) :
    OnOneLine (hex width n) := by
  have hDigits : ∀ d < 16, Hex.digit d ≠ '\n' := by
    decide
  intro hMem
  rw [toList_hex] at hMem
  rcases Hex.isDigit_of_mem_padded hMem with
    ⟨d, hLt, hBreak⟩
  exact hDigits d hLt hBreak.symm

/- So is a number behind its mark. -/
@[simp]
theorem onOneLine_hexMarked (width n : Nat) :
    OnOneLine (hexMarked width n) := by
  rw [hexMarked, onOneLine_append]
  exact ⟨by decide, onOneLine_hex width n⟩

/- So is the name of a register. -/
@[simp]
theorem onOneLine_name (x : Register) :
    OnOneLine (Register.name x) := by
  rw [Register.name, onOneLine_append]
  exact ⟨by decide, onOneLine_hex 1 x.val⟩

/- So is a byte that an instruction carries. -/
@[simp]
theorem onOneLine_byteOperand (byte : UInt8) :
    OnOneLine (byteOperand byte) :=
  onOneLine_hexMarked 2 byte.toNat

/- So is an address. -/
@[simp]
theorem onOneLine_operand (target : Address) :
    OnOneLine (Address.operand target) :=
  onOneLine_hexMarked 3 target.val

/- So is the number of rows of a drawing. -/
@[simp]
theorem onOneLine_rows (rows : Fin 16) :
    OnOneLine (toString rows.val) := by
  revert rows
  decide

/- So is a statement of two operands, if its parts are. -/
@[simp]
theorem onOneLine_twoOperands (head first second : String) :
    OnOneLine (twoOperands head first second) ↔
      OnOneLine head ∧ OnOneLine first ∧ OnOneLine second := by
  have hSpace : OnOneLine " " := by decide
  have hComma : OnOneLine ", " := by decide
  simp [twoOperands, hSpace, hComma, and_assoc]

------------------------------------------------------------
-- Statements
------------------------------------------------------------

/- The text of a test is on one line. -/
theorem Test.onOneLine_mnemonic (test : Test) :
    OnOneLine test.mnemonic := by
  cases test with
  | isByte x byte | isNotByte x byte =>
      rw [Test.mnemonic, onOneLine_twoOperands]
      exact
        ⟨by decide, onOneLine_name x,
          onOneLine_byteOperand byte⟩
  | same x y | different x y =>
      rw [Test.mnemonic, onOneLine_twoOperands]
      exact ⟨by decide, onOneLine_name x, onOneLine_name y⟩
  | keyHeld x | keyFree x =>
      rw [Test.mnemonic, onOneLine_append]
      exact ⟨by decide, onOneLine_name x⟩

/- The head of an operator is on one line. -/
theorem Operator.onOneLine_mnemonic (op : Operator) :
    OnOneLine op.mnemonic := by
  cases op with
  | _ => decide

/- The text of an instruction is on one line. -/
theorem Instruction.onOneLine_mnemonic (i : Instruction) :
    OnOneLine i.mnemonic := by
  cases i with
  | clearScreen | returnFromCall => decide
  | hostRoutine target | jump target | call target =>
      rw [Instruction.mnemonic, onOneLine_append]
      exact ⟨by decide, onOneLine_operand target⟩
  | skipIf test => exact test.onOneLine_mnemonic
  | load x byte | addByte x byte | random x byte =>
      rw [Instruction.mnemonic, onOneLine_twoOperands]
      exact
        ⟨by decide, onOneLine_name x,
          onOneLine_byteOperand byte⟩
  | combine op x y =>
      rw [Instruction.mnemonic, onOneLine_twoOperands]
      exact
        ⟨op.onOneLine_mnemonic, onOneLine_name x,
          onOneLine_name y⟩
  | setIndex target | jumpBy target =>
      rw [Instruction.mnemonic, onOneLine_twoOperands]
      exact
        ⟨by decide, by decide, onOneLine_operand target⟩
  | draw x y rows =>
      rw [Instruction.mnemonic, onOneLine_append,
        onOneLine_append, onOneLine_twoOperands]
      exact
        ⟨⟨⟨by decide, onOneLine_name x, onOneLine_name y⟩,
          by decide⟩, onOneLine_rows rows⟩
  | readDelay x | awaitKey x | restoreRegisters x =>
      rw [Instruction.mnemonic, onOneLine_twoOperands]
      exact ⟨by decide, onOneLine_name x, by decide⟩
  | setDelay x | setSound x | addIndex x | pointAtGlyph x
  | storeDecimal x | saveRegisters x =>
      rw [Instruction.mnemonic, onOneLine_twoOperands]
      exact ⟨by decide, by decide, onOneLine_name x⟩

end ChipEight
