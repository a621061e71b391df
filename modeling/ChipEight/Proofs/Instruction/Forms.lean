import ChipEight.Proofs.Instruction.Fields
import Mathlib.Tactic.IntervalCases

/-
  Which words name an instruction, and which one.

  Of the four digits of a word some tell the instruction and
  the others are its operands. There are thirty-five ways to
  tell one, and a word that follows none of them names no
  instruction. The same is said by the digits and bytes that
  a class leaves unused.

  Key definitions include:
    * `ChipEight.Word.Form`
    * `ChipEight.Word.forms`
    * `ChipEight.Word.IsUnused`
    * `ChipEight.Instruction.form`

  Main declarations:
    * `ChipEight.Word.isUnused_iff_fits_none`
    * `ChipEight.Instruction.decode?_eq_none_iff`
    * `ChipEight.Instruction.fits_form`
-/

namespace ChipEight

namespace Word

------------------------------------------------------------
-- Forms
------------------------------------------------------------

/-
  What the digits of a word must be. Digits left open are
  operands.
-/
structure Form where
  leading : Nat
  second : Option Nat := none
  third : Option Nat := none
  last : Option Nat := none

/- Whether a word has the digits of a form. -/
def Form.Fits
    (f : Form)
    (w : Word) : Prop :=
  w.toNat / 4096 = f.leading ∧
    (∀ d ∈ f.second, w.toNat / 256 % 16 = d) ∧
    (∀ d ∈ f.third, w.toNat / 16 % 16 = d) ∧
    (∀ d ∈ f.last, w.toNat % 16 = d)

instance
    (f : Form)
    (w : Word) :
    Decidable (f.Fits w) := by
  unfold Form.Fits
  infer_instance

/- A form without operands, in the first class. -/
def Form.ofAll (y n : Nat) : Form where
  leading := 0x0
  second := some 0x0
  third := some y
  last := some n

/- A form that is told by the class alone. -/
def Form.ofClass (c : Nat) : Form where
  leading := c

/- A form that is told by the last digit, too. -/
def Form.ofLast (c n : Nat) : Form where
  leading := c
  last := some n

/- A form that is told by the low byte, too. -/
def Form.ofLow (c kk : Nat) : Form where
  leading := c
  third := some (kk / 16)
  last := some (kk % 16)

/- The forms of all instructions, by class. -/
def forms : List Form :=
  [Form.ofAll 0xE 0x0, Form.ofAll 0xE 0xE] ++
  [0x0, 0x1, 0x2, 0x3, 0x4].map Form.ofClass ++
  [Form.ofLast 0x5 0x0] ++
  [0x6, 0x7].map Form.ofClass ++
  [0x0, 0x1, 0x2, 0x3, 0x4, 0x5, 0x6, 0x7, 0xE].map
    (Form.ofLast 0x8) ++
  [Form.ofLast 0x9 0x0] ++
  [0xA, 0xB, 0xC, 0xD].map Form.ofClass ++
  [0x9E, 0xA1].map (Form.ofLow 0xE) ++
  [0x07, 0x0A, 0x15, 0x18, 0x1E, 0x29, 0x33, 0x55, 0x65].map
    (Form.ofLow 0xF)

example : forms.length = 35 := rfl

/- The class tells such a form. -/
theorem fits_ofClass
    {c : Nat}
    {w : Word} :
    (Form.ofClass c).Fits w ↔ w.toNat / 4096 = c := by
  simp [Form.Fits, Form.ofClass]

/- The class and the last digit tell such a form. -/
theorem fits_ofLast
    {c n : Nat}
    {w : Word} :
    (Form.ofLast c n).Fits w ↔
      w.toNat / 4096 = c ∧ w.toNat % 16 = n := by
  simp [Form.Fits, Form.ofLast]

/- The class and the low byte tell such a form. -/
theorem fits_ofLow
    {c kk : Nat}
    {w : Word} :
    (Form.ofLow c kk).Fits w ↔
      w.toNat / 4096 = c ∧ w.toNat % 256 = kk := by
  simp only [Form.Fits, Form.ofLow, Option.mem_def,
    Option.some.injEq, forall_eq', reduceCtorEq,
    false_implies, implies_true, true_and]
  omega

/- Forms without operands belong to the first class. -/
theorem class_of_fits_ofAll
    {y n : Nat}
    {w : Word}
    (h : (Form.ofAll y n).Fits w) :
    w.toNat / 4096 = 0 :=
  h.1

------------------------------------------------------------
-- Unused Words
------------------------------------------------------------

/-
  Whether a word lies where its class is not used: the place
  is told by the last digit or by the low byte.
-/
def IsUnused (w : Word) : Prop :=
  ((w.toNat / 4096 = 0x5 ∨ w.toNat / 4096 = 0x9) ∧
      w.toNat % 16 ≠ 0) ∨
    (w.toNat / 4096 = 0x8 ∧
      w.toNat % 16 ∈ [0x8, 0x9, 0xA, 0xB, 0xC, 0xD, 0xF]) ∨
    (w.toNat / 4096 = 0xE ∧
      w.toNat % 256 ∉ [0x9E, 0xA1]) ∨
    (w.toNat / 4096 = 0xF ∧
      w.toNat % 256 ∉
        [0x07, 0x0A, 0x15, 0x18, 0x1E, 0x29, 0x33, 0x55,
          0x65])

instance (w : Word) : Decidable w.IsUnused := by
  unfold IsUnused
  infer_instance

/- The unused words are those that fit no form. -/
theorem isUnused_iff_fits_none {w : Word} :
    w.IsUnused ↔ ∀ f ∈ forms, ¬ f.Fits w := by
  have hClass : w.toNat / 4096 < 16 := by
    have hWord := w.toNat_lt
    omega
  have hClear := @class_of_fits_ofAll 0xE 0x0 w
  have hReturn := @class_of_fits_ofAll 0xE 0xE w
  simp only [forms, List.forall_mem_append,
    List.forall_mem_map, List.forall_mem_cons,
    fits_ofClass, fits_ofLast, fits_ofLow]
  unfold IsUnused
  -- Once the class is known, either side tells the place.
  generalize w.toNat / 4096 = c at *
  interval_cases c
  all_goals simp_all
  all_goals omega

end Word

------------------------------------------------------------
-- Reading
------------------------------------------------------------

namespace Word

/- The first digit is told by its number. -/
theorem leading_eq_iff
    {w : Word}
    {c : Fin 16} :
    leading w = c ↔ w.toNat / 4096 = c.val := by
  have hWord := w.toNat_lt
  rw [Fin.ext_iff]
  simp only [leading, Register.ofNat]
  omega

/- The low byte is told by its number. -/
theorem lowByte_eq_iff
    {w : Word}
    {kk : UInt8} :
    lowByte w = kk ↔ w.toNat % 256 = kk.toNat := by
  rw [← UInt8.toNat_inj, lowByte, UInt8.toNat_ofNat']

/- Eleven classes are used for all words. -/
theorem not_isUnused_of_class
    {w : Word}
    {c : Fin 16}
    (hClass : leading w = c)
    (h : c.val ∉ [0x5, 0x8, 0x9, 0xE, 0xF]) :
    ¬ w.IsUnused := by
  rw [← leading_eq_iff.mp hClass] at h
  unfold IsUnused
  simp only [List.mem_cons, List.not_mem_nil, not_or] at h
  omega

end Word

/- An operator is missing for seven of the last digits. -/
theorem Operator.ofCode?_eq_none_iff {n : Fin 16} :
    Operator.ofCode? n = none ↔
      n.val ∈ [0x8, 0x9, 0xA, 0xB, 0xC, 0xD, 0xF] := by
  revert n
  decide

namespace Instruction

/- Class `E` uses two low bytes. -/
theorem decodeKey?_eq_none_iff
    {x : Register}
    {low : UInt8} :
    decodeKey? x low = none ↔ low ∉ [0x9E, 0xA1] := by
  unfold decodeKey?
  split
  · simp
  · simp
  · simp_all

/- Class `F` uses nine low bytes. -/
theorem decodeDevice?_eq_none_iff
    {x : Register}
    {low : UInt8} :
    decodeDevice? x low = none ↔
      low ∉
        [0x07, 0x0A, 0x15, 0x18, 0x1E, 0x29, 0x33, 0x55,
          0x65] := by
  unfold decodeDevice?
  split
  case h_10 => simp_all
  all_goals simp

/- The words that name no instruction are the unused ones. -/
theorem decode?_eq_none_iff {w : Word} :
    decode? w = none ↔ w.IsUnused := by
  unfold decode?
  simp only
  split
  case h_6 hClass =>
      have hNat : w.toNat / 4096 = 0x5 :=
        Word.leading_eq_iff.mp hClass
      have hLast : (Word.last w).val = w.toNat % 16 := rfl
      rw [ite_eq_right_iff]
      simp [Word.IsUnused, hNat, hLast]
  case h_9 hClass =>
      have hNat : w.toNat / 4096 = 0x8 :=
        Word.leading_eq_iff.mp hClass
      rw [Option.map_eq_none_iff,
        Operator.ofCode?_eq_none_iff]
      simp [Word.IsUnused, hNat, Word.last, Register.ofNat]
  case h_10 hClass =>
      have hNat : w.toNat / 4096 = 0x9 :=
        Word.leading_eq_iff.mp hClass
      have hLast : (Word.last w).val = w.toNat % 16 := rfl
      rw [ite_eq_right_iff]
      simp [Word.IsUnused, hNat, hLast]
  case h_15 hClass =>
      have hNat : w.toNat / 4096 = 0xE :=
        Word.leading_eq_iff.mp hClass
      rw [decodeKey?_eq_none_iff]
      simp [Word.IsUnused, hNat, Word.lowByte_eq_iff]
  case h_16 =>
      have hClass : Word.leading w = 0xF := by
        generalize Word.leading w = d at *
        revert d
        decide
      have hNat : w.toNat / 4096 = 0xF :=
        Word.leading_eq_iff.mp hClass
      rw [decodeDevice?_eq_none_iff]
      simp [Word.IsUnused, hNat, Word.lowByte_eq_iff]
  all_goals
      rename_i hClass
      simpa using
        Word.not_isUnused_of_class hClass (by decide)

/- Class `2` calls. -/
theorem decode?_of_class_call
    {w : Word}
    (h : w.toNat / 4096 = 0x2) :
    decode? w = some (.call (Word.target w)) := by
  have hClass : Word.leading w = 0x2 :=
    Word.leading_eq_iff.mpr h
  simp only [decode?, hClass]

/- Class `D` draws. -/
theorem decode?_of_class_draw
    {w : Word}
    (h : w.toNat / 4096 = 0xD) :
    decode? w =
      some
        (.draw (Word.second w) (Word.third w)
          (Word.last w)) := by
  have hClass : Word.leading w = 0xD :=
    Word.leading_eq_iff.mpr h
  simp only [decode?, hClass]

/- Class `C` takes a random byte. -/
theorem decode?_of_class_random
    {w : Word}
    (h : w.toNat / 4096 = 0xC) :
    decode? w =
      some (.random (Word.second w) (Word.lowByte w)) := by
  have hClass : Word.leading w = 0xC :=
    Word.leading_eq_iff.mpr h
  simp only [decode?, hClass]

/- One word returns. -/
theorem decode?_eq_return_iff {w : Word} :
    decode? w = some .returnFromCall ↔ w = 0x00EE := by
  constructor
  · intro h
    exact (encode_of_decode? h).symm
  · rintro rfl
    decide

/- One word of each register waits for a key. -/
theorem decode?_ofByte_awaitKey (x : Register) :
    decode? (Word.ofByte 0xF x 0x0A) =
      some (.awaitKey x) := by
  rw [decode?_ofByte_device]
  rfl

end Instruction

------------------------------------------------------------
-- Forms Of Instructions
------------------------------------------------------------

namespace Word

/- A word with an address is told by its class. -/
theorem fits_ofTarget
    (c : Fin 16)
    (nnn : Address) :
    (Form.ofClass c.val).Fits (ofTarget c.val nnn) := by
  have hTarget := nnn.isLt
  rw [fits_ofClass, toNat_ofTarget nnn c.isLt]
  omega

/- So is a word with a byte. -/
theorem fits_ofByte
    (c : Fin 16)
    (x : Register)
    (kk : UInt8) :
    (Form.ofClass c.val).Fits (ofByte c.val x kk) :=
  fits_ofClass.mpr
    (leading_eq_iff.mp (leading_ofByte c x kk))

/- Its byte can tell it, too. -/
theorem fits_ofByte_low
    (c : Fin 16)
    (x : Register)
    (kk : UInt8) :
    (Form.ofLow c.val kk.toNat).Fits (ofByte c.val x kk) :=
  fits_ofLow.mpr
    ⟨leading_eq_iff.mp (leading_ofByte c x kk),
      lowByte_eq_iff.mp (lowByte_ofByte c x kk)⟩

/- A word with two registers is told by its class. -/
theorem fits_ofPair
    (c : Fin 16)
    (x y : Register)
    (n : Fin 16) :
    (Form.ofClass c.val).Fits (ofPair c.val x y n.val) :=
  fits_ofClass.mpr
    (leading_eq_iff.mp (leading_ofPair c x y n))

/- Its last digit can tell it, too. -/
theorem fits_ofPair_last
    (c : Fin 16)
    (x y : Register)
    (n : Fin 16) :
    (Form.ofLast c.val n.val).Fits
      (ofPair c.val x y n.val) :=
  fits_ofLast.mpr
    ⟨leading_eq_iff.mp (leading_ofPair c x y n),
      congrArg Fin.val (last_ofPair c x y n)⟩

end Word

/- The form that tells a test. -/
def Test.form : Test → Word.Form
  | .isByte _ _ => .ofClass 0x3
  | .isNotByte _ _ => .ofClass 0x4
  | .same _ _ => .ofLast 0x5 0x0
  | .different _ _ => .ofLast 0x9 0x0
  | .keyHeld _ => .ofLow 0xE 0x9E
  | .keyFree _ => .ofLow 0xE 0xA1

/- The word of a test has its form. -/
theorem Test.fits_form (test : Test) :
    test.form.Fits test.encode := by
  cases test with
  | isByte x byte => exact Word.fits_ofByte 0x3 x byte
  | isNotByte x byte => exact Word.fits_ofByte 0x4 x byte
  | same x y => exact Word.fits_ofPair_last 0x5 x y 0x0
  | different x y => exact Word.fits_ofPair_last 0x9 x y 0x0
  | keyHeld x => exact Word.fits_ofByte_low 0xE x 0x9E
  | keyFree x => exact Word.fits_ofByte_low 0xE x 0xA1

namespace Instruction

/- The form that tells an instruction. -/
def form : Instruction → Word.Form
  | .clearScreen => .ofAll 0xE 0x0
  | .returnFromCall => .ofAll 0xE 0xE
  | .hostRoutine _ => .ofClass 0x0
  | .jump _ => .ofClass 0x1
  | .call _ => .ofClass 0x2
  | .skipIf test => test.form
  | .load _ _ => .ofClass 0x6
  | .addByte _ _ => .ofClass 0x7
  | .combine op _ _ => .ofLast 0x8 op.code
  | .setIndex _ => .ofClass 0xA
  | .jumpBy _ => .ofClass 0xB
  | .random _ _ => .ofClass 0xC
  | .draw _ _ _ => .ofClass 0xD
  | .readDelay _ => .ofLow 0xF 0x07
  | .awaitKey _ => .ofLow 0xF 0x0A
  | .setDelay _ => .ofLow 0xF 0x15
  | .setSound _ => .ofLow 0xF 0x18
  | .addIndex _ => .ofLow 0xF 0x1E
  | .pointAtGlyph _ => .ofLow 0xF 0x29
  | .storeDecimal _ => .ofLow 0xF 0x33
  | .saveRegisters _ => .ofLow 0xF 0x55
  | .restoreRegisters _ => .ofLow 0xF 0x65

/- The word of an instruction has its form. -/
theorem fits_form (instruction : Instruction) :
    instruction.form.Fits instruction.encode := by
  cases instruction with
  | clearScreen => decide
  | returnFromCall => decide
  | hostRoutine target => exact Word.fits_ofTarget 0x0 target
  | jump target => exact Word.fits_ofTarget 0x1 target
  | call target => exact Word.fits_ofTarget 0x2 target
  | skipIf test => exact test.fits_form
  | load x byte => exact Word.fits_ofByte 0x6 x byte
  | addByte x byte => exact Word.fits_ofByte 0x7 x byte
  | combine op x y =>
      exact
        Word.fits_ofPair_last 0x8 x y ⟨op.code, op.code_lt⟩
  | setIndex target => exact Word.fits_ofTarget 0xA target
  | jumpBy target => exact Word.fits_ofTarget 0xB target
  | random x mask => exact Word.fits_ofByte 0xC x mask
  | draw x y rows => exact Word.fits_ofPair 0xD x y rows
  | readDelay x => exact Word.fits_ofByte_low 0xF x 0x07
  | awaitKey x => exact Word.fits_ofByte_low 0xF x 0x0A
  | setDelay x => exact Word.fits_ofByte_low 0xF x 0x15
  | setSound x => exact Word.fits_ofByte_low 0xF x 0x18
  | addIndex x => exact Word.fits_ofByte_low 0xF x 0x1E
  | pointAtGlyph x => exact Word.fits_ofByte_low 0xF x 0x29
  | storeDecimal x => exact Word.fits_ofByte_low 0xF x 0x33
  | saveRegisters x => exact Word.fits_ofByte_low 0xF x 0x55
  | restoreRegisters x =>
      exact Word.fits_ofByte_low 0xF x 0x65

/- So has the word that an instruction is read from. -/
theorem fits_form_of_decode?
    {w : Word}
    {instruction : Instruction}
    (h : decode? w = some instruction) :
    instruction.form.Fits w := by
  have hFits := instruction.fits_form
  rw [encode_of_decode? h] at hFits
  exact hFits

/- A call is of class `2`. -/
theorem class_of_decode?_call
    {w : Word}
    {target : Address}
    (h : decode? w = some (.call target)) :
    w.toNat / 4096 = 0x2 :=
  Word.fits_ofClass.mp (fits_form_of_decode? h)

/- A picture is drawn by class `D`. -/
theorem class_of_decode?_draw
    {w : Word}
    {x y : Register}
    {rows : Fin 16}
    (h : decode? w = some (.draw x y rows)) :
    w.toNat / 4096 = 0xD :=
  Word.fits_ofClass.mp (fits_form_of_decode? h)

/- A random byte is taken by class `C`. -/
theorem class_of_decode?_random
    {w : Word}
    {x : Register}
    {mask : UInt8}
    (h : decode? w = some (.random x mask)) :
    w.toNat / 4096 = 0xC :=
  Word.fits_ofClass.mp (fits_form_of_decode? h)

end Instruction

end ChipEight
