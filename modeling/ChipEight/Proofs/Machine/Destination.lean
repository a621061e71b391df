import ChipEight.Proofs.Instruction.Forms
import ChipEight.Proofs.Machine.Saving
import ChipEight.Proofs.Machine.Sound

/-
  Where a word leads.

  The counter moves past a word before the word is carried
  out. Jumps, calls and returns replace it then, a skip whose
  condition holds moves it once more, and any other word
  leaves it there. All of this can be told from the digits of
  the word and the machine before it, and so can the key that
  a word asks about.

  Key definitions include:
    * `ChipEight.Word.AsksForKey`
    * `ChipEight.Machine.keyNamed`
    * `ChipEight.Machine.Skips`
    * `ChipEight.Machine.destination?`
    * `ChipEight.Instruction.goesElsewhere`

  Main declarations:
    * `ChipEight.Machine.keyAsked?_of_decode?`
    * `ChipEight.Machine.toNat_fetch`
    * `ChipEight.Machine.skips_iff_holds`
    * `ChipEight.Machine.destination?_of_not_goesElsewhere`
    * `ChipEight.Machine.destination?_eq_pc`
-/

namespace ChipEight

------------------------------------------------------------
-- Keys
------------------------------------------------------------

/- Whether a word asks about a key. -/
def Word.AsksForKey (w : Word) : Prop :=
  (Word.Form.ofLow 0xE 0x9E).Fits w ∨
    (Word.Form.ofLow 0xE 0xA1).Fits w

instance (w : Word) : Decidable w.AsksForKey := by
  unfold Word.AsksForKey
  infer_instance

namespace Machine

/- The key that a word asks about, if it asks about one. -/
def keyNamed
    (m : Machine)
    (w : Word) : UInt8 :=
  UInt8.ofNat ((m.reg (Word.second w)).toNat % 16)

/- A key is a number below sixteen. -/
theorem keyIn_eq
    (m : Machine)
    (x : Register) :
    m.keyIn x = UInt8.ofNat ((m.reg x).toNat % 16) := by
  have hLt := (m.reg x).toNat_lt
  apply UInt8.toNat_inj.mp
  rw [keyIn, UInt8.toNat_and, UInt8.toNat_ofNat']
  have hMask :
      (m.reg x).toNat &&& (0xF : UInt8).toNat =
        (m.reg x).toNat % 2 ^ 4 :=
    Nat.and_two_pow_sub_one_eq_mod _ 4
  rw [hMask]
  omega

/- What an instruction asks about is told by its word. -/
theorem keyAsked?_of_decode?
    (m : Machine)
    {w : Word}
    {instruction : Instruction}
    (h : Instruction.decode? w = some instruction) :
    m.keyAsked? instruction =
      if w.AsksForKey then some (m.keyNamed w) else none := by
  have hFits := Instruction.fits_form_of_decode? h
  have hEncode := Instruction.encode_of_decode? h
  unfold Word.AsksForKey
  simp only [Word.fits_ofLow]
  cases instruction with
  | skipIf test =>
      cases test with
      | keyHeld x =>
          have hX : Word.second w = x :=
            hEncode ▸ Word.second_ofByte 0xE x 0x9E
          simp [Word.fits_ofLow.mp hFits, keyAsked?,
            keyTested?, keyNamed, keyIn_eq, hX]
      | keyFree x =>
          have hX : Word.second w = x :=
            hEncode ▸ Word.second_ofByte 0xE x 0xA1
          simp [Word.fits_ofLow.mp hFits, keyAsked?,
            keyTested?, keyNamed, keyIn_eq, hX]
      | _ =>
          have hClass : w.toNat / 4096 ≠ 0xE := by
            rw [hFits.1]
            simp [Instruction.form, Test.form,
              Word.Form.ofClass, Word.Form.ofLast]
          simp [hClass, keyAsked?, keyTested?]
  | _ =>
      have hClass : w.toNat / 4096 ≠ 0xE := by
        rw [hFits.1]
        simp [Instruction.form, Word.Form.ofAll,
          Word.Form.ofClass, Word.Form.ofLast,
          Word.Form.ofLow]
      simp [hClass, keyAsked?]

/- The answer matters only where a key is asked about. -/
theorem execute_of_keyAsked?_eq_none
    (m after : Machine)
    {instruction : Instruction}
    (h : m.keyAsked? instruction = none)
    (held answer : Bool) :
    after.execute held instruction =
      after.execute answer instruction := by
  cases instruction with
  | skipIf test =>
      cases test with
      | keyHeld x => cases h
      | keyFree x => cases h
      | _ => rfl
  | _ => rfl

------------------------------------------------------------
-- Destinations
------------------------------------------------------------

/-
  Whether a word skips the next one. `held` says whether the
  key is held that the word asks about.
-/
def Skips
    (m : Machine)
    (held : Bool)
    (w : Word) : Prop :=
  let x := m.reg (Word.second w)
  let y := m.reg (Word.third w)
  ((Word.Form.ofClass 0x3).Fits w ∧ x = Word.lowByte w) ∨
    ((Word.Form.ofClass 0x4).Fits w ∧
      x ≠ Word.lowByte w) ∨
    ((Word.Form.ofLast 0x5 0x0).Fits w ∧ x = y) ∨
    ((Word.Form.ofLast 0x9 0x0).Fits w ∧ x ≠ y) ∨
    ((Word.Form.ofLow 0xE 0x9E).Fits w ∧ held = true) ∨
    ((Word.Form.ofLow 0xE 0xA1).Fits w ∧ held = false)

instance
    (m : Machine)
    (held : Bool)
    (w : Word) :
    Decidable (m.Skips held w) := by
  unfold Skips
  infer_instance

/-
  The address at which a machine goes on behind a word, if
  there is one: a return leads nowhere outside any call.
-/
def destination?
    (m : Machine)
    (held : Bool)
    (w : Word) : Option Nat :=
  let pc := m.processor.pc.toNat
  if w.toNat / 4096 = 0x1 ∨ w.toNat / 4096 = 0x2 then
    some (w.toNat % 4096)
  else if w.toNat / 4096 = 0xB then
    some
      ((w.toNat % 4096 + (m.reg Register.first).toNat) %
        4096)
  else if w = 0x00EE then
    m.processor.stack.toList.getLast?.map UInt16.toNat
  else if m.Skips held w then
    some ((pc + 4) % 4096)
  else
    some ((pc + 2) % 4096)

------------------------------------------------------------
-- Words At The Counter
------------------------------------------------------------

/- The word at the counter is made of two bytes of memory. -/
theorem toNat_fetch (m : Machine) :
    let pc := m.processor.pc.toNat
    m.fetch.toNat =
      256 * (m.memory.cells.get (Address.ofNat pc)).toNat +
        (m.memory.cells.get
          (Address.ofNat (pc + 1))).toNat :=
  m.memory.toNat_readWord m.processor.pc

------------------------------------------------------------
-- Skips
------------------------------------------------------------

/- A word that tests something skips if the test holds. -/
theorem skips_iff_holds
    {m : Machine}
    {held : Bool}
    {w : Word}
    {test : Test}
    (h : Instruction.decode? w = some (.skipIf test)) :
    m.Skips held w ↔ m.holds held test = true := by
  have hFits : test.form.Fits w :=
    Instruction.fits_form_of_decode? h
  have hEncode : test.encode = w :=
    Instruction.encode_of_decode? h
  unfold Skips
  simp only [Word.fits_ofClass, Word.fits_ofLast,
    Word.fits_ofLow]
  cases test with
  | isByte x byte =>
      have hX : Word.second w = x :=
        hEncode ▸ Word.second_ofByte 0x3 x byte
      have hByte : Word.lowByte w = byte :=
        hEncode ▸ Word.lowByte_ofByte 0x3 x byte
      simp [Word.fits_ofClass.mp hFits, hX, hByte, holds]
  | isNotByte x byte =>
      have hX : Word.second w = x :=
        hEncode ▸ Word.second_ofByte 0x4 x byte
      have hByte : Word.lowByte w = byte :=
        hEncode ▸ Word.lowByte_ofByte 0x4 x byte
      simp [Word.fits_ofClass.mp hFits, hX, hByte, holds]
  | same x y =>
      have hX : Word.second w = x :=
        hEncode ▸ Word.second_ofPair 0x5 x y 0x0
      have hY : Word.third w = y :=
        hEncode ▸ Word.third_ofPair 0x5 x y 0x0
      simp [Word.fits_ofLast.mp hFits, hX, hY, holds]
  | different x y =>
      have hX : Word.second w = x :=
        hEncode ▸ Word.second_ofPair 0x9 x y 0x0
      have hY : Word.third w = y :=
        hEncode ▸ Word.third_ofPair 0x9 x y 0x0
      simp [Word.fits_ofLast.mp hFits, hX, hY, holds]
  | keyHeld x =>
      simp [Word.fits_ofLow.mp hFits, holds]
  | keyFree x =>
      simp [Word.fits_ofLow.mp hFits, holds]

end Machine

------------------------------------------------------------
-- Instructions
------------------------------------------------------------

namespace Instruction

/- Whether an instruction may lead past the next word. -/
def goesElsewhere : Instruction → Bool
  | .returnFromCall => true
  | .jump _ => true
  | .call _ => true
  | .skipIf _ => true
  | .jumpBy _ => true
  | _ => false

/- The classes of all other instructions. -/
theorem class_of_not_goesElsewhere
    {w : Word}
    {instruction : Instruction}
    (h : decode? w = some instruction)
    (hPlain : instruction.goesElsewhere = false) :
    w ≠ 0x00EE ∧
      w.toNat / 4096 ∉
        [0x1, 0x2, 0x3, 0x4, 0x5, 0x9, 0xB, 0xE] := by
  constructor
  · intro hReturn
    rw [decode?_eq_return_iff.mpr hReturn] at h
    cases h
    cases hPlain
  · rw [(fits_form_of_decode? h).1]
    cases instruction with
    | skipIf test => cases hPlain
    | jump target => cases hPlain
    | call target => cases hPlain
    | jumpBy target => cases hPlain
    | _ =>
        simp [form, Word.Form.ofAll, Word.Form.ofClass,
          Word.Form.ofLast, Word.Form.ofLow]

end Instruction

namespace Machine

/- Such an instruction leaves the counter alone. -/
theorem pc_execute_of_not_goesElsewhere
    {m after : Machine}
    {held : Bool}
    {instruction : Instruction}
    (h : m.execute held instruction = .ok after)
    (hPlain : instruction.goesElsewhere = false) :
    after.processor.pc = m.processor.pc := by
  cases instruction with
  | returnFromCall => cases hPlain
  | jump target => cases hPlain
  | call target => cases hPlain
  | skipIf test => cases hPlain
  | jumpBy target => cases hPlain
  | combine op x y =>
      cases h
      cases op with
      | _ => rfl
  | restoreRegisters x =>
      cases h
      rw [m.sameButRegisters_restore x]
  | _ =>
      cases h
      rfl

/- Its word leads to the next one. -/
theorem destination?_of_not_goesElsewhere
    (m : Machine)
    (held : Bool)
    {w : Word}
    {instruction : Instruction}
    (h : Instruction.decode? w = some instruction)
    (hPlain : instruction.goesElsewhere = false) :
    m.destination? held w =
      some ((m.processor.pc.toNat + 2) % 4096) := by
  rcases Instruction.class_of_not_goesElsewhere h hPlain with
    ⟨hReturn, hClass⟩
  simp only [List.mem_cons, List.not_mem_nil, or_false,
    not_or] at hClass
  have hNext : ¬ m.Skips held w := by
    unfold Skips
    simp [Word.fits_ofClass, Word.fits_ofLast,
      Word.fits_ofLow, hClass]
  simp [destination?, hClass, hReturn, hNext]

/- The word of a test leads behind the next one or to it. -/
theorem destination?_of_test
    (m : Machine)
    (held : Bool)
    {w : Word}
    {test : Test}
    (h : Instruction.decode? w = some (.skipIf test)) :
    m.destination? held w =
      if m.holds held test then
        some ((m.processor.pc.toNat + 4) % 4096)
      else
        some ((m.processor.pc.toNat + 2) % 4096) := by
  have hClass :
      w.toNat / 4096 = test.form.leading :=
    (Instruction.fits_form_of_decode? h).1
  have hReturn : w ≠ 0x00EE := by
    intro hWord
    rw [Instruction.decode?_eq_return_iff.mpr hWord] at h
    cases h
  have hOther :
      test.form.leading ≠ 0x1 ∧
        test.form.leading ≠ 0x2 ∧
        test.form.leading ≠ 0xB := by
    cases test with
    | _ =>
        simp [Test.form, Word.Form.ofClass,
          Word.Form.ofLast, Word.Form.ofLow]
  simp only [destination?, hClass, hOther, hReturn, or_self,
    if_false, skips_iff_holds h]

------------------------------------------------------------
-- Counters
------------------------------------------------------------

/- The counter holds where a jump goes to. -/
theorem toNat_pc_jump
    (m : Machine)
    (n : Nat) :
    (m.jump (UInt16.ofNat n)).processor.pc.toNat =
      n % 4096 := by
  change (Processor.wrap (UInt16.ofNat n)).toNat = n % 4096
  rw [Processor.toNat_wrap, UInt16.toNat_ofNat']
  omega

/- A machine that passes a word goes two bytes on. -/
theorem toNat_pc_passWord (m : Machine) :
    m.passWord.processor.pc.toNat =
      (m.processor.pc.toNat + 2) % 4096 := by
  have hLt : (m.processor.pc.toNat + 2) % 4096 < 4096 :=
    Nat.mod_lt _ (by decide)
  rw [passWord, Processor.advance_two,
    UInt16.toNat_ofNat']
  omega

/- A machine that passes two words goes four bytes on. -/
theorem toNat_pc_passWord_passWord (m : Machine) :
    m.passWord.passWord.processor.pc.toNat =
      (m.processor.pc.toNat + 4) % 4096 := by
  rw [toNat_pc_passWord, toNat_pc_passWord]
  omega

/- Passing a word does not change what a test depends on. -/
theorem holds_passWord
    (m : Machine)
    (held : Bool)
    (test : Test) :
    m.passWord.holds held test = m.holds held test := by
  cases test with
  | _ => rfl

/-
  A machine that has passed a word and carries it out without
  a fault goes on where the word leads.
-/
theorem destination?_eq_pc
    {m after : Machine}
    {held : Bool}
    {w : Word}
    {instruction : Instruction}
    (hSound : m.Sound)
    (hWord : Instruction.decode? w = some instruction)
    (h : m.passWord.execute held instruction = .ok after) :
    m.destination? held w =
      some after.processor.pc.toNat := by
  have hFits := Instruction.fits_form_of_decode? hWord
  have hEncode := Instruction.encode_of_decode? hWord
  cases instruction with
  | returnFromCall =>
      rcases exists_pop_of_returnFromCall h with
        ⟨a, stack, hPop, rfl⟩
      have hStack :
          m.processor.stack.toList = stack.toList ++ [a] :=
        CallStack.toList_pop? hPop
      have hInside : a.toNat < 4096 := by
        apply hSound.processor.returns
        rw [hStack]
        exact List.mem_append_right _ List.mem_cons_self
      have hBack :
          ((m.passWord.setStack stack).jump
            a).processor.pc = a :=
        Processor.wrap_of_lt hInside
      cases hEncode
      rw [hBack]
      simp [destination?, Instruction.encode, hStack]
  | jump target =>
      cases h
      have hClass := Word.fits_ofClass.mp hFits
      have hTarget : w.toNat % 4096 = target.val :=
        hEncode ▸ Word.toNat_ofTarget_mod 0x1 target
      rw [toNat_pc_jump, Nat.mod_eq_of_lt target.isLt]
      simp [destination?, hClass, hTarget]
  | call target =>
      rcases exists_push_of_call h with ⟨stack, _, rfl⟩
      have hClass := Word.fits_ofClass.mp hFits
      have hTarget : w.toNat % 4096 = target.val :=
        hEncode ▸ Word.toNat_ofTarget_mod 0x2 target
      rw [toNat_pc_jump, Nat.mod_eq_of_lt target.isLt]
      simp [destination?, hClass, hTarget]
  | jumpBy target =>
      cases h
      have hClass := Word.fits_ofClass.mp hFits
      have hTarget : w.toNat % 4096 = target.val :=
        hEncode ▸ Word.toNat_ofTarget_mod 0xB target
      rw [toNat_pc_jump]
      simp [destination?, hClass, hTarget]
      rfl
  | skipIf test =>
      cases h
      rw [m.destination?_of_test held hWord, holds_passWord]
      split
      · rw [toNat_pc_passWord_passWord]
      · rw [toNat_pc_passWord]
  | _ =>
      rw [m.destination?_of_not_goesElsewhere held hWord rfl,
        pc_execute_of_not_goesElsewhere h rfl,
        toNat_pc_passWord]

end Machine

end ChipEight
