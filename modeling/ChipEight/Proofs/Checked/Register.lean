import ChipEight.Proofs.Checked.Memory
import ChipEight.Proofs.Instruction.Fields
import ChipEight.Proofs.Session.Conduct
import Mathlib.Data.List.FinRange

/-
  Instructions whose registers are looked up by number.

  A number may name no register, and then the look-up faults.
  Here an instruction takes the numbers of its registers from
  the digits of its word and looks every register up that it
  reads or writes, those of a range one by one. The register
  that a key press goes to is looked up, too. No look-up
  faults, so the outcome is the one without look-ups.

  Key definitions include:
    * `ChipEight.Word.numberX`
    * `ChipEight.Word.numberY`
    * `ChipEight.Machine.look`
    * `ChipEight.Machine.put`
    * `ChipEight.Machine.executeByNumber`
    * `ChipEight.Session.stepByNumber`

  Main declarations:
    * `ChipEight.Machine.executeByNumber_eq`
    * `ChipEight.Session.stepByNumber_eq`
-/

namespace ChipEight

------------------------------------------------------------
-- Numbers
------------------------------------------------------------

/- The number of a register. -/
def Register.number (x : Register) : UInt8 :=
  UInt8.ofNat x.val

/- Registers are numbered below sixteen. -/
theorem Register.toNat_number (x : Register) :
    x.number.toNat = x.val := by
  have hLt := x.isLt
  rw [number, UInt8.toNat_ofNat']
  omega

namespace Word

/- The number of the first register operand. -/
def numberX (w : Word) : UInt8 :=
  ((w &&& 0x0F00) >>> 8).toUInt8

/- The number of the second register operand. -/
def numberY (w : Word) : UInt8 :=
  ((w &&& 0x00F0) >>> 4).toUInt8

/- A mask of four bits and a shift single a digit out. -/
theorem and_shiftRight_digit (n k : Nat) :
    (n &&& 15 <<< k) >>> k = n >>> k % 16 := by
  have hMask : 15 <<< k >>> k = 2 ^ 4 - 1 :=
    Nat.shiftLeft_shiftRight 15 k
  rw [Nat.shiftRight_and_distrib, hMask,
    Nat.and_two_pow_sub_one_eq_mod]

/- The first register operand is the second digit. -/
theorem toNat_numberX (w : Word) :
    w.numberX.toNat = w.toNat / 256 % 16 := by
  have hDigit := and_shiftRight_digit w.toNat 8
  rw [Nat.shiftRight_eq_div_pow w.toNat 8] at hDigit
  rw [numberX, UInt16.toNat_toUInt8,
    UInt16.toNat_shiftRight, UInt16.toNat_and]
  change (w.toNat &&& 15 <<< 8) >>> 8 % 256 = _
  omega

/- The second register operand is the third digit. -/
theorem toNat_numberY (w : Word) :
    w.numberY.toNat = w.toNat / 16 % 16 := by
  have hDigit := and_shiftRight_digit w.toNat 4
  rw [Nat.shiftRight_eq_div_pow w.toNat 4] at hDigit
  rw [numberY, UInt16.toNat_toUInt8,
    UInt16.toNat_shiftRight, UInt16.toNat_and]
  change (w.toNat &&& 15 <<< 4) >>> 4 % 256 = _
  omega

/- A word with a byte is numbered by its register. -/
theorem numberX_ofByte
    {c : Nat}
    (x : Register)
    (kk : UInt8)
    (h : c < 16) :
    (ofByte c x kk).numberX = x.number := by
  have hX := x.isLt
  have hByte := kk.toNat_lt
  apply UInt8.toNat_inj.mp
  rw [toNat_numberX, toNat_ofByte x kk h,
    Register.toNat_number]
  omega

/- A word with two registers is numbered by both. -/
theorem numbers_ofPair
    {c n : Nat}
    (x y : Register)
    (h : c < 16)
    (hLast : n < 16) :
    (ofPair c x y n).numberX = x.number ∧
      (ofPair c x y n).numberY = y.number := by
  have hX := x.isLt
  have hY := y.isLt
  constructor
  · apply UInt8.toNat_inj.mp
    rw [toNat_numberX, toNat_ofPair x y h hLast,
      Register.toNat_number]
    omega
  · apply UInt8.toNat_inj.mp
    rw [toNat_numberY, toNat_ofPair x y h hLast,
      Register.toNat_number]
    omega

end Word

namespace Machine

------------------------------------------------------------
-- Look-Ups
------------------------------------------------------------

/- The byte in the register of a number. -/
def look
    (m : Machine)
    (number : UInt8) : Except Fault UInt8 :=
  m.processor.get? number

/- Put a byte into the register of a number. -/
def put
    (m : Machine)
    (number value : UInt8) : Except Fault Machine := do
  let processor ← m.processor.set? number value
  return { m with processor := processor }

/- The number of a register finds it. -/
theorem look_number
    (m : Machine)
    (x : Register) :
    m.look x.number = pure (m.reg x) := by
  have hNumber := x.toNat_number
  simp only [look, Processor.get?, hNumber, dif_pos x.isLt]
  rfl

/- So it does when a byte is put there. -/
theorem put_number
    (m : Machine)
    (x : Register)
    (value : UInt8) :
    m.put x.number value = pure (m.setReg x value) := by
  have hNumber := x.toNat_number
  simp only [put, Processor.set?, hNumber, dif_pos x.isLt]
  rfl

------------------------------------------------------------
-- Parts Of Instructions
------------------------------------------------------------

/- Set the flag register to one or zero. -/
def putFlag
    (m : Machine)
    (on : Bool) : Except Fault Machine :=
  m.put 0xF (if on then 1 else 0)

/- Leave a result in a register, and then a flag. -/
def putResult
    (m : Machine)
    (x result : UInt8)
    (flag : Bool) : Except Fault Machine := do
  let m ← m.put x result
  m.putFlag flag

/- Leave a flag, and then a result in a register. -/
def putShifted
    (m : Machine)
    (x result : UInt8)
    (out : Bool) : Except Fault Machine := do
  let m ← m.putFlag out
  m.put x result

/- The key whose state a test depends on. -/
def keyTestedByNumber?
    (m : Machine)
    (x : UInt8) : Test → Except Fault (Option UInt8)
  | .keyHeld _ => do return some ((← m.look x) &&& 0xF)
  | .keyFree _ => do return some ((← m.look x) &&& 0xF)
  | _ => pure none

/- Whether a test holds. -/
def holdsByNumber
    (m : Machine)
    (held : Bool)
    (x y : UInt8) : Test → Except Fault Bool
  | .isByte _ byte => do return (← m.look x) == byte
  | .isNotByte _ byte => do return (← m.look x) != byte
  | .same _ _ => do return (← m.look x) == (← m.look y)
  | .different _ _ => do
      return (← m.look x) != (← m.look y)
  | .keyHeld _ => pure held
  | .keyFree _ => pure !held

/- The machine after an operator on two registers. -/
def combineByNumber
    (m : Machine)
    (x y : UInt8) : Operator → Except Fault Machine
  | .move => do
      m.put x (← m.look y)
  | .or => do
      m.put x ((← m.look x) ||| (← m.look y))
  | .and => do
      m.put x ((← m.look x) &&& (← m.look y))
  | .xor => do
      m.put x ((← m.look x) ^^^ (← m.look y))
  | .add => do
      let a ← m.look x
      let b ← m.look y
      m.putResult x (a + b) (carries a b)
  | .subtract => do
      let a ← m.look x
      let b ← m.look y
      m.putResult x (a - b) (b ≤ a)
  | .shiftRight => do
      let a ← m.look x
      m.putShifted x (a >>> 1) (a &&& 1 == 1)
  | .subtractFrom => do
      let a ← m.look x
      let b ← m.look y
      m.putResult x (b - a) (a ≤ b)
  | .shiftLeft => do
      let a ← m.look x
      m.putShifted x (a <<< 1) (a >>> 7 == 1)

/- Write bytes to memory from the index on. -/
def storeBytes
    (m : Machine)
    (bytes : List UInt8) : Machine :=
  { m with memory := m.memory.writeAll (m.atIndex bytes) }

/- Draw the sprite at the index and flag a collision. -/
def drawByNumber
    (m : Machine)
    (x y : UInt8)
    (rows : Nat) : Except Fault Machine := do
  let a ← m.look x
  let b ← m.look y
  let sprite := m.memory.readRange m.processor.index rows
  let frame := m.frame.blit a b sprite
  { m with frame := frame }.putFlag
    (m.frame.collides a b sprite)

/- The bytes of the registers from the first one to another. -/
def lookTo
    (m : Machine)
    (x : UInt8) : Except Fault (List UInt8) :=
  (List.range (x.toNat + 1)).mapM
    (fun k => m.look (UInt8.ofNat k))

/- Fill the registers up to one of them from the index on. -/
def restoreByNumber
    (m : Machine)
    (x : UInt8) : Except Fault Machine :=
  (List.range (x.toNat + 1)).foldlM
    (fun n k =>
      n.put (UInt8.ofNat k)
        (m.memory.read
          (m.processor.index + UInt16.ofNat k)))
    m

/- The flag is put into a register. -/
theorem putFlag_eq
    (m : Machine)
    (on : Bool) :
    m.putFlag on = pure (m.setFlag on) :=
  m.put_number Register.flag _

/- Operators find their registers. -/
theorem combineByNumber_eq
    (m : Machine)
    (x y : Register)
    (op : Operator) :
    m.combineByNumber x.number y.number op =
      pure (m.combine op x y) := by
  cases op with
  | _ =>
      simp only [combineByNumber, putResult, putShifted,
        look_number, put_number, putFlag_eq, pure_bind]
      rfl

/- The registers of a range are numbered from zero on. -/
theorem map_val_registersTo (x : Register) :
    (registersTo x).map Fin.val =
      List.range (x.number.toNat + 1) := by
  have hLt := x.isLt
  rw [registersTo, List.map_take,
    List.map_coe_finRange_eq_range, List.take_range,
    Register.toNat_number, Nat.min_eq_left hLt]

/- All registers of a range are found. -/
theorem lookTo_eq
    (m : Machine)
    (x : Register) :
    m.lookTo x.number =
      pure ((registersTo x).map m.reg) := by
  rw [lookTo, ← map_val_registersTo, List.mapM_map]
  apply Checked.mapM_eq_pure_map
  intro r _
  exact m.look_number r

/- All registers of a range can be filled. -/
theorem restoreByNumber_eq
    (m : Machine)
    (x : Register) :
    m.restoreByNumber x.number = pure (m.restore x) := by
  rw [restoreByNumber, ← map_val_registersTo,
    List.foldlM_map]
  refine Checked.foldlM_eq_pure_foldl
    (fun _ => True) ?_ ?_ trivial
  · intro n r _ _
    exact n.put_number r _
  · intro n r _
    trivial

------------------------------------------------------------
-- Instructions
------------------------------------------------------------

/-
  The machine after an instruction whose registers have the
  numbers `x` and `y`. Instructions that name no register are
  carried out as ever.
-/
def executeByNumber
    (m : Machine)
    (held : Bool)
    (x y : UInt8) : Instruction → Except Fault Machine
  | .skipIf test => do
      let skips ← m.holdsByNumber held x y test
      return if skips then m.passWord else m
  | .load _ byte => m.put x byte
  | .addByte _ byte => do
      let a ← m.look x
      m.putResult x (a + byte) (carries a byte)
  | .combine op _ _ => m.combineByNumber x y op
  | .jumpBy target => do
      let a ← m.look 0
      return m.jump (UInt16.ofNat (target.val + a.toNat))
  | .random _ mask =>
      let (byte, m) := m.takeRandom
      m.put x (byte &&& mask)
  | .draw _ _ rows => m.drawByNumber x y rows.val
  | .readDelay _ => m.put x m.timers.delay
  | .setDelay _ => do
      let a ← m.look x
      pure { m with timers := { m.timers with delay := a } }
  | .setSound _ => do
      let a ← m.look x
      pure { m with timers := { m.timers with sound := a } }
  | .addIndex _ => do
      let a ← m.look x
      return m.setIndex
        (Processor.wrap (m.processor.index + a.toUInt16))
  | .pointAtGlyph _ => do
      let a ← m.look x
      return m.setIndex (Font.glyphAddress a)
  | .storeDecimal _ => do
      let a ← m.look x
      return m.storeBytes (decimalDigits a)
  | .saveRegisters _ => do
      let bytes ← m.lookTo x
      return m.storeBytes bytes
  | .restoreRegisters _ => m.restoreByNumber x
  | other => m.execute held other

/- Tests find their registers. -/
theorem holdsByNumber_eq
    (m : Machine)
    (held : Bool)
    (test : Test) :
    m.holdsByNumber held test.encode.numberX
        test.encode.numberY test =
      pure (m.holds held test) := by
  cases test with
  | isByte x byte | isNotByte x byte =>
      rw [Test.encode,
        Word.numberX_ofByte x byte (by decide)]
      simp only [holdsByNumber, look_number, pure_bind]
      rfl
  | same x y =>
      rcases Word.numbers_ofPair x y
          (show 0x5 < 16 by decide)
          (show 0x0 < 16 by decide) with
        ⟨hX, hY⟩
      rw [Test.encode, hX, hY]
      simp only [holdsByNumber, look_number, pure_bind]
      rfl
  | different x y =>
      rcases Word.numbers_ofPair x y
          (show 0x9 < 16 by decide)
          (show 0x0 < 16 by decide) with
        ⟨hX, hY⟩
      rw [Test.encode, hX, hY]
      simp only [holdsByNumber, look_number, pure_bind]
      rfl
  | keyHeld x => rfl
  | keyFree x => rfl

/- So do the keys that tests ask about. -/
theorem keyTestedByNumber?_eq
    (m : Machine)
    (test : Test) :
    m.keyTestedByNumber? test.encode.numberX test =
      pure (m.keyTested? test) := by
  cases test with
  | keyHeld x | keyFree x =>
      rw [Test.encode,
        Word.numberX_ofByte x _ (by decide)]
      simp only [keyTestedByNumber?, look_number, pure_bind]
      rfl
  | _ => rfl

/-
  Every instruction finds its registers by the digits of its
  word.
-/
theorem executeByNumber_eq
    {m : Machine}
    {held : Bool}
    {w : Word}
    {instruction : Instruction}
    (h : Instruction.decode? w = some instruction) :
    m.executeByNumber held w.numberX w.numberY instruction =
      m.execute held instruction := by
  have hWord := Instruction.encode_of_decode? h
  clear h
  subst hWord
  cases instruction with
  | skipIf test =>
      rw [Instruction.encode, executeByNumber,
        holdsByNumber_eq, pure_bind]
      rfl
  | load x byte =>
      rw [Instruction.encode,
        Word.numberX_ofByte x byte (by decide)]
      exact m.put_number x byte
  | addByte x byte =>
      rw [Instruction.encode,
        Word.numberX_ofByte x byte (by decide)]
      simp only [executeByNumber, putResult, look_number,
        put_number, putFlag_eq, pure_bind]
      rfl
  | combine op x y =>
      rcases Word.numbers_ofPair x y
          (show 0x8 < 16 by decide) op.code_lt with
        ⟨hX, hY⟩
      rw [Instruction.encode, hX, hY]
      exact m.combineByNumber_eq x y op
  | jumpBy target =>
      have hFirst : 0 = Register.first.number := rfl
      rw [executeByNumber, hFirst, look_number, pure_bind]
      rfl
  | random x mask =>
      rw [Instruction.encode,
        Word.numberX_ofByte x mask (by decide)]
      exact m.takeRandom.2.put_number x _
  | draw x y rows =>
      rcases Word.numbers_ofPair x y
          (show 0xD < 16 by decide) rows.isLt with
        ⟨hX, hY⟩
      rw [Instruction.encode, hX, hY]
      simp only [executeByNumber, drawByNumber, look_number,
        putFlag_eq, pure_bind]
      rfl
  | readDelay x =>
      rw [Instruction.encode,
        Word.numberX_ofByte x _ (by decide)]
      exact m.put_number x _
  | restoreRegisters x =>
      rw [Instruction.encode,
        Word.numberX_ofByte x _ (by decide)]
      exact m.restoreByNumber_eq x
  | saveRegisters x =>
      rw [Instruction.encode,
        Word.numberX_ofByte x _ (by decide),
        executeByNumber, lookTo_eq, pure_bind]
      rfl
  | setDelay x | setSound x | addIndex x | pointAtGlyph x
  | storeDecimal x =>
      rw [Instruction.encode,
        Word.numberX_ofByte x _ (by decide),
        executeByNumber, look_number, pure_bind]
      rfl
  | _ => rfl

/- The key whose state an instruction depends on. -/
def keyAskedByNumber?
    (m : Machine)
    (x : UInt8) : Instruction → Except Fault (Option UInt8)
  | .skipIf test => m.keyTestedByNumber? x test
  | _ => pure none

/- The key asked about is found by a digit of the word. -/
theorem keyAskedByNumber?_eq
    {m : Machine}
    {w : Word}
    {instruction : Instruction}
    (h : Instruction.decode? w = some instruction) :
    m.keyAskedByNumber? w.numberX instruction =
      pure (m.keyAsked? instruction) := by
  have hWord := Instruction.encode_of_decode? h
  clear h
  subst hWord
  cases instruction with
  | skipIf test => exact m.keyTestedByNumber?_eq test
  | _ => rfl

end Machine

namespace Session

variable {κ : Type} [Controls κ]

------------------------------------------------------------
-- Steps
------------------------------------------------------------

/-
  Take a key press, if there is one, and store the key in the
  register of a number.
-/
def receiveKeyByNumber
    (s : Session κ)
    (x : Register) : Session κ × Option Fault :=
  let (press, s) := s.takePress
  match press with
  | none => (s, none)
  | some key =>
      let s := s.note (.keyStored key x)
      match s.engine.machine.put x.number (key &&& 0xF) with
      | .error fault => (s.crash fault, some fault)
      | .ok after =>
          ((s.setMachine after).setMode .running, none)

/- Carry out an instruction with the numbers of a word. -/
def performByNumber
    (s : Session κ)
    (w : Word)
    (instruction : Instruction) :
    Session κ × Option Fault :=
  let m := s.engine.machine
  match m.keyAskedByNumber? w.numberX instruction with
  | .error fault => (s.crash fault, some fault)
  | .ok key =>
      let (held, s) := s.askKey key
      match
          m.passWord.executeByNumber held w.numberX w.numberY
            instruction with
      | .error fault => (s.crash fault, some fault)
      | .ok after =>
          let s := s.noteAll (m.remarks instruction)
          let s := s.setMachine after
          let s := s.attend instruction.aftermath
          (s.followTone, none)

/- Carry out the word that the counter points at. -/
def runWordByNumber
    (s : Session κ) : Session κ × Option Fault :=
  let address := s.engine.machine.processor.pc
  let word := s.engine.machine.fetch
  match Instruction.decode? word with
  | none =>
      let fault := Fault.undefinedWord word address
      (s.crash fault, some fault)
  | some instruction =>
      let line := { address := address, word := word }
      (s.note (.executing line)).performByNumber word
        instruction

/- One step; a halted engine does nothing. -/
def stepByNumber
    (s : Session κ) : Session κ × Option Fault :=
  match s.engine.mode with
  | .halted => (s, none)
  | mode =>
      let (quit, s) := s.askQuit
      if quit then
        ((s.note .quitRequested).halt, none)
      else
        match mode with
        | .awaitingKey x => s.receiveKeyByNumber x
        | _ => s.runWordByNumber

/- A key press finds its register. -/
theorem receiveKeyByNumber_eq
    (s : Session κ)
    (x : Register) :
    s.receiveKeyByNumber x = (s.receiveKey x, none) := by
  cases hPress : s.takePress.1 with
  | none =>
      rw [receiveKey_of_none hPress]
      simp only [receiveKeyByNumber, hPress]
  | some key =>
      rw [receiveKey_of_some hPress]
      simp only [receiveKeyByNumber, hPress,
        Machine.put_number]
      rfl

/- So does an instruction. -/
theorem performByNumber_eq
    {s : Session κ}
    {w : Word}
    {instruction : Instruction}
    (h : Instruction.decode? w = some instruction) :
    s.performByNumber w instruction =
      s.perform instruction := by
  have hKey :
      s.engine.machine.keyAskedByNumber? w.numberX
          instruction =
        pure (s.engine.machine.keyAsked? instruction) :=
    Machine.keyAskedByNumber?_eq h
  cases hRun : s.attempt instruction with
  | error fault =>
      rw [perform_of_error hRun]
      unfold attempt askFor at hRun
      simp only [performByNumber, hKey, pure, Except.pure,
        Machine.executeByNumber_eq h, hRun, askFor]
  | ok after =>
      rw [perform_of_ok hRun]
      unfold attempt askFor at hRun
      simp only [performByNumber, hKey, pure, Except.pure,
        Machine.executeByNumber_eq h, hRun, askFor]

/- So does a word. -/
theorem runWordByNumber_eq (s : Session κ) :
    s.runWordByNumber = s.runWord := by
  cases hWord :
      Instruction.decode? s.engine.machine.fetch with
  | none =>
      rw [runWord_of_none hWord]
      simp only [runWordByNumber, hWord]
  | some instruction =>
      rw [runWord_of_some hWord]
      simp only [runWordByNumber, hWord,
        performByNumber_eq hWord]

/- A step finds every register by its number. -/
theorem stepByNumber_eq (s : Session κ) :
    s.stepByNumber = s.step := by
  unfold stepByNumber step
  cases s.engine.mode with
  | running => simp only [runWordByNumber_eq]
  | awaitingKey x => simp only [receiveKeyByNumber_eq]
  | halted => rfl

end Session

end ChipEight
