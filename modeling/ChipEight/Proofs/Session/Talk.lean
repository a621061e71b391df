import ChipEight.Proofs.Console.Conversation
import ChipEight.Proofs.Console.Picture
import ChipEight.Proofs.Session.Causes
import ChipEight.Proofs.Session.Destination

/-
  What one step says to the console.

  A step that is made at all asks whether to quit, and then
  there is one exchange more at the most. Which one it is can
  be told from the digits of the word: whether it awaits a
  key, asks about one, draws, or sets the sound timer. Since
  the tone follows the timer before the step, it is switched
  by a word that sets the timer and by no other.

  Key definitions include:
    * `ChipEight.Word.AwaitsKey`
    * `ChipEight.Word.SetsSound`
    * `ChipEight.Timers.toneSwitched?`
    * `ChipEight.Word.Speaks`
    * `ChipEight.Session.saidByWord`
    * `ChipEight.Session.saidByStep`

  Main declarations:
    * `ChipEight.Machine.timers_execute`
    * `ChipEight.Machine.not_meets_of_speaks`
    * `ChipEight.Session.exchanges_step`
    * `ChipEight.Session.step_says_one_more`
-/

namespace ChipEight

------------------------------------------------------------
-- Words
------------------------------------------------------------

namespace Word

/- Whether a word awaits a key press: `Fx0A`. -/
def AwaitsKey (w : Word) : Prop :=
  (Form.ofLow 0xF 0x0A).Fits w

instance (w : Word) : Decidable w.AwaitsKey := by
  unfold AwaitsKey
  infer_instance

/- Whether a word sets the sound timer: `Fx18`. -/
def SetsSound (w : Word) : Prop :=
  (Form.ofLow 0xF 0x18).Fits w

instance (w : Word) : Decidable w.SetsSound := by
  unfold SetsSound
  infer_instance

end Word

/- The low byte tells what a word of class `F` is. -/
theorem Instruction.decode?_of_fits_device
    {w : Word}
    (kk : UInt8)
    (h : (Word.Form.ofLow 0xF kk.toNat).Fits w) :
    decode? w = decodeDevice? (Word.second w) kk := by
  rcases Word.fits_ofLow.mp h with ⟨hClass, hLow⟩
  have hLeading : Word.leading w = 0xF :=
    Word.leading_eq_iff.mpr hClass
  have hByte : Word.lowByte w = kk :=
    Word.lowByte_eq_iff.mpr hLow
  have hWord := Word.ofByte_lowByte w
  rw [hLeading, hByte] at hWord
  calc decode? w
      = decode? (Word.ofByte 0xF (Word.second w) kk) :=
        congrArg decode? hWord.symm
    _ = decodeDevice? (Word.second w) kk :=
        decode?_ofByte_device _ kk

/- The words that await a key are those with a wait behind. -/
theorem Word.awaitsKey_iff
    {w : Word}
    {instruction : Instruction}
    (h : Instruction.decode? w = some instruction) :
    w.AwaitsKey ↔
      ∃ x, instruction.aftermath = .awaitKey x := by
  constructor
  · intro hFits
    have hCode := Instruction.decode?_of_fits_device 0x0A hFits
    rw [h] at hCode
    cases hCode
    exact ⟨_, rfl⟩
  · rintro ⟨x, hAftermath⟩
    have hFits := Instruction.fits_form_of_decode? h
    cases instruction with
    | awaitKey y => exact hFits
    | _ => cases hAftermath

/- What sets the sound timer is told by its word. -/
theorem Word.setsSound_of_decode?
    {w : Word}
    {x : Register}
    (h : Instruction.decode? w = some (.setSound x)) :
    w.SetsSound :=
  Instruction.fits_form_of_decode? h

------------------------------------------------------------
-- Tones
------------------------------------------------------------

/-
  What is told of the tone if timers are replaced by others:
  that it starts with the sound timer or stops with it.
-/
def Timers.toneSwitched?
    (before after : Timers) : Option Exchange :=
  if before.sound = 0 ∧ after.sound ≠ 0 then
    some .toneStarted
  else if before.sound ≠ 0 ∧ after.sound = 0 then
    some .toneStopped
  else
    none

/- A tone that followed the timers before is switched so. -/
theorem toneSwitch_audible (before after : Timers) :
    toneSwitch before.audible after.audible =
      (before.toneSwitched? after).toList := by
  unfold toneSwitch Timers.toneSwitched? Timers.audible
  by_cases hBefore : before.sound = 0
  · by_cases hAfter : after.sound = 0
    · simp [hBefore, hAfter]
    · simp [hBefore, hAfter]
  · have hSounds : (before.sound != 0) = true :=
      bne_iff_ne.mpr hBefore
    by_cases hAfter : after.sound = 0
    · simp [hBefore, hAfter]
    · have hGoesOn : (after.sound != 0) = true :=
        bne_iff_ne.mpr hAfter
      simp [hBefore, hAfter, hSounds, hGoesOn]

/- It is left alone as long as the sound timer is. -/
theorem Timers.toneSwitched?_of_same
    {before after : Timers}
    (h : after.sound = before.sound) :
    before.toneSwitched? after = none := by
  unfold toneSwitched?
  rw [h]
  simp

/- It starts with the sound timer. -/
theorem Timers.toneSwitched?_eq_started_iff
    {before after : Timers} :
    before.toneSwitched? after = some .toneStarted ↔
      before.sound = 0 ∧ after.sound ≠ 0 := by
  unfold toneSwitched?
  by_cases hStarts : before.sound = 0 ∧ after.sound ≠ 0
  · simp [hStarts]
  · rw [if_neg hStarts]
    simp [hStarts]

/- It stops with the sound timer. -/
theorem Timers.toneSwitched?_eq_stopped_iff
    {before after : Timers} :
    before.toneSwitched? after = some .toneStopped ↔
      before.sound ≠ 0 ∧ after.sound = 0 := by
  unfold toneSwitched?
  by_cases hStops : before.sound ≠ 0 ∧ after.sound = 0
  · simp [hStops]
  · rw [if_neg hStops]
    simp [hStops]

/- One instruction sets the sound timer, and no other. -/
theorem Machine.timers_execute
    {m after : Machine}
    {held : Bool}
    {instruction : Instruction}
    (h : m.execute held instruction = .ok after)
    (hNot : ∀ x, instruction ≠ .setSound x) :
    after.timers.sound = m.timers.sound := by
  cases instruction with
  | setSound x => exact absurd rfl (hNot x)
  | returnFromCall =>
      rw [sameButProcessor_returnFromCall h]
  | call target => rw [sameButProcessor_call h]
  | combine op x y =>
      cases h
      rw [m.sameButProcessor_combine op x y]
  | restoreRegisters x =>
      cases h
      rw [m.sameButProcessor_restore x]
  | skipIf test =>
      cases h
      rw [m.sameButProcessor_skip]
  | _ =>
      cases h
      rfl

------------------------------------------------------------
-- Exchanges Of A Word
------------------------------------------------------------

section

variable {w : Word}
variable {instruction : Instruction}
variable (h : Instruction.decode? w = some instruction)
include h

/- What is said after a word is told by its digits. -/
theorem tells_of_decode?
    (after : Machine)
    (press : Option UInt8) :
    instruction.aftermath.tells after press =
      if w.AwaitsKey then
        [.pressTaken press]
      else if w.draws then
        [.frameShown after.frame]
      else
        [] := by
  have hAwaits := Word.awaitsKey_iff h
  have hDraws := Word.draws_iff h
  cases hAftermath : instruction.aftermath with
  | goOn => simp_all [Aftermath.tells]
  | showFrame => simp_all [Aftermath.tells]
  | awaitKey x => simp_all [Aftermath.tells]

/- So is what is told of the tone, if it followed before. -/
theorem toneSwitch_of_decode?
    {m after : Machine}
    {held : Bool}
    (hRun :
      m.passWord.execute held instruction = .ok after) :
    toneSwitch m.timers.audible after.timers.audible =
      if w.SetsSound then
        (m.timers.toneSwitched? after.timers).toList
      else
        [] := by
  rw [toneSwitch_audible]
  split
  · rfl
  · rename_i hNot
    have hSound : after.timers.sound = m.timers.sound := by
      apply Machine.timers_execute hRun
      rintro x rfl
      exact hNot (Word.setsSound_of_decode? h)
    rw [Timers.toneSwitched?_of_same hSound]
    rfl

end

------------------------------------------------------------
-- Kinds Of Words
------------------------------------------------------------

namespace Word

/- A word that asks about a key is of class `E`. -/
theorem class_of_asksForKey
    {w : Word}
    (h : w.AsksForKey) :
    w.toNat / 4096 = 0xE := by
  rcases h with hHeld | hFree
  · exact hHeld.1
  · exact hFree.1

/- One that sets the sound timer is of class `F`. -/
theorem class_of_setsSound
    {w : Word}
    (h : w.SetsSound) :
    w.toNat / 4096 = 0xF :=
  h.1

/- One that draws is of neither. -/
theorem class_of_draws
    {w : Word}
    (h : w.draws = true) :
    w.toNat / 4096 ≠ 0xE ∧ w.toNat / 4096 ≠ 0xF := by
  unfold draws at h
  rw [Bool.or_eq_true, beq_iff_eq, beq_iff_eq] at h
  rcases h with rfl | hClass
  · decide
  · omega

/- A word that awaits a key is of no other kind. -/
theorem AwaitsKey.excludes
    {w : Word}
    (h : w.AwaitsKey) :
    ¬ w.AsksForKey ∧ ¬ w.SetsSound := by
  rcases fits_ofLow.mp h with ⟨hClass, hLow⟩
  constructor
  · intro hAsks
    have hOther := class_of_asksForKey hAsks
    omega
  · intro hSets
    have hOther := (fits_ofLow.mp hSets).2
    omega

/- Nor is one that asks about a key. -/
theorem AsksForKey.excludes
    {w : Word}
    (h : w.AsksForKey) :
    ¬ w.draws = true ∧ ¬ w.SetsSound := by
  have hClass := class_of_asksForKey h
  constructor
  · intro hDraws
    exact (class_of_draws hDraws).1 hClass
  · intro hSets
    have hOther := class_of_setsSound hSets
    omega

/- Nor is one that draws. -/
theorem not_setsSound_of_draws
    {w : Word}
    (h : w.draws = true) :
    ¬ w.SetsSound := by
  intro hSets
  exact (class_of_draws h).2 (class_of_setsSound hSets)

/-
  So of what can be said for a word of each kind, one thing
  is said at the most.
-/
theorem said_eq
    (w : Word)
    (press held shown : Exchange)
    (switched : Option Exchange) :
    (if w.AsksForKey then [held] else []) ++
          (if w.AwaitsKey then
            [press]
          else if w.draws then
            [shown]
          else
            []) ++
        (if w.SetsSound then switched.toList else []) =
      (if w.AwaitsKey then
        some press
      else if w.AsksForKey then
        some held
      else if w.draws then
        some shown
      else if w.SetsSound then
        switched
      else
        none).toList := by
  by_cases hAwaits : w.AwaitsKey
  · rcases hAwaits.excludes with ⟨hNotAsks, hNotSets⟩
    simp [hAwaits, hNotAsks, hNotSets]
  · by_cases hAsks : w.AsksForKey
    · rcases hAsks.excludes with ⟨hNotDraws, hNotSets⟩
      simp [hAwaits, hAsks, hNotDraws, hNotSets]
    · by_cases hDraws : w.draws = true
      · have hNotSets := not_setsSound_of_draws hDraws
        simp [hAwaits, hAsks, hDraws, hNotSets]
      · by_cases hSets : w.SetsSound
        · simp [hAwaits, hAsks, hDraws, hSets]
        · simp [hAwaits, hAsks, hDraws, hSets]

/- Whether a word has something to say to the console. -/
def Speaks (w : Word) : Prop :=
  w.AwaitsKey ∨ w.AsksForKey ∨ w.draws = true ∨ w.SetsSound

/- Such words are used, and they neither call nor return. -/
theorem Speaks.used
    {w : Word}
    (h : w.Speaks) :
    ¬ w.IsUnused ∧
      w.toNat / 4096 ≠ 0x2 ∧
      w.toNat ≠ 0x00EE := by
  have hNumbers :
      (w.toNat / 4096 = 0xF ∧
          (w.toNat % 256 = 0x0A ∨ w.toNat % 256 = 0x18)) ∨
        (w.toNat / 4096 = 0xE ∧
          (w.toNat % 256 = 0x9E ∨ w.toNat % 256 = 0xA1)) ∨
        w.toNat = 0x00E0 ∨
        w.toNat / 4096 = 0xD := by
    rcases h with hAwaits | (hHeld | hFree) | hDraws | hSets
    · have hFits := fits_ofLow.mp hAwaits
      omega
    · have hFits := fits_ofLow.mp hHeld
      omega
    · have hFits := fits_ofLow.mp hFree
      omega
    · unfold draws at hDraws
      rw [Bool.or_eq_true, beq_iff_eq, beq_iff_eq] at hDraws
      rcases hDraws with rfl | hClass
      · decide
      · omega
    · have hFits := fits_ofLow.mp hSets
      omega
  unfold IsUnused
  simp only [List.mem_cons, List.not_mem_nil, or_false]
  omega

end Word

/- So they meet no fault. -/
theorem Machine.not_meets_of_speaks
    {m : Machine}
    (h : Word.Speaks m.fetch)
    (fault : Fault) :
    ¬ m.Meets fault := by
  rcases h.used with ⟨hUsed, hNoCall, hNoReturn⟩
  cases fault with
  | undefinedWord word address =>
      rintro ⟨rfl, _, hUnused⟩
      exact hUsed hUnused
  | stackOverflow =>
      rintro ⟨hCall, _⟩
      exact hNoCall hCall
  | returnOutsideCall =>
      rintro ⟨hReturn, _⟩
      rw [hReturn] at hNoReturn
      exact hNoReturn rfl
  | _ => exact not_false

------------------------------------------------------------
-- Steps
------------------------------------------------------------

namespace Session

variable {κ : Type} [Controls κ]

/-
  What is said for a word that is carried out, besides the
  question whether to quit: the taking of a press, a question
  about the key in the low digit of a register, the picture
  there is then, or a switch of the tone.
-/
def saidByWord (s : Session κ) : Option Exchange :=
  let m := s.engine.machine
  let after := s.step.1.engine.machine
  let controls := (Controls.wantsQuit s.controls).2
  let w := m.fetch
  if Word.AwaitsKey w then
    some (.pressTaken (Controls.takePress controls).1)
  else if Word.AsksForKey w then
    some (.keyAsked (m.keyNamed w) s.heldAnswer)
  else if Word.draws w then
    some (.frameShown after.frame)
  else if Word.SetsSound w then
    m.timers.toneSwitched? after.timers
  else
    none

/-
  What is said by a step, besides the question whether to
  quit: nothing if the player quits or a fault is met, the
  taking of a press if a key is awaited, and else what is said
  for the word.
-/
def saidByStep (s : Session κ) : Option Exchange :=
  let (quit, controls) := Controls.wantsQuit s.controls
  if quit then
    none
  else
    match s.engine.mode with
    | .halted => none
    | .awaitingKey _ =>
        some (.pressTaken (Controls.takePress controls).1)
    | .running =>
        if s.step.2 = none then s.saidByWord else none

/- A wait takes a press, if there is one or not. -/
theorem exchanges_receiveKey
    (s : Session κ)
    (x : Register) :
    (s.receiveKey x).exchanges =
      s.exchanges.push (.pressTaken s.takePress.1) := by
  cases hPress : s.takePress.1 with
  | none =>
      rw [receiveKey_of_none hPress, ← hPress]
      rfl
  | some key =>
      rw [receiveKey_of_some hPress, ← hPress]
      rfl

/- The press that a word takes that awaits a key. -/
theorem press_of_awaitsKey
    {s : Session κ}
    {instruction : Instruction}
    (hWord :
      Instruction.decode? s.engine.machine.fetch =
        some instruction)
    (hAwaits : Word.AwaitsKey s.engine.machine.fetch)
    (after : Machine) :
    (s.announcing.carried instruction after).takePress.1 =
      (Controls.takePress
        (Controls.wantsQuit s.controls).2).1 := by
  have hAsked :=
    s.engine.machine.keyAsked?_of_decode? hWord
  rw [if_neg hAwaits.excludes.1] at hAsked
  have hControls :
      (s.announcing.carried instruction after).controls =
        (Controls.wantsQuit s.controls).2 := by
    have hNone :
        s.announcing.engine.machine.keyAsked? instruction =
          none :=
      hAsked
    rw [carried, setMachine, controls_noteAll, askFor, hNone]
    rfl
  rw [← hControls]
  rfl

/- A step that carries its word out says this. -/
theorem exchanges_step_of_attempt
    {s : Session κ}
    {instruction : Instruction}
    {after : Machine}
    (hTone :
      s.engine.toneOn = s.engine.machine.timers.audible)
    (hDecoded : s.decoded? = some instruction)
    (hAttempt :
      s.announcing.attempt instruction = .ok after) :
    s.step.1.exchanges.toList =
      s.exchanges.toList ++
        .quitAsked false :: s.saidByWord.toList := by
  rcases decoded?_eq_some_iff.mp hDecoded with
    ⟨hMode, hQuit, hWord⟩
  have hRunning : s.announcing.engine.mode = .running :=
    hMode
  have hAfter : s.step.1.engine.machine = after := by
    rw [step_of_decoded hDecoded,
      engine_perform_of_ok hRunning hAttempt]
  have hBefore :
      s.announcing.exchanges.toList =
        s.exchanges.toList ++ [.quitAsked false] := by
    rw [← hQuit]
    exact Array.toList_push
  have hAsks := s.asks_announcing hWord
  have hTells :
      instruction.aftermath.tells after
          (s.announcing.carried instruction
            after).takePress.1 =
        if Word.AwaitsKey s.engine.machine.fetch then
          [.pressTaken
            (Controls.takePress
              (Controls.wantsQuit s.controls).2).1]
        else if Word.draws s.engine.machine.fetch then
          [.frameShown after.frame]
        else
          [] := by
    rw [tells_of_decode? hWord]
    split
    · rename_i hAwaits
      rw [press_of_awaitsKey hWord hAwaits]
    · rfl
  have hSwitch :
      toneSwitch s.engine.toneOn after.timers.audible =
        if Word.SetsSound s.engine.machine.fetch then
          (s.engine.machine.timers.toneSwitched?
            after.timers).toList
        else
          [] := by
    rw [hTone]
    exact
      toneSwitch_of_decode? hWord
        ((s.attempt_announcing hWord).symm.trans hAttempt)
  calc s.step.1.exchanges.toList
      = s.announcing.exchanges.toList ++
          (s.engine.machine.asks instruction
              (s.announcing.askFor instruction).1 ++
            instruction.aftermath.tells after
              (s.announcing.carried instruction
                after).takePress.1 ++
            toneSwitch s.engine.toneOn
              after.timers.audible) := by
        rw [step_of_decoded hDecoded]
        exact exchanges_perform hAttempt
    _ = s.exchanges.toList ++ [.quitAsked false] ++
          s.saidByWord.toList := by
        rw [hBefore, hAsks, hTells, hSwitch, Word.said_eq,
          saidByWord, hAfter]
    _ = s.exchanges.toList ++
          .quitAsked false :: s.saidByWord.toList := by
        rw [List.append_assoc]
        rfl

/- Whatever course a step takes, it says no more than this. -/
theorem exchanges_step
    {s : Session κ}
    (hTone :
      s.engine.toneOn = s.engine.machine.timers.audible)
    (hMode : s.engine.mode ≠ .halted) :
    s.step.1.exchanges.toList =
      s.exchanges.toList ++
        .quitAsked (Controls.wantsQuit s.controls).1 ::
          s.saidByStep.toList := by
  have hAsk :
      s.askQuit.2.exchanges.toList =
        s.exchanges.toList ++
          [.quitAsked (Controls.wantsQuit s.controls).1] :=
    Array.toList_push
  rcases s.step_cases with
    ⟨hHalted, _⟩ | ⟨_, hQuit, hStep⟩ |
      ⟨x, hAwaiting, hQuit, hStep⟩ |
      ⟨hRunning, hQuit, hStep⟩
  · exact absurd (Engine.isHalted_iff.mp hHalted) hMode
  · have hWants :
        (Controls.wantsQuit s.controls).1 = true :=
      hQuit
    rw [hStep, exchanges_halt, exchanges_note, hAsk]
    simp [saidByStep, hWants]
  · have hWants :
        (Controls.wantsQuit s.controls).1 = false :=
      hQuit
    rw [hStep, exchanges_receiveKey, Array.toList_push,
      hAsk, List.append_assoc]
    simp only [saidByStep, hWants, hAwaiting]
    rfl
  · have hWants :
        (Controls.wantsQuit s.controls).1 = false :=
      hQuit
    by_cases hFault : s.step.2 = none
    · rcases
          exists_attempt_of_no_fault hRunning hWants
            hFault with
        ⟨instruction, after, hDecoded, hAttempt⟩
      rw [exchanges_step_of_attempt hTone hDecoded hAttempt]
      simp [saidByStep, hWants, hRunning, hFault]
    · rcases Option.ne_none_iff_exists'.mp hFault with
        ⟨fault, hMet⟩
      rw [exchanges_step_of_fault hMet, Array.toList_push]
      simp [saidByStep, hWants, hRunning, hFault]

/- The tone is switched for a word that sets the timer. -/
theorem saidByWord_eq_tone_iff
    (s : Session κ)
    {x : Exchange}
    (hTone : x.isTone = true) :
    s.saidByWord = some x ↔
      Word.SetsSound s.engine.machine.fetch ∧
        s.engine.machine.timers.toneSwitched?
            s.step.1.engine.machine.timers =
          some x := by
  unfold saidByWord
  constructor
  · intro hSaid
    simp only at hSaid
    split at hSaid
    · cases hSaid
      cases hTone
    · split at hSaid
      · cases hSaid
        cases hTone
      · split at hSaid
        · cases hSaid
          cases hTone
        · rw [Option.ite_none_right_eq_some] at hSaid
          exact hSaid
  · rintro ⟨hSets, hSwitched⟩
    have hAwaits :
        ¬ Word.AwaitsKey s.engine.machine.fetch := by
      intro hAwaits
      exact hAwaits.excludes.2 hSets
    have hAsks :
        ¬ Word.AsksForKey s.engine.machine.fetch := by
      intro hAsks
      exact hAsks.excludes.2 hSets
    have hDraws :
        ¬ Word.draws s.engine.machine.fetch = true := by
      intro hDraws
      exact Word.not_setsSound_of_draws hDraws hSets
    simp only [if_neg hAwaits, if_neg hAsks, if_neg hDraws,
      if_pos hSets]
    exact hSwitched

/- So it is by a step that comes to such a word. -/
theorem saidByStep_eq_tone_iff
    (s : Session κ)
    {x : Exchange}
    (hTone : x.isTone = true) :
    s.saidByStep = some x ↔
      (Controls.wantsQuit s.controls).1 = false ∧
        s.engine.mode = .running ∧
        Word.SetsSound s.engine.machine.fetch ∧
        s.engine.machine.timers.toneSwitched?
            s.step.1.engine.machine.timers =
          some x := by
  unfold saidByStep
  cases hQuit : (Controls.wantsQuit s.controls).1 with
  | true => simp [hQuit]
  | false =>
      cases hMode : s.engine.mode with
      | halted => simp [hQuit]
      | awaitingKey y =>
          have hOther :
              ∀ press, Exchange.pressTaken press ≠ x := by
            rintro press rfl
            cases hTone
          simp [hQuit, hOther]
      | running =>
          cases hFault : s.step.2 with
          | none =>
              simp [hQuit, s.saidByWord_eq_tone_iff hTone]
          | some fault =>
              -- A fault leaves the timers as they were.
              have hSame :
                  s.step.1.engine.machine.timers.sound =
                    s.engine.machine.timers.sound := by
                rw [engine_step_of_fault hFault]
              simp [hQuit, Timers.toneSwitched?_of_same hSame]

/-
  A step of an engine that has not halted asks whether to
  quit, once and first. What follows is one exchange at the
  most, with the controls as the question left them: none if
  the player quits or the word faults, the taking of a press
  if a key is awaited, already or by the word, a question
  about the key that the word names if it asks about one, and
  the picture if it draws. The tone is switched by a word that
  sets the sound timer, on as the timer starts and off as it
  stops, and by nothing else. No word that has something to
  say meets a fault.
-/
theorem step_says_one_more
    {s : Session κ}
    (hReachable : s.engine.Reachable)
    (hMode : s.engine.mode ≠ .halted) :
    let quit := (Controls.wantsQuit s.controls).1
    let talk := .quitAsked quit :: s.saidByStep.toList
    let w := s.engine.machine.fetch
    let before := s.engine.machine.timers.sound
    let after := s.step.1.engine.machine.timers.sound
    s.step.1.exchanges.toList =
        s.exchanges.toList ++ talk ∧
      Conversation s.controls talk s.step.1.controls ∧
      (Word.Speaks w → s.step.2 = none) ∧
      (.toneStarted ∈ talk ↔
        quit = false ∧ s.engine.mode = .running ∧
          Word.SetsSound w ∧ before = 0 ∧ after ≠ 0) ∧
      (.toneStopped ∈ talk ↔
        quit = false ∧ s.engine.mode = .running ∧
          Word.SetsSound w ∧ before ≠ 0 ∧ after = 0) := by
  intro quit talk w before after
  have hExchanges := exchanges_step hReachable.toneOn_eq hMode
  have hTalk :
      ∀ x : Exchange, x.isTone = true →
        (x ∈ talk ↔ s.saidByStep = some x) := by
    intro x hTone
    have hOther : x ≠ .quitAsked quit := by
      rintro rfl
      cases hTone
    simp [talk, hOther]
  refine
    ⟨hExchanges, s.converses_step.conversation hExchanges,
      ?_, ?_, ?_⟩
  · intro hSpeaks
    apply Option.eq_none_iff_forall_ne_some.mpr
    intro fault hFault
    exact
      Machine.not_meets_of_speaks hSpeaks fault
        (step_eq_fault_iff.mp hFault).2.2
  · rw [hTalk _ rfl, s.saidByStep_eq_tone_iff rfl,
      Timers.toneSwitched?_eq_started_iff]
  · rw [hTalk _ rfl, s.saidByStep_eq_tone_iff rfl,
      Timers.toneSwitched?_eq_stopped_iff]

/-
  A word that sets the sound timer from zero starts the tone,
  and one that draws later on shows the picture only.
-/
theorem tone_starts_once :
    let first :=
      Session.initial (Engine.initial ⟨100, 60⟩ 7)
        Keypad.initial
    let loaded :=
      (first.load [0x61, 0x02, 0xF1, 0x18, 0x00, 0xE0]).1
    let s := loaded.step.1
    (s.engine.Reachable ∧ s.engine.mode ≠ .halted) ∧
      s.step.1.exchanges.toList =
        s.exchanges.toList ++
          [.quitAsked false, .toneStarted] ∧
      s.step.1.step.1.exchanges.toList =
        s.step.1.exchanges.toList ++
          [.quitAsked false, .frameShown Frame.blank] := by
  intro first loaded s
  have hState :
      s.engine.mode ≠ .halted ∧
        s.step.1.engine.mode ≠ .halted ∧
        (Controls.wantsQuit s.controls).1 = false ∧
        s.saidByStep = some .toneStarted ∧
        (Controls.wantsQuit s.step.1.controls).1 = false ∧
        s.step.1.saidByStep =
          some (.frameShown Frame.blank) := by
    decide +kernel
  rcases hState with
    ⟨hMode, hNext, hQuit, hSaid, hStays, hSaidNext⟩
  have hFirst : first.engine.Reachable :=
    .switchedOn ⟨100, 60⟩ (Generator.ofSeed 7)
  have hLoaded : loaded.engine.Reachable :=
    .obey first
      (.load [0x61, 0x02, 0xF1, 0x18, 0x00, 0xE0]) hFirst
  have hReachable : s.engine.Reachable :=
    .obey loaded .step hLoaded
  have hStarts := (step_says_one_more hReachable hMode).1
  have hShows :=
    (step_says_one_more (.obey s .step hReachable) hNext).1
  rw [hQuit, hSaid] at hStarts
  rw [obey, hStays, hSaidNext] at hShows
  exact ⟨⟨hReachable, hMode⟩, hStarts, hShows⟩

end Session

end ChipEight
