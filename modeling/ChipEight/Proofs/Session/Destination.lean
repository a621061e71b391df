import ChipEight.Console.Keypad
import ChipEight.Proofs.Machine.Destination
import ChipEight.Proofs.Session.Trace

/-
  Where a step leads.

  A step that carries a word out goes on where the word leads
  from the machine before the step. If the word asks about a
  key, the console is asked about that key once; else about
  none.

  Key definitions include:
    * `ChipEight.Exchange.isKeyQuestion`
    * `ChipEight.Session.heldAnswer`

  Main declarations:
    * `ChipEight.Session.attempt_announcing`
    * `ChipEight.Session.asks_announcing`
    * `ChipEight.Session.key_questions_of_attempt`
    * `ChipEight.Session.step_goes_where_word_leads`
-/

namespace ChipEight

------------------------------------------------------------
-- Questions About Keys
------------------------------------------------------------

/- Whether an exchange was a question about a key. -/
def Exchange.isKeyQuestion : Exchange → Bool
  | .keyAsked _ _ => true
  | _ => false

/- Nothing that is told of the tone is such a question. -/
theorem filter_isKeyQuestion_toneSwitch
    (toneOn audible : Bool) :
    (toneSwitch toneOn audible).filter
      Exchange.isKeyQuestion = [] := by
  cases toneOn with
  | _ =>
      cases audible with
      | _ => rfl

/- Nor is what is exchanged after an instruction. -/
theorem filter_isKeyQuestion_tells
    (aftermath : Aftermath)
    (after : Machine)
    (press : Option UInt8) :
    (aftermath.tells after press).filter
      Exchange.isKeyQuestion = [] := by
  cases aftermath with
  | _ => rfl

namespace Session

variable {κ : Type} [Controls κ]

------------------------------------------------------------
-- Answers
------------------------------------------------------------

/-
  What a step is answered if its word asks about a key. The
  player was asked before whether to quit.
-/
def heldAnswer (s : Session κ) : Bool :=
  (Controls.isHeld (Controls.wantsQuit s.controls).2
    (s.engine.machine.keyNamed s.engine.machine.fetch)).1

/- A word that asks about a key gets this answer. -/
theorem askFor_announcing
    (s : Session κ)
    {instruction : Instruction}
    (hAsked :
      s.engine.machine.keyAsked? instruction =
        some
          (s.engine.machine.keyNamed
            s.engine.machine.fetch)) :
    (s.announcing.askFor instruction).1 = s.heldAnswer := by
  have hAskedThen :
      s.announcing.engine.machine.keyAsked? instruction =
        some
          (s.engine.machine.keyNamed
            s.engine.machine.fetch) :=
    hAsked
  rw [askFor, hAskedThen]
  rfl

/- So a word is carried out with this answer. -/
theorem attempt_announcing
    (s : Session κ)
    {instruction : Instruction}
    (hWord :
      Instruction.decode? s.engine.machine.fetch =
        some instruction) :
    s.announcing.attempt instruction =
      s.engine.machine.passWord.execute s.heldAnswer
        instruction := by
  have hAsked :=
    s.engine.machine.keyAsked?_of_decode? hWord
  split at hAsked
  · rw [attempt, s.askFor_announcing hAsked]
    rfl
  · exact
      s.engine.machine.execute_of_keyAsked?_eq_none _ hAsked
        _ _

/- What it asks about keys is told by its digits. -/
theorem asks_announcing
    (s : Session κ)
    {instruction : Instruction}
    (hWord :
      Instruction.decode? s.engine.machine.fetch =
        some instruction) :
    s.engine.machine.asks instruction
        (s.announcing.askFor instruction).1 =
      if Word.AsksForKey s.engine.machine.fetch then
        [.keyAsked
          (s.engine.machine.keyNamed s.engine.machine.fetch)
          s.heldAnswer]
      else
        [] := by
  have hAsked :=
    s.engine.machine.keyAsked?_of_decode? hWord
  split at hAsked
  · rename_i hAsks
    rw [if_pos hAsks, s.askFor_announcing hAsked,
      Machine.asks, hAsked]
    rfl
  · rename_i hAsks
    rw [if_neg hAsks, Machine.asks, hAsked]
    rfl

------------------------------------------------------------
-- Steps
------------------------------------------------------------

/- A step that meets no fault carries out its word. -/
theorem exists_attempt_of_no_fault
    {s : Session κ}
    (hMode : s.engine.mode = .running)
    (hQuit : (Controls.wantsQuit s.controls).1 = false)
    (hFault : s.step.2 = none) :
    ∃ instruction after,
      s.decoded? = some instruction ∧
        s.announcing.attempt instruction = .ok after := by
  cases hWord :
      Instruction.decode? s.engine.machine.fetch with
  | none =>
      have hNone :
          Instruction.decode?
            s.askQuit.2.engine.machine.fetch = none :=
        hWord
      rw [step_of_running hMode hQuit,
        runWord_of_none hNone] at hFault
      cases hFault
  | some instruction =>
      have hDecoded : s.decoded? = some instruction :=
        decoded?_eq_some_iff.mpr ⟨hMode, hQuit, hWord⟩
      cases hAttempt : s.announcing.attempt instruction with
      | error fault =>
          rw [step_of_decoded hDecoded,
            perform_of_error hAttempt] at hFault
          cases hFault
      | ok after =>
          exact ⟨instruction, after, hDecoded, hAttempt⟩

/-
  A step that carries its word out asks whether to quit, asks
  what the word asks, and tells nothing else about keys.
-/
theorem key_questions_of_attempt
    {s : Session κ}
    {instruction : Instruction}
    {after : Machine}
    (hDecoded : s.decoded? = some instruction)
    (hAttempt :
      s.announcing.attempt instruction = .ok after) :
    ∃ talk,
      s.step.1.exchanges.toList =
          s.exchanges.toList ++ talk ∧
        talk.filter Exchange.isKeyQuestion =
          if Word.AsksForKey s.engine.machine.fetch then
            [.keyAsked
              (s.engine.machine.keyNamed
                s.engine.machine.fetch)
              s.heldAnswer]
          else
            [] := by
  have hWord := (decoded?_eq_some_iff.mp hDecoded).2.2
  have hBefore :
      s.announcing.exchanges.toList =
        s.exchanges.toList ++ [.quitAsked s.askQuit.1] :=
    Array.toList_push
  have hQuitAsked :
      [Exchange.quitAsked s.askQuit.1].filter
        Exchange.isKeyQuestion = [] :=
    rfl
  rcases exchanges_perform_of_ok hAttempt with
    ⟨press, hExchanges⟩
  rw [← step_of_decoded hDecoded, hBefore,
    List.append_assoc] at hExchanges
  refine ⟨_, hExchanges, ?_⟩
  rw [List.filter_append, List.filter_append,
    List.filter_append, hQuitAsked,
    filter_isKeyQuestion_tells,
    filter_isKeyQuestion_toneSwitch, List.append_nil,
    List.append_nil, List.nil_append]
  change (s.engine.machine.asks instruction _).filter _ = _
  rw [s.asks_announcing hWord]
  split
  · rfl
  · rfl

/-
  A running engine whose player does not want to quit reads
  the word at its counter from two bytes of memory, and if
  that meets no fault, it goes on where the word leads: to the
  address in a jump or call, to that address and the first
  register in a jump by it, behind the latest call, past the
  next word if a skip applies, and else to the next word. It
  asks about a key once if the word is a skip that depends on
  one, and never otherwise.
-/
theorem step_goes_where_word_leads
    {s : Session κ}
    (hReachable : s.engine.Reachable)
    (hMode : s.engine.mode = .running)
    (hQuit : (Controls.wantsQuit s.controls).1 = false)
    (hFault : s.step.2 = none) :
    let m := s.engine.machine
    let pc := m.processor.pc.toNat
    let w := m.fetch
    (pc < 4096 ∧
        w.toNat =
          256 *
              (m.memory.cells.get (Address.ofNat pc)).toNat +
            (m.memory.cells.get
              (Address.ofNat (pc + 1))).toNat) ∧
      m.destination? s.heldAnswer w =
        some s.step.1.engine.machine.processor.pc.toNat ∧
      ∃ talk,
        s.step.1.exchanges.toList =
            s.exchanges.toList ++ talk ∧
          talk.filter Exchange.isKeyQuestion =
            if Word.AsksForKey w then
              [.keyAsked (m.keyNamed w) s.heldAnswer]
            else
              [] := by
  intro m pc w
  have hSound : m.Sound := hReachable.sound.machine
  rcases exists_attempt_of_no_fault hMode hQuit hFault with
    ⟨instruction, after, hDecoded, hAttempt⟩
  have hWord : Instruction.decode? w = some instruction :=
    (decoded?_eq_some_iff.mp hDecoded).2.2
  have hRun :
      m.passWord.execute s.heldAnswer instruction =
        .ok after :=
    (s.attempt_announcing hWord).symm.trans hAttempt
  have hRunning : s.announcing.engine.mode = .running :=
    hMode
  refine
    ⟨⟨hSound.processor.counter, m.toNat_fetch⟩, ?_,
      key_questions_of_attempt hDecoded hAttempt⟩
  rw [step_of_decoded hDecoded,
    engine_perform_of_ok hRunning hAttempt]
  exact Machine.destination?_eq_pc hSound hWord hRun

/-
  A word that skips if a key is held asks about the key with
  the low four bits of its register, and skips.
-/
theorem held_key_skips_word :
    let first :=
      Session.initial (Engine.initial ⟨100, 60⟩ 7)
        (Keypad.initial.press 7)
    let loaded := (first.load [0x62, 0x17, 0xE2, 0x9E]).1
    let s := loaded.step.1
    (s.engine.Reachable ∧
        s.engine.mode = .running ∧
        (Controls.wantsQuit s.controls).1 = false ∧
        s.step.2 = none) ∧
      s.engine.machine.fetch = 0xE29E ∧
      s.engine.machine.processor.pc = 0x202 ∧
      s.step.1.engine.machine.processor.pc.toNat = 0x206 ∧
      ∃ talk,
        s.step.1.exchanges.toList =
            s.exchanges.toList ++ talk ∧
          talk.filter Exchange.isKeyQuestion =
            [.keyAsked 7 true] := by
  intro first loaded s
  have hState :
      s.engine.mode = .running ∧
        (Controls.wantsQuit s.controls).1 = false ∧
        s.step.2 = none ∧
        s.engine.machine.fetch = 0xE29E ∧
        s.engine.machine.processor.pc = 0x202 ∧
        s.engine.machine.keyNamed 0xE29E = 7 ∧
        s.heldAnswer = true := by
    decide +kernel
  rcases hState with
    ⟨hMode, hQuit, hFault, hFetch, hCounter, hKey, hHeld⟩
  have hFirst : first.engine.Reachable :=
    .switchedOn ⟨100, 60⟩ (Generator.ofSeed 7)
  have hLoaded : loaded.engine.Reachable :=
    .obey first (.load [0x62, 0x17, 0xE2, 0x9E]) hFirst
  have hReachable : s.engine.Reachable :=
    .obey loaded .step hLoaded
  rcases
      step_goes_where_word_leads hReachable hMode hQuit
        hFault with
    ⟨_, hDestination, talk, hExchanges, hAsked⟩
  rw [hFetch] at hDestination hAsked
  refine
    ⟨⟨hReachable, hMode, hQuit, hFault⟩, hFetch, hCounter,
      ?_, talk, hExchanges, ?_⟩
  · have hSkips :
        s.engine.machine.destination? s.heldAnswer 0xE29E =
          some 0x206 := by
      decide +kernel
    rw [hSkips] at hDestination
    exact (Option.some.inj hDestination).symm
  · rw [hAsked, hKey, hHeld]
    rfl

end Session

end ChipEight
