import ChipEight.Proofs.Console.Wait
import ChipEight.Proofs.Schedule.Beats

/-
  What an engine exchanges is what its controls were asked.

  A question leaves controls that may answer otherwise later.
  A conversation follows them from question to question: each
  answer is the one that they give just then, and what is told
  leaves them alone. Whatever an engine does, what it adds to
  the exchanges is a conversation with its controls, so that
  no question is asked in secret and no answer is made up.

  Key definitions include:
    * `ChipEight.Exchange.IsAnswered`
    * `ChipEight.Exchange.leaves`
    * `ChipEight.Conversation`
    * `ChipEight.Session.Converses`

  Main declarations:
    * `ChipEight.Conversation.append`
    * `ChipEight.Conversation.isAnswered`
    * `ChipEight.Session.converses_step`
    * `ChipEight.Session.converses_advance`
-/

namespace ChipEight

variable {κ : Type} [Controls κ]

------------------------------------------------------------
-- Conversations
------------------------------------------------------------

/- Whether an answer is the one that controls give. -/
def Exchange.IsAnswered
    (controls : κ) : Exchange → Prop
  | .quitAsked answer =>
      (Controls.wantsQuit controls).1 = answer
  | .keyAsked key answer =>
      (Controls.isHeld controls key).1 = answer
  | .pressTaken answer =>
      (Controls.takePress controls).1 = answer
  | _ => True

/- The controls that an exchange leaves. -/
def Exchange.leaves
    (controls : κ) : Exchange → κ
  | .quitAsked _ => (Controls.wantsQuit controls).2
  | .keyAsked key _ => (Controls.isHeld controls key).2
  | .pressTaken _ => (Controls.takePress controls).2
  | _ => controls

/-
  Whether exchanges can be made in turn with controls, and
  which controls they leave.
-/
inductive Conversation :
    κ → List Exchange → κ → Prop where
  /- Nothing was said. -/
  | nil (controls : κ) :
      Conversation controls [] controls
  /- One exchange was made before the others. -/
  | cons
      {controls left : κ}
      {x : Exchange}
      {talk : List Exchange} :
      x.IsAnswered controls →
        Conversation (x.leaves controls) talk left →
          Conversation controls (x :: talk) left

/- A conversation of one exchange. -/
theorem Conversation.single
    {controls : κ}
    {x : Exchange}
    (h : x.IsAnswered controls) :
    Conversation controls [x] (x.leaves controls) :=
  .cons h (.nil _)

/- Conversations follow each other. -/
theorem Conversation.append
    {controls between left : κ}
    {first second : List Exchange}
    (hFirst : Conversation controls first between)
    (hSecond : Conversation between second left) :
    Conversation controls (first ++ second) left := by
  induction hFirst with
  | nil => exact hSecond
  | cons hAnswer _ ih => exact .cons hAnswer (ih hSecond)

/- A conversation leaves what its exchanges leave in turn. -/
theorem Conversation.left_eq
    {controls left : κ}
    {talk : List Exchange}
    (h : Conversation controls talk left) :
    left = talk.foldl Exchange.leaves controls := by
  induction h with
  | nil => rfl
  | cons _ _ ih => exact ih

/- Each answer is the one that was given just then. -/
theorem Conversation.isAnswered
    {controls left : κ}
    {said later : List Exchange}
    {x : Exchange}
    (h : Conversation controls (said ++ x :: later) left) :
    x.IsAnswered (said.foldl Exchange.leaves controls) := by
  induction said generalizing controls with
  | nil =>
      cases h with
      | cons hAnswer _ => exact hAnswer
  | cons first rest ih =>
      cases h with
      | cons _ hRest => exact ih hRest

namespace Session

------------------------------------------------------------
-- Sessions That Converse
------------------------------------------------------------

/- Whether what was exchanged since was a conversation. -/
def Converses (s t : Session κ) : Prop :=
  ∃ talk,
    t.exchanges.toList = s.exchanges.toList ++ talk ∧
      Conversation s.controls talk t.controls

namespace Converses

/- Without exchanges, the controls are left alone. -/
theorem of_silence
    {s t : Session κ}
    (hExchanges : t.exchanges = s.exchanges)
    (hControls : t.controls = s.controls) :
    s.Converses t := by
  refine ⟨[], ?_, ?_⟩
  · rw [hExchanges, List.append_nil]
  · rw [hControls]
    exact .nil s.controls

/- One exchange is made at a time. -/
theorem of_exchange
    {s t : Session κ}
    {x : Exchange}
    (hExchanges : t.exchanges = s.exchanges.push x)
    (hAnswer : x.IsAnswered s.controls)
    (hControls : t.controls = x.leaves s.controls) :
    s.Converses t := by
  refine ⟨[x], ?_, ?_⟩
  · rw [hExchanges, Array.toList_push]
  · rw [hControls]
    exact .single hAnswer

/- What was said in two parts was said. -/
theorem trans
    {s t u : Session κ}
    (hFirst : s.Converses t)
    (hSecond : t.Converses u) :
    s.Converses u := by
  rcases hFirst with ⟨first, hBefore, hStart⟩
  rcases hSecond with ⟨second, hAfter, hRest⟩
  refine ⟨first ++ second, ?_, hStart.append hRest⟩
  rw [hAfter, hBefore, List.append_assoc]

/- The talk of a conversation is what was added. -/
theorem conversation
    {s t : Session κ}
    {talk : List Exchange}
    (h : s.Converses t)
    (hTalk :
      t.exchanges.toList = s.exchanges.toList ++ talk) :
    Conversation s.controls talk t.controls := by
  rcases h with ⟨said, hSaid, hConversation⟩
  rw [hSaid] at hTalk
  rw [← List.append_cancel_left hTalk]
  exact hConversation

end Converses

------------------------------------------------------------
-- Steps
------------------------------------------------------------

/- The question whether to quit is one exchange. -/
theorem converses_askQuit (s : Session κ) :
    s.Converses s.askQuit.2 :=
  .of_exchange rfl rfl rfl

/- So is the taking of a press. -/
theorem converses_takePress (s : Session κ) :
    s.Converses s.takePress.2 :=
  .of_exchange rfl rfl rfl

/- An instruction asks about one key at most. -/
theorem converses_askFor
    (s : Session κ)
    (instruction : Instruction) :
    s.Converses (s.askFor instruction).2 := by
  unfold askFor
  cases s.engine.machine.keyAsked? instruction with
  | none => exact .of_silence rfl rfl
  | some key =>
      let x : Exchange :=
        .keyAsked key (Controls.isHeld s.controls key).1
      have hAnswer : x.IsAnswered s.controls := rfl
      exact .of_exchange rfl hAnswer rfl

/- A switch of the tone is one exchange. -/
omit [Controls κ] in
theorem exchanges_followTone_of_change
    {s : Session κ}
    (h :
      s.engine.machine.timers.audible ≠ s.engine.toneOn) :
    s.followTone.exchanges =
      s.exchanges.push
        (if s.engine.machine.timers.audible then
          .toneStarted
        else
          .toneStopped) := by
  rw [followTone_of_change h]

/- Following the sound timer is one exchange at most. -/
theorem converses_followTone (s : Session κ) :
    s.Converses s.followTone := by
  by_cases h :
      s.engine.machine.timers.audible = s.engine.toneOn
  · rw [followTone_of_same h]
    exact .of_silence rfl rfl
  · refine
      .of_exchange (exchanges_followTone_of_change h) ?_ ?_
    · split
      · exact True.intro
      · exact True.intro
    · rw [controls_followTone]
      split
      · rfl
      · rfl

/- What is done after an instruction is one at most, too. -/
theorem converses_attend
    (s : Session κ)
    (aftermath : Aftermath) :
    s.Converses (s.attend aftermath) := by
  cases aftermath with
  | goOn => exact .of_silence rfl rfl
  | showFrame =>
      let x : Exchange :=
        .frameShown s.engine.machine.frame
      have hTold : x.IsAnswered s.controls := True.intro
      exact .of_exchange rfl hTold rfl
  | awaitKey x =>
      have hTake := s.converses_takePress
      exact hTake.trans (.of_silence rfl rfl)

/- An instruction converses, whatever comes of it. -/
theorem converses_perform
    (s : Session κ)
    (instruction : Instruction) :
    s.Converses (s.perform instruction).1 := by
  have hAsk := s.converses_askFor instruction
  cases hAttempt : s.attempt instruction with
  | error fault =>
      rw [perform_of_error hAttempt]
      refine hAsk.trans (.of_silence ?_ ?_)
      · exact exchanges_crash _ fault
      · exact controls_crash _ fault
  | ok after =>
      rw [perform_eq_carried hAttempt]
      have hCarried :
          (s.askFor instruction).2.Converses
            (s.carried instruction after) := by
        apply Converses.of_silence
        · exact exchanges_noteAll _ _
        · exact controls_noteAll _ _
      exact
        ((hAsk.trans hCarried).trans
          (converses_attend _ _)).trans
            (converses_followTone _)

/- So does a word. -/
theorem converses_runWord (s : Session κ) :
    s.Converses s.runWord.1 := by
  cases hWord :
      Instruction.decode? s.engine.machine.fetch with
  | none =>
      rw [runWord_of_none hWord]
      exact
        .of_silence (exchanges_crash _ _) (controls_crash _ _)
  | some instruction =>
      rw [runWord_of_some hWord]
      exact
        Converses.trans (.of_silence rfl rfl)
          (converses_perform _ instruction)

/- So does the look for a press. -/
theorem converses_receiveKey
    (s : Session κ)
    (x : Register) :
    s.Converses (s.receiveKey x) := by
  have hTake := s.converses_takePress
  cases hPress : s.takePress.1 with
  | none =>
      rw [receiveKey_of_none hPress]
      exact hTake
  | some key =>
      rw [receiveKey_of_some hPress]
      exact hTake.trans (.of_silence rfl rfl)

/- A step converses with the controls. -/
theorem converses_step (s : Session κ) :
    s.Converses s.step.1 := by
  have hAsk := s.converses_askQuit
  rcases s.step_cases with
    ⟨_, hStep⟩ | ⟨_, _, hStep⟩ | ⟨x, _, _, hStep⟩ |
      ⟨_, _, hStep⟩
  · rw [hStep]
    exact .of_silence rfl rfl
  · rw [hStep]
    refine hAsk.trans (.of_silence ?_ ?_)
    · exact exchanges_halt _
    · exact controls_halt _
  · rw [hStep]
    exact hAsk.trans (converses_receiveKey _ x)
  · rw [hStep]
    exact hAsk.trans (converses_runWord _)

------------------------------------------------------------
-- Time
------------------------------------------------------------

/- A tick tells of the tone at most. -/
theorem converses_tick (s : Session κ) :
    s.Converses s.tick := by
  cases h : s.engine.isHalted with
  | true =>
      rw [tick_of_halted h]
      exact .of_silence rfl rfl
  | false =>
      rw [tick_of_not_halted h]
      exact
        Converses.trans (.of_silence rfl rfl)
          (converses_followTone _)

/- Beats converse one after another. -/
theorem converses_makeAll
    (s : Session κ)
    (beats : List Beat) :
    s.Converses (s.makeAll beats).1 := by
  induction beats generalizing s with
  | nil => exact .of_silence rfl rfl
  | cons beat rest ih =>
      rw [makeAll_cons]
      cases beat with
      | cycle => exact s.converses_step.trans (ih s.step.1)
      | tick => exact s.converses_tick.trans (ih s.tick)

/- So an engine converses while time passes. -/
theorem converses_advance
    (s : Session κ)
    (elapsed : Nat) :
    s.Converses (s.advance elapsed).1 := by
  let due :=
    (s.engine.clocks.collect (min elapsed longestLapse)).due
  have hSame :
      (s.advance elapsed).1.SameButClocks (s.makeAll due).1 :=
    (s.makesDue_advance elapsed).session
  refine (s.converses_makeAll due).trans ?_
  rw [← hSame]
  exact .of_silence rfl rfl

end Session

end ChipEight
