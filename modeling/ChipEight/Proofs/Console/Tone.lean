import ChipEight.Console.Keypad
import ChipEight.Proofs.Session.Run

/-
  The tone of the console is switched on and off in turn.

  The engine remembers whether the tone sounds. It switches
  the tone where this differs from what the sound timer asks
  for, and only instructions and ticks change the timer. Both
  end with a look at it, so at all other times the two agree.

  Key definitions include:
    * `ChipEight.tonesOf`
    * `ChipEight.tonesInTurn`
    * `ChipEight.Session.InTune`
    * `ChipEight.Face.Tuned`

  Main declarations:
    * `ChipEight.tonesOf_toneSwitch`
    * `ChipEight.Face.kept_tuned`
    * `ChipEight.Engine.Reachable.toneOn_eq`
    * `ChipEight.Engine.Run.toneOn_eq`
    * `ChipEight.Session.tones_in_turn`
-/

namespace ChipEight

------------------------------------------------------------
-- Switches Of The Tone
------------------------------------------------------------

/- Whether an exchange switched the tone. -/
def Exchange.isTone : Exchange → Bool
  | .toneStarted => true
  | .toneStopped => true
  | _ => false

/- The switches of the tone among exchanges. -/
def tonesOf (talk : List Exchange) : List Exchange :=
  talk.filter Exchange.isTone

/- So many switches in turn, the first of them on. -/
def tonesInTurn : Nat → List Exchange
  | 0 => []
  | n + 1 =>
      tonesInTurn n ++
        [if n % 2 = 0 then .toneStarted else .toneStopped]

/- Switches are collected in parts. -/
@[simp]
theorem tonesOf_append (first second : List Exchange) :
    tonesOf (first ++ second) =
      tonesOf first ++ tonesOf second :=
  List.filter_append first second

/- Questions switch no tone. -/
theorem tonesOf_of_questions
    {talk : List Exchange}
    (h : ∀ x ∈ talk, x.isQuestion = true) :
    tonesOf talk = [] := by
  apply List.filter_eq_nil_iff.mpr
  intro x hMem
  have hQuestion := h x hMem
  cases x with
  | toneStarted => cases hQuestion
  | toneStopped => cases hQuestion
  | _ => simp [Exchange.isTone]

/- What is said after an instruction switches no tone. -/
theorem tonesOf_tells
    (aftermath : Aftermath)
    (after : Machine)
    (press : Option UInt8) :
    tonesOf (aftermath.tells after press) = [] := by
  cases aftermath with
  | goOn => rfl
  | showFrame => rfl
  | awaitKey x => rfl

/- Switches in turn are as many as they should be. -/
@[simp]
theorem length_tonesInTurn (n : Nat) :
    (tonesInTurn n).length = n := by
  induction n with
  | zero =>
      rfl
  | succ n ih =>
      simp [tonesInTurn, ih]

/-
  Of switches in turn, half are on and half are off, with one
  more on if their number is odd.
-/
theorem count_tonesInTurn (n : Nat) :
    (tonesInTurn n).count .toneStarted = (n + 1) / 2 ∧
      (tonesInTurn n).count .toneStopped = n / 2 := by
  induction n with
  | zero =>
      exact ⟨rfl, rfl⟩
  | succ n ih =>
      rcases ih with ⟨hStarted, hStopped⟩
      simp only [tonesInTurn, List.count_append, hStarted,
        hStopped]
      by_cases hEven : n % 2 = 0
      · simp only [if_pos hEven, List.count_singleton]
        constructor
        · simp
          omega
        · simp
          omega
      · simp only [if_neg hEven, List.count_singleton]
        constructor
        · simp
          omega
        · simp
          omega

/-
  A tone that follows is switched in turn. It sounds after an
  odd number of switches.
-/
theorem tonesOf_toneSwitch
    {toneOn : Bool}
    {n : Nat}
    (h : toneOn = true ↔ n % 2 = 1)
    (audible : Bool) :
    ∃ m,
      tonesInTurn n ++ tonesOf (toneSwitch toneOn audible) =
          tonesInTurn m ∧
        (audible = true ↔ m % 2 = 1) := by
  by_cases hSame : audible = toneOn
  · refine ⟨n, ?_, ?_⟩
    · rw [toneSwitch, if_pos hSame]
      exact List.append_nil _
    · rw [hSame]
      exact h
  · refine ⟨n + 1, ?_, ?_⟩
    · rw [toneSwitch, if_neg hSame]
      cases audible with
      | true =>
          have hEven : n % 2 = 0 := by
            simp_all
          rw [tonesInTurn, if_pos hEven]
          rfl
      | false =>
          have hOdd : n % 2 = 1 := by
            simp_all
          have hNot : ¬ n % 2 = 0 := by
            omega
          rw [tonesInTurn, if_neg hNot]
          rfl
    · cases audible with
      | true =>
          simp_all
          omega
      | false =>
          simp_all
          omega

------------------------------------------------------------
-- Tuned Faces
------------------------------------------------------------

/-
  Whether the tone is as the sound timer asks for and was
  switched in turn up to there.
-/
structure Face.Tuned
    (face : Face)
    (talk : List Exchange) : Prop where
  follows : face.toneOn = face.timers.audible
  inTurn :
    ∃ n,
      tonesOf talk = tonesInTurn n ∧
        (face.toneOn = true ↔ n % 2 = 1)

namespace Face

/- A switch of the tone keeps it tuned. -/
theorem Tuned.follow
    {face : Face}
    {talk quiet : List Exchange}
    (h : face.Tuned talk)
    (hQuiet : tonesOf quiet = [])
    (m : Machine) :
    m.face.Tuned
      (talk ++
        (quiet ++
          toneSwitch face.toneOn m.timers.audible)) := by
  rcases h.inTurn with ⟨n, hTones, hOdd⟩
  rcases tonesOf_toneSwitch hOdd m.timers.audible with
    ⟨k, hSwitched, hSounds⟩
  refine ⟨rfl, k, ?_, hSounds⟩
  rw [tonesOf_append, tonesOf_append, hQuiet, hTones,
    List.nil_append, hSwitched]

/- Whatever happens, the tone stays tuned. -/
theorem kept_tuned :
    Kept (fun face talk _ => face.Tuned talk) where
  start := by
    refine ⟨rfl, 0, rfl, ?_⟩
    decide
  asks := by
    intro face talk asked deeds h hAsked
    refine ⟨h.follows, ?_⟩
    rw [tonesOf_append, tonesOf_of_questions hAsked,
      List.append_nil]
    exact h.inTurn
  carries := by
    intro e instruction held after talk deeds press _ _ h
    exact h.follow (tonesOf_tells _ _ _) after
  ticks := by
    intro e talk deeds h timers
    have hQuiet : tonesOf [] = [] := rfl
    exact
      h.follow hQuiet { e.machine with timers := timers }

end Face

/- Whatever happens, the tone follows the sound timer. -/
theorem Face.kept_follows :
    Kept
      (fun face _ _ =>
        face.toneOn = face.timers.audible) where
  start := rfl
  asks := fun h _ => h
  carries := fun _ _ _ _ => rfl
  ticks := fun _ => rfl

/- So it does for every engine that can come up. -/
theorem Engine.Reachable.toneOn_eq
    {e : Engine}
    (h : e.Reachable) :
    e.toneOn = e.machine.timers.audible := by
  induction h with
  | switchedOn rates generator => rfl
  | @obey κ _ s command _ ih =>
      exact
        @Kept.obey _ Face.kept_follows κ _ s [] ih command

/- In every run the tone is as the sound timer asks for. -/
theorem Engine.Run.toneOn_eq
    {e : Engine}
    {talk : List Exchange}
    {deeds : List Deed}
    (h : e.Run talk deeds) :
    e.toneOn = e.machine.timers.audible :=
  (Face.kept_tuned.run h).follows

------------------------------------------------------------
-- Sessions In Tune
------------------------------------------------------------

namespace Session

variable {κ : Type}

/-
  Whether all that was said since the start of a run switched
  the tone in turn, first on, and one more time on than off
  exactly while the sound timer has not run out.
-/
structure InTune (s : Session κ) : Prop where
  inTurn :
    tonesOf s.exchanges.toList =
      tonesInTurn (tonesOf s.exchanges.toList).length
  balance :
    s.exchanges.toList.count .toneStarted =
      s.exchanges.toList.count .toneStopped +
        if s.engine.machine.timers.sound = 0 then 0 else 1

/- A session with a tuned face is in tune. -/
theorem inTune_of_tuned
    {s : Session κ}
    (h : s.engine.face.Tuned s.exchanges.toList) :
    s.InTune := by
  rcases h.inTurn with ⟨n, hTones, hOdd⟩
  have hCount (x : Exchange) (hTone : x.isTone = true) :
      s.exchanges.toList.count x =
        (tonesInTurn n).count x := by
    rw [← hTones]
    exact (List.count_filter hTone).symm
  rcases count_tonesInTurn n with ⟨hStarted, hStopped⟩
  refine ⟨?_, ?_⟩
  · rw [hTones, length_tonesInTurn]
  · rw [hCount _ rfl, hCount _ rfl, hStarted, hStopped]
    rw [h.follows] at hOdd
    by_cases hSilent :
        s.engine.machine.timers.sound = 0
    · have hEven : ¬ n % 2 = 1 := by
        rw [← hOdd]
        simp [Engine.face, Timers.audible, hSilent]
      rw [if_pos hSilent]
      omega
    · have hSounds : n % 2 = 1 := by
        rw [← hOdd]
        simp [Engine.face, Timers.audible, hSilent]
      rw [if_neg hSilent]
      omega

variable [Controls κ]

/-
  The tone is switched on and off in turn, and it is on while
  the sound timer has not run out: at all times of a run, as
  well after every further command and between any two beats
  that are made while time passes.
-/
theorem tones_in_turn
    {s : Session κ}
    {deeds : List Deed}
    (hRun : s.engine.Run s.exchanges.toList deeds) :
    s.InTune ∧
      (∀ command, (s.obey command).1.InTune) ∧
      ∀ elapsed,
        let due :=
          (s.engine.clocks.collect
            (min elapsed longestLapse)).due
        (s.advance elapsed).1.SameButClocks
            (s.makeAll due).1 ∧
          ∀ made,
            made <+: due → (s.makeAll made).1.InTune := by
  refine ⟨?_, ?_, ?_⟩
  · exact inTune_of_tuned (Face.kept_tuned.run hRun)
  · intro command
    exact
      inTune_of_tuned
        (Face.kept_tuned.run (.obey s command hRun))
  · intro elapsed due
    refine ⟨(s.makesDue_advance elapsed).session, ?_⟩
    intro made _
    exact
      inTune_of_tuned
        (Face.kept_tuned.run (hRun.makeAll made))

/-
  A program that sets the sound timer to one has the tone
  started, and the next tick stops it.
-/
theorem inTune_around_one_tick :
    let s :=
      ((((Session.initial
        (Engine.switchedOn ⟨100, 60⟩ (Generator.ofSeed 7))
        Keypad.initial).obey
          (.load [0x60, 0x01, 0xF0, 0x18])).1.obey
            .step).1.obey .step).1
    (∃ deeds, s.engine.Run s.exchanges.toList deeds) ∧
      s.InTune ∧
      tonesOf s.exchanges.toList = [.toneStarted] ∧
      (s.obey .tick).1.InTune ∧
      tonesOf (s.obey .tick).1.exchanges.toList =
        [.toneStarted, .toneStopped] := by
  dsimp only
  have hNew :=
    Engine.Run.initial ⟨100, 60⟩ (Generator.ofSeed 7)
      Keypad.initial
  have hLoaded :=
    Engine.Run.obey _ (.load [0x60, 0x01, 0xF0, 0x18]) hNew
  have hFirst := Engine.Run.obey _ .step hLoaded
  have hRun := Engine.Run.obey _ .step hFirst
  rcases tones_in_turn hRun with ⟨hNow, hNext, _⟩
  refine ⟨⟨_, hRun⟩, hNow, ?_, hNext .tick, ?_⟩
  · decide +kernel
  · decide +kernel

end Session

end ChipEight
