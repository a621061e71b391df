import ChipEight.Proofs.Checked.Clock
import ChipEight.Proofs.Schedule.Lapse

/-
  How many rounds it takes to let time pass.

  What is due is made in rounds, one beat a round. A settled
  clock is less than a period behind, and no period is shorter
  than a microsecond, so within one lapse each clock calls a
  bounded number of beats: a loop that is given enough rounds
  for both ends, with its clocks settled again.

  Key definitions include:
    * `ChipEight.Clock.Settled`
    * `ChipEight.Session.catchUpWithin?`
    * `ChipEight.Session.advanceWithin?`

  Main declarations:
    * `ChipEight.Engine.Reachable.isHalted_or_all_settled`
    * `ChipEight.Clocks.count_due_le`
    * `ChipEight.Session.catchUpWithin?_eq`
    * `ChipEight.Session.advance_ends_in_rounds`
-/

namespace ChipEight

------------------------------------------------------------
-- Settled Clocks
------------------------------------------------------------

namespace Clock

/-
  Whether a clock is settled: it is less than a period behind,
  or not at all if it stands still.
-/
structure Settled (c : Clock) : Prop where
  running :
    ∀ period, c.period? = some period → c.lag < period
  still : c.period? = none → c.lag = 0

/- No period is shorter than a microsecond. -/
theorem le_period
    {c : Clock}
    {period : Nat}
    (h : c.period? = some period) :
    1000 ≤ period := by
  rcases period?_eq_some_iff.mp h with ⟨hRate, rfl⟩
  have hPositive : 0 < min c.rate 1000000 := by
    omega
  have hShortest :
      1000000000 / 1000000 ≤
        1000000000 / min c.rate 1000000 :=
    Nat.div_le_div_left (Nat.min_le_right _ _) hPositive
  exact hShortest

/- None is longer than a second. -/
theorem period_le
    {c : Clock}
    {period : Nat}
    (h : c.period? = some period) :
    period ≤ 1000000000 := by
  rcases period?_eq_some_iff.mp h with ⟨_, rfl⟩
  exact Nat.div_le_self _ _

/- A settled clock is at most a second behind. -/
theorem Settled.lag_le
    {c : Clock}
    (h : c.Settled) :
    c.lag ≤ 1000000000 := by
  cases hPeriod : c.period? with
  | none =>
      rw [h.still hPeriod]
      exact Nat.zero_le _
  | some period =>
      have hLag := h.running period hPeriod
      have hPeriodLe := period_le hPeriod
      omega

end Clock

namespace Clocks

/- New clocks are settled. -/
theorem all_settled_ofRates
    (rates : Rates)
    (beat : Beat) :
    ((ofRates rates).of beat).Settled := by
  rw [of_ofRates]
  refine ⟨?_, ?_⟩
  · intro period hPeriod
    exact Clock.period?_pos hPeriod
  · intro _
    rfl

/- Clocks that collect time settle again. -/
theorem all_settled_collect
    {c : Clocks}
    (h : ∀ beat, (c.of beat).Settled)
    (elapsed : Nat)
    (beat : Beat) :
    ((c.collect elapsed).settled.of beat).Settled := by
  refine ⟨?_, ?_⟩
  · intro period hPeriod
    exact
      lag_lt_of_next?_eq_none (next?_settled _) beat hPeriod
  · intro hStill
    rw [period?_settled] at hStill
    have hBefore : (c.of beat).period? = none := by
      rw [← hStill, of_collect, Clock.period?_collect]
    rw [of_settled_of_not_mem (not_mem_due_of_still hStill),
      of_collect, Clock.collect_of_still hBefore]
    exact (h beat).still hBefore

end Clocks

/- A reachable engine has halted or has settled clocks. -/
theorem Engine.Reachable.isHalted_or_all_settled
    {e : Engine}
    (h : e.Reachable) :
    e.isHalted = true ∨
      ∀ beat, (e.clocks.of beat).Settled := by
  refine h.isHalted_or
    (fun c => ∀ beat, (c.of beat).Settled)
    Clocks.all_settled_ofRates ?_
  intro c elapsed hSettled
  exact Clocks.all_settled_collect hSettled elapsed

------------------------------------------------------------
-- Beats That Are Due
------------------------------------------------------------

namespace Clocks

/- Within one lapse, a settled clock calls few beats. -/
theorem count_due_le
    {c : Clocks}
    (h : ∀ beat, (c.of beat).Settled)
    {elapsed : Nat}
    (hElapsed : elapsed ≤ 250000000)
    (beat : Beat) :
    (c.collect elapsed).due.count beat ≤ 250000 := by
  cases hPeriod : ((c.collect elapsed).of beat).period? with
  | none =>
      have hNone : beat ∉ (c.collect elapsed).due :=
        not_mem_due_of_still hPeriod
      rw [List.count_eq_zero.mpr hNone]
      exact Nat.zero_le _
  | some period =>
      have hTime := count_due_mul_add_lag hPeriod
      rw [of_collect, Clock.period?_collect] at hPeriod
      rw [of_collect,
        Clock.collect_of_running hPeriod] at hTime
      simp only at hTime
      have hLag := (h beat).running period hPeriod
      have hShort := Clock.le_period hPeriod
      apply Nat.not_lt.mp
      intro hMore
      have hTooMuch :
          250001 * period ≤
            (c.collect elapsed).due.count beat * period :=
        Nat.mul_le_mul_right period hMore
      omega

end Clocks

/- There are no beats but cycles and ticks. -/
theorem Beat.length_eq_count_add_count
    (beats : List Beat) :
    beats.length = beats.count .cycle + beats.count .tick := by
  induction beats with
  | nil => rfl
  | cons beat rest ih =>
      cases beat with
      | cycle =>
          rw [List.length_cons, ih, List.count_cons_self,
            List.count_cons_of_ne (by decide)]
          omega
      | tick =>
          rw [List.length_cons, ih, List.count_cons_self,
            List.count_cons_of_ne (by decide)]
          omega

namespace Session

variable {κ : Type} [Controls κ]

------------------------------------------------------------
-- Rounds
------------------------------------------------------------

/-
  Do what is due on the clocks, one beat a round, and list the
  beats that are made. There is no result if the rounds run
  out or a clock fails a check.
-/
def catchUpWithin?
    (s : Session κ)
    (clocks : Clocks) :
    Nat → Option ((Session κ × Option Fault) × List Beat)
  | 0 => none
  | rounds + 1 =>
      if s.engine.isHalted then
        some ((s.setClocks clocks, none), [])
      else do
        match ← clocks.checkNext with
        | none => some ((s.setClocks clocks, none), [])
        | some (beat, later) =>
            match s.make beat with
            | (t, none) =>
                let (result, beats) ←
                  t.catchUpWithin? later rounds
                some (result, beat :: beats)
            | (t, some fault) =>
                some ((t.setClocks later, some fault), [beat])

/- Let nanoseconds pass in rounds. -/
def advanceWithin?
    (rounds : Nat)
    (s : Session κ)
    (elapsed : Nat) :
    Option ((Session κ × Option Fault) × List Beat) :=
  if s.engine.isHalted then
    some ((s, none), [])
  else do
    let clocks ←
      s.engine.clocks.checkCollect
        (min elapsed longestLapse)
    s.catchUpWithin? clocks rounds

/- A halted engine is done in a round. -/
theorem catchUpWithin?_of_halted
    {s : Session κ}
    (h : s.engine.isHalted = true)
    (clocks : Clocks)
    (rounds : Nat) :
    s.catchUpWithin? clocks (rounds + 1) =
      some ((s.setClocks clocks, none), []) := by
  rw [catchUpWithin?, if_pos h]

/- So is one with nothing due. -/
theorem catchUpWithin?_of_none
    {s : Session κ}
    {clocks : Clocks}
    (h : s.engine.isHalted = false)
    (hNext : clocks.next? = none)
    (rounds : Nat) :
    s.catchUpWithin? clocks (rounds + 1) =
      some ((s.setClocks clocks, none), []) := by
  have hNot : ¬ s.engine.isHalted = true := by
    simp [h]
  rw [catchUpWithin?, if_neg hNot, Clocks.checkNext_eq,
    hNext]
  rfl

/- Else a round makes a beat, and the rest go on from it. -/
theorem catchUpWithin?_of_some
    {s : Session κ}
    {clocks later : Clocks}
    {beat : Beat}
    (h : s.engine.isHalted = false)
    (hNext : clocks.next? = some (beat, later))
    (rounds : Nat) :
    s.catchUpWithin? clocks (rounds + 1) =
      match (s.make beat).2 with
      | none =>
          ((s.make beat).1.catchUpWithin? later rounds).map
            (fun made => (made.1, beat :: made.2))
      | some fault =>
          some
            (((s.make beat).1.setClocks later, some fault),
              [beat]) := by
  have hNot : ¬ s.engine.isHalted = true := by
    simp [h]
  rw [catchUpWithin?, if_neg hNot, Clocks.checkNext_eq,
    hNext]
  simp only [Option.bind_eq_bind, Option.bind_some]
  rcases s.make beat with ⟨t, met⟩
  cases met with
  | some fault => rfl
  | none =>
      simp only
      cases t.catchUpWithin? later rounds with
      | none => rfl
      | some made => rfl

/-
  With more rounds than beats to be made, the rounds do what
  is due. The induction is on the beats that are due.
-/
theorem catchUpWithin?_eq
    {s : Session κ}
    {clocks : Clocks}
    {rounds : Nat}
    (h : (s.untilHalted clocks.due).length < rounds) :
    s.catchUpWithin? clocks rounds =
      some (s.catchUp clocks, s.untilHalted clocks.due) := by
  have hRounds : ∃ more, rounds = more + 1 :=
    Nat.exists_eq_add_one_of_ne_zero (Nat.ne_zero_of_lt h)
  induction clocks using Clocks.due.induct
    generalizing s rounds with
  | case1 clocks hNext =>
      rcases hRounds with ⟨more, rfl⟩
      rw [Clocks.due_of_none hNext, untilHalted]
      cases hHalted : s.engine.isHalted with
      | true =>
          rw [catchUpWithin?_of_halted hHalted,
            catchUp_of_halted hHalted]
      | false =>
          rw [catchUpWithin?_of_none hHalted hNext,
            catchUp_of_none hHalted hNext]
  | case2 clocks beat later hNext ih =>
      rcases hRounds with ⟨more, rfl⟩
      rw [Clocks.due_of_some hNext] at h ⊢
      cases hHalted : s.engine.isHalted with
      | true =>
          rw [catchUpWithin?_of_halted hHalted,
            catchUp_of_halted hHalted,
            untilHalted_of_halted hHalted]
      | false =>
          rw [untilHalted_cons hHalted] at h ⊢
          rw [catchUpWithin?_of_some hHalted hNext,
            catchUp_of_some hHalted hNext]
          cases hFault : (s.make beat).2 with
          | some fault =>
              have hAfter := isHalted_make_of_fault hFault
              rw [untilHalted_of_halted hAfter]
          | none =>
              have hLess :
                  ((s.make beat).1.untilHalted
                    later.due).length < more :=
                Nat.lt_of_succ_lt_succ h
              have hRest := ih hLess
                (Nat.exists_eq_add_one_of_ne_zero
                  (Nat.ne_zero_of_lt hLess))
              simp only [hRest, Option.map_some]

------------------------------------------------------------
-- Lapses
------------------------------------------------------------

/- The beats that an engine makes when time passes. -/
def madeIn
    (s : Session κ)
    (elapsed : Nat) : List Beat :=
  s.untilHalted
    (s.engine.clocks.collect (min elapsed longestLapse)).due

/-
  In one lapse, a reachable engine makes no more than 250000
  beats of either kind.
-/
theorem count_madeIn_le
    {s : Session κ}
    (h : s.engine.Reachable)
    (elapsed : Nat)
    (beat : Beat) :
    (s.madeIn elapsed).count beat ≤ 250000 := by
  rcases h.isHalted_or_all_settled with hHalted | hSettled
  · rw [madeIn, untilHalted_of_halted hHalted,
      List.count_nil]
    exact Nat.zero_le _
  · exact Nat.le_trans (s.count_untilHalted_le _ beat)
      (Clocks.count_due_le hSettled (Nat.min_le_right _ _)
        beat)

/- So 500001 rounds are enough, and no check fails. -/
theorem advanceWithin?_eq
    {s : Session κ}
    (h : s.engine.Reachable)
    (elapsed : Nat) :
    s.advanceWithin? 500001 elapsed =
      some (s.advance elapsed, s.madeIn elapsed) := by
  cases hHalted : s.engine.isHalted with
  | true =>
      rw [advanceWithin?, advance, madeIn, if_pos hHalted,
        if_pos hHalted, untilHalted_of_halted hHalted]
  | false =>
      have hNot : ¬ s.engine.isHalted = true := by
        simp [hHalted]
      have hSettled :=
        h.isHalted_or_all_settled.resolve_left hNot
      have hTime :
          ∀ beat,
            (s.engine.clocks.of beat).lag +
                min elapsed longestLapse <
              Checked.durationLimit := by
        intro beat
        have hLag := (hSettled beat).lag_le
        unfold longestLapse Checked.durationLimit
        omega
      have hCycles := count_madeIn_le h elapsed .cycle
      have hTicks := count_madeIn_le h elapsed .tick
      have hRounds : (s.madeIn elapsed).length < 500001 := by
        rw [Beat.length_eq_count_add_count]
        omega
      rw [advanceWithin?, advance, if_neg hNot, if_neg hNot,
        Clocks.checkCollect_eq hTime]
      exact catchUpWithin?_eq hRounds

/-
  Letting any time pass ends for every reachable engine, after
  no more than 250000 steps and 250000 ticks. No sum of times
  is too long and nothing is divided by zero on the way. An
  engine that has not halted then is left with settled clocks,
  and it is reachable again.
-/
theorem advance_ends_in_rounds
    {s : Session κ}
    (hReachable : s.engine.Reachable)
    (elapsed : Nat) :
    let result := s.advance elapsed
    (∃ beats,
        s.advanceWithin? 500001 elapsed =
            some (result, beats) ∧
          beats.count .cycle ≤ 250000 ∧
          beats.count .tick ≤ 250000) ∧
      (result.1.engine.isHalted = false →
        ∀ beat, (result.1.engine.clocks.of beat).Settled) ∧
      result.1.engine.Reachable := by
  intro result
  have hAfter : result.1.engine.Reachable :=
    .obey s (.advance elapsed) hReachable
  refine ⟨⟨s.madeIn elapsed, ?_, ?_, ?_⟩, ?_, hAfter⟩
  · exact advanceWithin?_eq hReachable elapsed
  · exact count_madeIn_le hReachable elapsed .cycle
  · exact count_madeIn_le hReachable elapsed .tick
  · intro hNot
    apply hAfter.isHalted_or_all_settled.resolve_left
    simp [hNot]

/-
  The highest rate there is calls a beat every microsecond,
  and even the longest time there is ends.
-/
theorem longest_time_ends_at_highest_rate :
    let s :=
      Session.initial
        (Engine.switchedOn ⟨4294967295, 0⟩
          (Generator.ofSeed 7))
        Keypad.initial
    let elapsed := 18446744073709551615999999999
    let result := s.advance elapsed
    s.engine.clocks.cycles.period? = some 1000 ∧
      s.engine.clocks.ticks.period? = none ∧
      s.engine.Reachable ∧
      (∃ beats,
          s.advanceWithin? 500001 elapsed =
              some (result, beats) ∧
            beats.count .cycle ≤ 250000 ∧
            beats.count .tick ≤ 250000) ∧
        (result.1.engine.isHalted = false →
          ∀ beat, (result.1.engine.clocks.of beat).Settled) ∧
        result.1.engine.Reachable := by
  intro s elapsed result
  have hReachable : s.engine.Reachable :=
    .switchedOn ⟨4294967295, 0⟩ (Generator.ofSeed 7)
  have hPeriods :
      s.engine.clocks.cycles.period? = some 1000 ∧
        s.engine.clocks.ticks.period? = none := by
    decide
  exact ⟨hPeriods.1, hPeriods.2, hReachable,
    advance_ends_in_rounds hReachable elapsed⟩

end Session

end ChipEight
