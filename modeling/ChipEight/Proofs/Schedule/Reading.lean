import ChipEight.Proofs.Schedule.Due

/-
  What two clocks say about the one time they follow.

  Clocks know no instants, only two lags that shrink
  separately. The link is that the lag of a clock and the
  periods of its beats so far make up the time that has
  passed; it holds for both clocks and the same time after
  every beat.

  Key definitions include:
    * `ChipEight.Clocks.of`
    * `ChipEight.Clocks.Reads`
    * `ChipEight.Clocks.IsNext`

  Main declarations:
    * `ChipEight.Clocks.isNext_of_next?`
    * `ChipEight.Clocks.Reads.collect`
    * `ChipEight.Clocks.Reads.next`
    * `ChipEight.Clocks.count_due_mul_add_lag`
-/

namespace ChipEight

namespace Clocks

------------------------------------------------------------
-- Both Clocks Against One Time
------------------------------------------------------------

/- The clock that calls a beat. -/
def of
    (c : Clocks) : Beat → Clock
  | .cycle => c.cycles
  | .tick => c.ticks

/- The clock of a beat collects what both collect. -/
@[simp]
theorem of_collect
    (c : Clocks)
    (elapsed : Nat)
    (beat : Beat) :
    (c.collect elapsed).of beat =
      (c.of beat).collect elapsed := by
  cases beat with
  | cycle => rfl
  | tick => rfl

/-
  The clocks have followed a time in which a history of beats
  was made: the beats of a running clock and its lag make up
  the time, and a clock that stands still has no lag.
-/
structure Reads
    (c : Clocks)
    (time : Nat)
    (history : List Beat) : Prop where
  running :
    ∀ beat period, (c.of beat).period? = some period →
      history.count beat * period + (c.of beat).lag = time
  still :
    ∀ beat, (c.of beat).period? = none →
      (c.of beat).lag = 0

/- Clocks that collect follow the time. -/
theorem Reads.collect
    {c : Clocks}
    {time : Nat}
    {history : List Beat}
    (h : c.Reads time history)
    (elapsed : Nat) :
    (c.collect elapsed).Reads (time + elapsed) history where
  running := by
    intro beat period hPeriod
    rw [of_collect, Clock.period?_collect] at hPeriod
    have hTime := h.running beat period hPeriod
    rw [of_collect, Clock.collect_of_running hPeriod]
    simp only
    omega
  still := by
    intro beat hStill
    rw [of_collect, Clock.period?_collect] at hStill
    rw [of_collect, Clock.collect_of_still hStill]
    exact h.still beat hStill

------------------------------------------------------------
-- What Is Next
------------------------------------------------------------

/-
  A cycle is next if it is due and no tick has been due for
  longer.
-/
theorem next?_cycle
    {c later : Clocks}
    (h : c.next? = some (.cycle, later)) :
    ∃ period left, c.cycles.period? = some period ∧
      c.cycles.lag = period + left ∧
      later = c.afterCycle left ∧
      ∀ other, c.ticks.period? = some other →
        c.ticks.lag ≤ other + left := by
  cases hCycle : c.cycles.overdue? with
  | none =>
      cases hTick : c.ticks.overdue? with
      | none => simp [next?, hCycle, hTick] at h
      | some tickLeft => simp [next?, hCycle, hTick] at h
  | some left =>
      rcases Clock.overdue?_eq_some_iff.mp hCycle with
        ⟨period, hPeriod, hLag⟩
      cases hTick : c.ticks.overdue? with
      | none =>
          simp only [next?, hCycle, hTick, Option.some.injEq,
            Prod.mk.injEq, true_and] at h
          refine ⟨period, left, hPeriod, hLag, h.symm, ?_⟩
          intro other hOther
          have := Clock.overdue?_eq_none_iff.mp hTick
            other hOther
          omega
      | some tickLeft =>
          simp only [next?, hCycle, hTick] at h
          split at h
          · simp at h
          · rename_i hOrder
            simp only [Option.some.injEq, Prod.mk.injEq,
              true_and] at h
            refine ⟨period, left, hPeriod, hLag, h.symm, ?_⟩
            intro other hOther
            rcases Clock.overdue?_eq_some_iff.mp hTick with
              ⟨tickPeriod, hTickPeriod, hTickLag⟩
            rw [hTickPeriod] at hOther
            cases hOther
            omega

/-
  A tick is next if it is due and has been due for longer
  than any cycle.
-/
theorem next?_tick
    {c later : Clocks}
    (h : c.next? = some (.tick, later)) :
    ∃ period left, c.ticks.period? = some period ∧
      c.ticks.lag = period + left ∧
      later = c.afterTick left ∧
      ∀ other, c.cycles.period? = some other →
        c.cycles.lag < other + left := by
  cases hTick : c.ticks.overdue? with
  | none =>
      cases hCycle : c.cycles.overdue? with
      | none => simp [next?, hCycle, hTick] at h
      | some cycleLeft => simp [next?, hCycle, hTick] at h
  | some left =>
      rcases Clock.overdue?_eq_some_iff.mp hTick with
        ⟨period, hPeriod, hLag⟩
      cases hCycle : c.cycles.overdue? with
      | none =>
          simp only [next?, hCycle, hTick, Option.some.injEq,
            Prod.mk.injEq, true_and] at h
          refine ⟨period, left, hPeriod, hLag, h.symm, ?_⟩
          intro other hOther
          have := Clock.overdue?_eq_none_iff.mp hCycle
            other hOther
          omega
      | some cycleLeft =>
          simp only [next?, hCycle, hTick] at h
          split at h
          · rename_i hOrder
            simp only [Option.some.injEq, Prod.mk.injEq,
              true_and] at h
            refine ⟨period, left, hPeriod, hLag, h.symm, ?_⟩
            intro other hOther
            rcases Clock.overdue?_eq_some_iff.mp hCycle with
              ⟨cyclePeriod, hCyclePeriod, hCycleLag⟩
            rw [hCyclePeriod] at hOther
            cases hOther
            omega
          · simp at h

/-
  What it means for a beat to be next: it has been due for
  some time, which its clock keeps as its lag; the other
  clock stays as it is, and what it calls next is due no
  earlier, or later if the beat is a tick.
-/
structure IsNext
    (c : Clocks)
    (beat : Beat)
    (later : Clocks)
    (period left : Nat) : Prop where
  period_eq : (c.of beat).period? = some period
  lag_eq : (c.of beat).lag = period + left
  lag_later : (later.of beat).lag = left
  period_later :
    ∀ other, (later.of other).period? = (c.of other).period?
  of_later :
    ∀ other, other ≠ beat → later.of other = c.of other
  other_le :
    ∀ other otherPeriod, other ≠ beat →
      (c.of other).period? = some otherPeriod →
        (c.of other).lag ≤ otherPeriod + left
  other_lt :
    ∀ other otherPeriod, other ≠ beat → beat = .tick →
      (c.of other).period? = some otherPeriod →
        (c.of other).lag < otherPeriod + left

/- The answer of the clocks is the beat that is next. -/
theorem isNext_of_next?
    {c later : Clocks}
    {beat : Beat}
    (h : c.next? = some (beat, later)) :
    ∃ period left, c.IsNext beat later period left := by
  cases beat with
  | cycle =>
      rcases next?_cycle h with
        ⟨period, left, hPeriod, hLag, rfl, hTicks⟩
      refine ⟨period, left, hPeriod, hLag, rfl, ?_, ?_, ?_,
        ?_⟩
      · intro other
        cases other with
        | cycle => rfl
        | tick => rfl
      · intro other hOther
        cases other with
        | cycle => exact absurd rfl hOther
        | tick => rfl
      · intro other otherPeriod hOther hOtherPeriod
        cases other with
        | cycle => exact absurd rfl hOther
        | tick => exact hTicks otherPeriod hOtherPeriod
      · intro other otherPeriod _ hTick
        cases hTick
  | tick =>
      rcases next?_tick h with
        ⟨period, left, hPeriod, hLag, rfl, hCycles⟩
      have hLess :
          ∀ other otherPeriod, other ≠ .tick →
            (c.of other).period? = some otherPeriod →
              (c.of other).lag < otherPeriod + left := by
        intro other otherPeriod hOther hOtherPeriod
        cases other with
        | cycle => exact hCycles otherPeriod hOtherPeriod
        | tick => exact absurd rfl hOther
      refine ⟨period, left, hPeriod, hLag, rfl, ?_, ?_, ?_,
        ?_⟩
      · intro other
        cases other with
        | cycle => rfl
        | tick => rfl
      · intro other hOther
        cases other with
        | cycle => rfl
        | tick => exact absurd rfl hOther
      · intro other otherPeriod hOther hOtherPeriod
        exact Nat.le_of_lt
          (hLess other otherPeriod hOther hOtherPeriod)
      · intro other otherPeriod hOther _ hOtherPeriod
        exact hLess other otherPeriod hOther hOtherPeriod

/- If nothing is next, every lag is below its period. -/
theorem lag_lt_of_next?_eq_none
    {c : Clocks}
    (h : c.next? = none)
    (beat : Beat)
    {period : Nat}
    (hPeriod : (c.of beat).period? = some period) :
    (c.of beat).lag < period := by
  unfold next? at h
  split at h
  · rename_i hCycles hTicks
    cases beat with
    | cycle =>
        exact Clock.overdue?_eq_none_iff.mp hCycles
          period hPeriod
    | tick =>
        exact Clock.overdue?_eq_none_iff.mp hTicks
          period hPeriod
  · cases h
  · cases h
  · split at h
    · cases h
    · cases h

/- The beat that is next joins the history. -/
theorem Reads.next
    {c later : Clocks}
    {time period left : Nat}
    {history : List Beat}
    {beat : Beat}
    (h : c.Reads time history)
    (hNext : c.IsNext beat later period left) :
    later.Reads time (history ++ [beat]) where
  running := by
    intro other otherPeriod hOtherPeriod
    rw [hNext.period_later] at hOtherPeriod
    have hTime := h.running other otherPeriod hOtherPeriod
    by_cases hSame : other = beat
    · subst hSame
      have hPeriod := hNext.period_eq
      have hLag := hNext.lag_eq
      rw [hOtherPeriod] at hPeriod
      cases hPeriod
      rw [List.count_append, List.count_singleton_self,
        Nat.add_mul, hNext.lag_later]
      omega
    · have hCount : [beat].count other = 0 := by
        rw [List.count_eq_zero, List.mem_singleton]
        exact hSame
      rw [List.count_append, hCount,
        hNext.of_later other hSame, Nat.add_zero]
      exact hTime
  still := by
    intro other hStill
    rw [hNext.period_later] at hStill
    by_cases hSame : other = beat
    · subst hSame
      rw [hNext.period_eq] at hStill
      cases hStill
    · rw [hNext.of_later other hSame]
      exact h.still other hStill

/- Settling leaves the periods as they are. -/
theorem period?_settled
    (c : Clocks)
    (beat : Beat) :
    (c.settled.of beat).period? = (c.of beat).period? := by
  induction c using due.induct with
  | case1 c hNext =>
      rw [settled_of_none hNext]
  | case2 c next later hNext ih =>
      rcases isNext_of_next? hNext with ⟨_, _, hIsNext⟩
      rw [settled_of_some hNext, ih, hIsNext.period_later]

/- A clock that calls no beat is left alone by settling. -/
theorem of_settled_of_not_mem
    {c : Clocks}
    {beat : Beat}
    (h : beat ∉ c.due) :
    c.settled.of beat = c.of beat := by
  induction c using due.induct with
  | case1 c hNext =>
      rw [settled_of_none hNext]
  | case2 c next later hNext ih =>
      rw [due_of_some hNext, List.mem_cons, not_or] at h
      rcases h with ⟨hOther, hRest⟩
      rcases isNext_of_next? hNext with ⟨_, _, hIsNext⟩
      rw [settled_of_some hNext, ih hRest,
        hIsNext.of_later beat hOther]

------------------------------------------------------------
-- Beats Against Lags
------------------------------------------------------------

/- A clock that stands still calls no beat. -/
theorem not_mem_due_of_still
    {c : Clocks}
    {beat : Beat}
    (h : (c.of beat).period? = none) :
    beat ∉ c.due := by
  induction c using due.induct with
  | case1 c hNext =>
      rw [due_of_none hNext]
      exact List.not_mem_nil
  | case2 c next later hNext ih =>
      rcases isNext_of_next? hNext with ⟨_, _, hIsNext⟩
      have hLater : (later.of beat).period? = none := by
        rw [hIsNext.period_later, h]
      rw [due_of_some hNext, List.mem_cons, not_or]
      refine ⟨?_, ih hLater⟩
      rintro rfl
      rw [hIsNext.period_eq] at h
      cases h

/-
  A running clock gives a period for every beat it calls, and
  keeps the rest of its lag. The induction is on the beats
  that are due, and each of them is called by one clock.
-/
theorem count_due_mul_add_lag
    {c : Clocks}
    {beat : Beat}
    {period : Nat}
    (h : (c.of beat).period? = some period) :
    c.due.count beat * period + (c.settled.of beat).lag =
      (c.of beat).lag := by
  induction c using due.induct with
  | case1 c hNext =>
      rw [due_of_none hNext, settled_of_none hNext,
        List.count_nil, Nat.zero_mul, Nat.zero_add]
  | case2 c next later hNext ih =>
      rcases isNext_of_next? hNext with
        ⟨nextPeriod, left, hIsNext⟩
      have hRest := ih ((hIsNext.period_later beat).trans h)
      rw [due_of_some hNext, settled_of_some hNext]
      by_cases hSame : beat = next
      · subst hSame
        have hPeriod := hIsNext.period_eq
        rw [h] at hPeriod
        cases hPeriod
        rw [hIsNext.lag_later] at hRest
        rw [List.count_cons_self, Nat.add_mul, Nat.one_mul,
          hIsNext.lag_eq]
        omega
      · rw [hIsNext.of_later beat hSame] at hRest
        rw [List.count_cons_of_ne (Ne.symm hSame)]
        exact hRest

end Clocks

end ChipEight
