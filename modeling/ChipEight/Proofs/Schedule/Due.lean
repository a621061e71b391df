import ChipEight.Engine.Clock

/-
  What falls due on two clocks, and how it depends on the
  time they have collected.

  The beats that are due are found by asking again and again
  what is next. The answers never depend on time that is
  collected later: more time only adds beats behind those
  that are due already. So it does not matter whether time is
  collected at once or in parts with the due beats made in
  between.

  Key definitions include:
    * `ChipEight.Clocks.due`
    * `ChipEight.Clocks.settled`

  Main declarations:
    * `ChipEight.Clocks.next?_collect`
    * `ChipEight.Clocks.due_collect`
    * `ChipEight.Clocks.settled_collect`
-/

namespace ChipEight

------------------------------------------------------------
-- More Time On One Clock
------------------------------------------------------------

namespace Clock

/- A clock that stands still collects nothing. -/
theorem collect_of_still
    {c : Clock}
    (h : c.period? = none)
    (elapsed : Nat) :
    c.collect elapsed = c := by
  simp [collect, h]

/- A running clock keeps all time it collects. -/
theorem collect_of_running
    {c : Clock}
    {period : Nat}
    (h : c.period? = some period)
    (elapsed : Nat) :
    c.collect elapsed = { c with lag := c.lag + elapsed } := by
  simp [collect, h]

/- Collecting time leaves the period as it is. -/
@[simp]
theorem period?_collect
    (c : Clock)
    (elapsed : Nat) :
    (c.collect elapsed).period? = c.period? := by
  unfold collect
  split
  · rfl
  · rfl

/- Collecting no time changes nothing. -/
@[simp]
theorem collect_zero (c : Clock) : c.collect 0 = c := by
  unfold collect
  split
  · rfl
  · rfl

/- Time collected in two parts is collected as a whole. -/
theorem collect_collect
    (c : Clock)
    (first second : Nat) :
    (c.collect first).collect second =
      c.collect (first + second) := by
  cases h : c.period? with
  | none =>
      rw [collect_of_still h, collect_of_still h,
        collect_of_still h]
  | some period =>
      have hFirst :
          (c.collect first).period? = some period := by
        rw [period?_collect, h]
      rw [collect_of_running hFirst, collect_of_running h,
        collect_of_running h, Nat.add_assoc]

/- A beat is due once a whole period was collected. -/
theorem overdue?_eq_some_iff
    {c : Clock}
    {left : Nat} :
    c.overdue? = some left ↔
      ∃ period, c.period? = some period ∧
        c.lag = period + left := by
  unfold overdue?
  cases h : c.period? with
  | none =>
      simp
  | some period =>
      by_cases hDue : period ≤ c.lag
      · simp only [hDue, if_true, Option.some.injEq,
          exists_eq_left']
        omega
      · simp only [hDue, if_false, Option.some.injEq,
          exists_eq_left', reduceCtorEq, false_iff]
        omega

/- No beat is due while the lag is below the period. -/
theorem overdue?_eq_none_iff {c : Clock} :
    c.overdue? = none ↔
      ∀ period, c.period? = some period →
        c.lag < period := by
  unfold overdue?
  cases h : c.period? with
  | none =>
      simp
  | some period =>
      by_cases hDue : period ≤ c.lag
      · simp [hDue]
      · simp only [hDue, if_false, Option.some.injEq,
          forall_eq', true_iff]
        omega

/- A beat that is due stays due, with more time left. -/
theorem overdue?_collect_of_some
    {c : Clock}
    {left : Nat}
    (h : c.overdue? = some left)
    (elapsed : Nat) :
    (c.collect elapsed).overdue? =
      some (left + elapsed) := by
  rcases overdue?_eq_some_iff.mp h with
    ⟨period, hPeriod, hLag⟩
  apply overdue?_eq_some_iff.mpr
  refine ⟨period, by rw [period?_collect, hPeriod], ?_⟩
  rw [collect_of_running hPeriod]
  simp only
  omega

/- A beat that comes due leaves less than the new time. -/
theorem overdue?_collect_of_none
    {c : Clock}
    (h : c.overdue? = none)
    {elapsed left : Nat}
    (hLater : (c.collect elapsed).overdue? = some left) :
    left < elapsed := by
  rcases overdue?_eq_some_iff.mp hLater with
    ⟨period, hPeriod, hLag⟩
  rw [period?_collect] at hPeriod
  have hBelow := overdue?_eq_none_iff.mp h period hPeriod
  rw [collect_of_running hPeriod] at hLag
  simp only at hLag
  omega

end Clock

------------------------------------------------------------
-- More Time On Both Clocks
------------------------------------------------------------

namespace Clocks

/- Collecting no time changes nothing. -/
@[simp]
theorem collect_zero (c : Clocks) : c.collect 0 = c := by
  simp [collect]

/- Time collected in two parts is collected as a whole. -/
theorem collect_collect
    (c : Clocks)
    (first second : Nat) :
    (c.collect first).collect second =
      c.collect (first + second) := by
  simp [collect, Clock.collect_collect]

/- Time collected behind a cycle is left over by it. -/
theorem afterCycle_collect
    {c : Clocks}
    {left : Nat}
    (h : c.cycles.overdue? = some left)
    (elapsed : Nat) :
    (c.collect elapsed).afterCycle (left + elapsed) =
      (c.afterCycle left).collect elapsed := by
  rcases Clock.overdue?_eq_some_iff.mp h with
    ⟨period, hPeriod, _⟩
  have hLater :
      { c.cycles with lag := left }.period? =
        some period :=
    hPeriod
  simp only [afterCycle, collect,
    Clock.collect_of_running hPeriod,
    Clock.collect_of_running hLater]

/- Time collected behind a tick is left over by it. -/
theorem afterTick_collect
    {c : Clocks}
    {left : Nat}
    (h : c.ticks.overdue? = some left)
    (elapsed : Nat) :
    (c.collect elapsed).afterTick (left + elapsed) =
      (c.afterTick left).collect elapsed := by
  rcases Clock.overdue?_eq_some_iff.mp h with
    ⟨period, hPeriod, _⟩
  have hLater :
      { c.ticks with lag := left }.period? = some period :=
    hPeriod
  simp only [afterTick, collect,
    Clock.collect_of_running hPeriod,
    Clock.collect_of_running hLater]

/-
  What is next stays next when more time is collected: a beat
  that comes due only then is less far behind.
-/
theorem next?_collect
    {c later : Clocks}
    {beat : Beat}
    (h : c.next? = some (beat, later))
    (elapsed : Nat) :
    (c.collect elapsed).next? =
      some (beat, later.collect elapsed) := by
  unfold next? at h ⊢
  have hCycles : (c.collect elapsed).cycles =
      c.cycles.collect elapsed := rfl
  have hTicks : (c.collect elapsed).ticks =
      c.ticks.collect elapsed := rfl
  rw [hCycles, hTicks]
  cases hCycle : c.cycles.overdue? with
  | none =>
      cases hTick : c.ticks.overdue? with
      | none =>
          simp [hCycle, hTick] at h
      | some tickLeft =>
          simp only [hCycle, hTick, Option.some.injEq,
            Prod.mk.injEq] at h
          rcases h with ⟨rfl, rfl⟩
          rw [Clock.overdue?_collect_of_some hTick]
          cases hNew :
              (c.cycles.collect elapsed).overdue? with
          | none =>
              simp only
              rw [afterTick_collect hTick]
          | some left =>
              have hLess :=
                Clock.overdue?_collect_of_none hCycle hNew
              have hBehind : left < tickLeft + elapsed := by
                omega
              simp only [hBehind, if_true]
              rw [afterTick_collect hTick]
  | some cycleLeft =>
      rw [Clock.overdue?_collect_of_some hCycle]
      cases hTick : c.ticks.overdue? with
      | none =>
          simp only [hCycle, hTick, Option.some.injEq,
            Prod.mk.injEq] at h
          rcases h with ⟨rfl, rfl⟩
          cases hNew :
              (c.ticks.collect elapsed).overdue? with
          | none =>
              simp only
              rw [afterCycle_collect hCycle]
          | some left =>
              have hLess :=
                Clock.overdue?_collect_of_none hTick hNew
              have hAhead :
                  ¬ cycleLeft + elapsed < left := by
                omega
              simp only [hAhead, if_false]
              rw [afterCycle_collect hCycle]
      | some tickLeft =>
          rw [Clock.overdue?_collect_of_some hTick]
          simp only [hCycle, hTick] at h
          by_cases hOrder : cycleLeft < tickLeft
          · simp only [hOrder, if_true, Option.some.injEq,
              Prod.mk.injEq] at h
            rcases h with ⟨rfl, rfl⟩
            have hShifted :
                cycleLeft + elapsed < tickLeft + elapsed := by
              omega
            simp only [hShifted, if_true]
            rw [afterTick_collect hTick]
          · simp only [hOrder, if_false, Option.some.injEq,
              Prod.mk.injEq] at h
            rcases h with ⟨rfl, rfl⟩
            have hShifted :
                ¬ cycleLeft + elapsed <
                  tickLeft + elapsed := by
              omega
            simp only [hShifted, if_false]
            rw [afterCycle_collect hCycle]

------------------------------------------------------------
-- All That Is Due
------------------------------------------------------------

/- The beats that are due, in the order they fell due. -/
def due (c : Clocks) : List Beat :=
  match _hNext : c.next? with
  | none => []
  | some (beat, later) => beat :: later.due
termination_by c.backlog
decreasing_by
  exact backlog_next?_lt _hNext

/- The clocks once all beats that are due are made. -/
def settled (c : Clocks) : Clocks :=
  match _hNext : c.next? with
  | none => c
  | some (_, later) => later.settled
termination_by c.backlog
decreasing_by
  exact backlog_next?_lt _hNext

/- Nothing is due if nothing is next. -/
theorem due_of_none
    {c : Clocks}
    (h : c.next? = none) :
    c.due = [] := by
  unfold due
  split
  · rfl
  · simp_all

/- What is next is the first that is due. -/
theorem due_of_some
    {c later : Clocks}
    {beat : Beat}
    (h : c.next? = some (beat, later)) :
    c.due = beat :: later.due := by
  rw [due]
  split
  · simp_all
  · simp_all

/- Clocks with nothing due are settled. -/
theorem settled_of_none
    {c : Clocks}
    (h : c.next? = none) :
    c.settled = c := by
  unfold settled
  split
  · rfl
  · simp_all

/- Making what is next does not change where clocks settle. -/
theorem settled_of_some
    {c later : Clocks}
    {beat : Beat}
    (h : c.next? = some (beat, later)) :
    c.settled = later.settled := by
  rw [settled]
  split
  · simp_all
  · simp_all

/- Nothing is due on settled clocks. -/
theorem next?_settled (c : Clocks) :
    c.settled.next? = none := by
  induction c using due.induct with
  | case1 c hNext =>
      rw [settled_of_none hNext, hNext]
  | case2 c beat later hNext ih =>
      rw [settled_of_some hNext]
      exact ih

/-
  What is due after more time starts with what was due before
  it; the rest comes due on the settled clocks.
-/
theorem due_collect
    (c : Clocks)
    (elapsed : Nat) :
    (c.collect elapsed).due =
      c.due ++ (c.settled.collect elapsed).due := by
  induction c using due.induct with
  | case1 c hNext =>
      rw [due_of_none hNext, settled_of_none hNext,
        List.nil_append]
  | case2 c beat later hNext ih =>
      rw [due_of_some (next?_collect hNext elapsed),
        due_of_some hNext, settled_of_some hNext, ih,
        List.cons_append]

/- Settling in between does not change where clocks settle. -/
theorem settled_collect
    (c : Clocks)
    (elapsed : Nat) :
    (c.settled.collect elapsed).settled =
      (c.collect elapsed).settled := by
  induction c using due.induct with
  | case1 c hNext =>
      rw [settled_of_none hNext]
  | case2 c beat later hNext ih =>
      rw [settled_of_some hNext,
        settled_of_some (next?_collect hNext elapsed), ih]

end Clocks

end ChipEight
