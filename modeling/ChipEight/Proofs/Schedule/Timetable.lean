import ChipEight.Engine.Basic
import ChipEight.Proofs.Schedule.Reading

/-
  The order in which two clocks call beats, as a timetable.

  A timetable says at which instants beats are called: each
  clock calls at the whole multiples of its own period, and a
  cycle goes before a tick called at the same instant. The
  beats that fall due on new clocks are those of a timetable,
  in its order.

  Key definitions include:
    * `ChipEight.Clock.interval`
    * `ChipEight.Clock.beatsWithin`
    * `ChipEight.Clock.timeLeft`
    * `ChipEight.Earlier`
    * `ChipEight.IsTimetable`

  Main declarations:
    * `ChipEight.Clocks.exists_timetable_due`
    * `ChipEight.Clocks.count_due_and_lag_settled`
-/

namespace ChipEight

------------------------------------------------------------
-- Beats Within A Time
------------------------------------------------------------

namespace Clock

/- Nanoseconds between two beats at a rate above zero. -/
def interval (rate : Nat) : Nat :=
  1000000000 / min rate 1000000

/- How many beats a clock of a rate makes within a time. -/
def beatsWithin (rate time : Nat) : Nat :=
  if rate = 0 then
    0
  else
    time / interval rate

/- What its beats within a time leave of the time. -/
def timeLeft (rate time : Nat) : Nat :=
  if rate = 0 then
    0
  else
    time % interval rate

/- A running clock beats once in an interval. -/
theorem period?_eq_some_iff
    {c : Clock}
    {period : Nat} :
    c.period? = some period ↔
      c.rate ≠ 0 ∧ period = interval c.rate := by
  unfold period? interval second rateLimit
  by_cases h : c.rate = 0
  · simp [h]
  · simp only [h, if_false, Option.some.injEq, ne_eq,
      not_false_iff, true_and]
    exact eq_comm

/- Only a clock of rate zero stands still. -/
theorem period?_eq_none_iff {c : Clock} :
    c.period? = none ↔ c.rate = 0 := by
  unfold period?
  by_cases h : c.rate = 0
  · simp [h]
  · simp [h]

end Clock

------------------------------------------------------------
-- Timetables
------------------------------------------------------------

/- The rate at which a beat is called. -/
def Rates.of
    (rates : Rates) : Beat → Nat
  | .cycle => rates.cycles
  | .tick => rates.ticks

/-
  Whether a call goes before another: it is due earlier, or
  it is a cycle and the other a tick due at the same instant.
-/
def Earlier (a b : Nat × Beat) : Prop :=
  a.1 < b.1 ∨ a.1 = b.1 ∧ a.2 = .cycle ∧ b.2 = .tick

/-
  All calls up to a time, each with the instant at which it
  is due, in the order in which they are to be made.
-/
structure IsTimetable
    (rates : Rates)
    (time : Nat)
    (calls : List (Nat × Beat)) : Prop where
  ordered : calls.Pairwise Earlier
  complete :
    ∀ instant beat,
      (instant, beat) ∈ calls ↔
        rates.of beat ≠ 0 ∧
          ∃ k, 0 < k ∧
            instant = k * Clock.interval (rates.of beat) ∧
            instant ≤ time

namespace Clocks

------------------------------------------------------------
-- Calls Still To Come
------------------------------------------------------------

/-
  Whether a call is to come within a time, after a history of
  beats: its clock runs, and it is due at a multiple of the
  period that goes beyond the beats made so far.
-/
def ToCome
    (c : Clocks)
    (time : Nat)
    (history : List Beat)
    (call : Nat × Beat) : Prop :=
  ∃ period, (c.of call.2).period? = some period ∧
    ∃ k, history.count call.2 < k ∧
      call.1 = k * period ∧
      call.1 ≤ time

/- No call is to come if nothing is next. -/
theorem Reads.not_toCome
    {c : Clocks}
    {time : Nat}
    {history : List Beat}
    (h : c.Reads time history)
    (hNext : c.next? = none)
    (call : Nat × Beat) :
    ¬ c.ToCome time history call := by
  rintro ⟨period, hPeriod, k, hCount, hInstant, hTime⟩
  have hReads := h.running call.2 period hPeriod
  have hLag := lag_lt_of_next?_eq_none hNext call.2 hPeriod
  have hMultiple :
      (history.count call.2 + 1) * period ≤ k * period :=
    Nat.mul_le_mul_right period hCount
  rw [Nat.add_mul, Nat.one_mul] at hMultiple
  omega

/- The instant at which the beat that is next was due. -/
theorem Reads.instant_next
    {c later : Clocks}
    {time period left : Nat}
    {history : List Beat}
    {beat : Beat}
    (h : c.Reads time history)
    (hNext : c.IsNext beat later period left) :
    (history.count beat + 1) * period + left = time := by
  have hReads := h.running beat period hNext.period_eq
  have hLag := hNext.lag_eq
  rw [Nat.add_mul, Nat.one_mul]
  omega

/-
  The calls to come are the one that is next and those to
  come after it.
-/
theorem Reads.toCome_iff
    {c later : Clocks}
    {time period left : Nat}
    {history : List Beat}
    {beat : Beat}
    (h : c.Reads time history)
    (hNext : c.IsNext beat later period left)
    (call : Nat × Beat) :
    c.ToCome time history call ↔
      call = ((history.count beat + 1) * period, beat) ∨
        later.ToCome time (history ++ [beat]) call := by
  rcases call with ⟨instant, other⟩
  have hInstant := h.instant_next hNext
  unfold ToCome
  simp only [hNext.period_later, Prod.mk.injEq]
  by_cases hSame : other = beat
  · subst hSame
    have hCount :
        (history ++ [other]).count other =
          history.count other + 1 := by
      rw [List.count_append, List.count_singleton_self]
    rw [hCount]
    constructor
    · rintro ⟨p, hPeriod, k, hAfter, hDue, hTime⟩
      rw [hNext.period_eq] at hPeriod
      cases hPeriod
      by_cases hFirst : k = history.count other + 1
      · subst hFirst
        exact Or.inl ⟨hDue, rfl⟩
      · refine Or.inr
          ⟨period, hNext.period_eq, k, ?_, hDue, hTime⟩
        omega
    · rintro (⟨hDue, _⟩ | ⟨p, hPeriod, k, hAfter, hRest⟩)
      · refine ⟨period, hNext.period_eq, _,
          Nat.lt_succ_self _, hDue, ?_⟩
        omega
      · exact ⟨p, hPeriod, k, by omega, hRest⟩
  · have hCount :
        (history ++ [beat]).count other =
          history.count other := by
      have hNone : [beat].count other = 0 := by
        rw [List.count_eq_zero, List.mem_singleton]
        exact hSame
      rw [List.count_append, hNone, Nat.add_zero]
    rw [hCount]
    simp [hSame]

/- The call that is next goes before those to come after it. -/
theorem Reads.earlier_of_toCome
    {c later : Clocks}
    {time period left : Nat}
    {history : List Beat}
    {beat : Beat}
    (h : c.Reads time history)
    (hNext : c.IsNext beat later period left)
    {call : Nat × Beat}
    (hCall : later.ToCome time (history ++ [beat]) call) :
    Earlier ((history.count beat + 1) * period, beat)
      call := by
  rcases call with ⟨instant, other⟩
  rcases hCall with
    ⟨otherPeriod, hPeriod, k, hCount, hInstant, _⟩
  simp only at hPeriod hCount hInstant
  rw [hNext.period_later] at hPeriod
  have hFirst := h.instant_next hNext
  by_cases hSame : other = beat
  · subst hSame
    rw [hNext.period_eq] at hPeriod
    cases hPeriod
    rw [List.count_append, List.count_singleton_self]
      at hCount
    have hPositive := Clock.period?_pos hNext.period_eq
    refine Or.inl ?_
    simp only [hInstant]
    exact Nat.mul_lt_mul_of_pos_right hCount hPositive
  · have hNone : [beat].count other = 0 := by
      rw [List.count_eq_zero, List.mem_singleton]
      exact hSame
    rw [List.count_append, hNone, Nat.add_zero] at hCount
    have hReads := h.running other otherPeriod hPeriod
    have hLag :=
      hNext.other_le other otherPeriod hSame hPeriod
    have hMultiple :
        (history.count other + 1) * otherPeriod ≤
          k * otherPeriod :=
      Nat.mul_le_mul_right otherPeriod hCount
    rw [Nat.add_mul, Nat.one_mul] at hMultiple
    unfold Earlier
    simp only
    cases beat with
    | cycle =>
        cases other with
        | cycle => exact absurd rfl hSame
        | tick =>
            simp only [and_self, and_true]
            omega
    | tick =>
        have hLess :=
          hNext.other_lt other otherPeriod hSame rfl hPeriod
        refine Or.inl ?_
        omega

/-
  The due beats are called in the order of their instants;
  the induction is on the beats that are due, and the history
  that has grown by each of them carries it.
-/
theorem Reads.exists_calls
    {c : Clocks}
    {time : Nat}
    {history : List Beat}
    (h : c.Reads time history) :
    ∃ calls : List (Nat × Beat),
      calls.Pairwise Earlier ∧
        (∀ call, call ∈ calls ↔
          c.ToCome time history call) ∧
        calls.map Prod.snd = c.due := by
  induction c using due.induct generalizing history with
  | case1 c hNext =>
      rw [due_of_none hNext]
      refine ⟨[], List.Pairwise.nil, ?_, rfl⟩
      intro call
      simp only [List.not_mem_nil, false_iff]
      exact h.not_toCome hNext call
  | case2 c beat later hNext ih =>
      rcases isNext_of_next? hNext with
        ⟨period, left, hIsNext⟩
      rcases ih (h.next hIsNext) with
        ⟨calls, hOrdered, hComplete, hBeats⟩
      rw [due_of_some hNext]
      refine
        ⟨((history.count beat + 1) * period, beat) :: calls,
          ?_, ?_, ?_⟩
      · refine List.Pairwise.cons ?_ hOrdered
        intro call hCall
        exact h.earlier_of_toCome hIsNext
          ((hComplete call).mp hCall)
      · intro call
        rw [List.mem_cons, hComplete,
          h.toCome_iff hIsNext]
      · rw [List.map_cons, hBeats]

------------------------------------------------------------
-- New Clocks
------------------------------------------------------------

/- Clocks that have collected nothing. -/
def ofRates (rates : Rates) : Clocks where
  cycles := Clock.ofRate rates.cycles
  ticks := Clock.ofRate rates.ticks

/- Each clock is built with the rate of its beat. -/
@[simp]
theorem of_ofRates
    (rates : Rates)
    (beat : Beat) :
    (ofRates rates).of beat =
      Clock.ofRate (rates.of beat) := by
  cases beat with
  | cycle => rfl
  | tick => rfl

/- New clocks have followed no time. -/
theorem reads_ofRates (rates : Rates) :
    (ofRates rates).Reads 0 [] where
  running := by
    intro beat period _
    simp [Clock.ofRate]
  still := by
    intro beat _
    simp [Clock.ofRate]

/- The rate of a clock does not change while it collects. -/
theorem period?_collect_ofRates
    (rates : Rates)
    (time : Nat)
    (beat : Beat)
    {period : Nat} :
    (((ofRates rates).collect time).of beat).period? =
        some period ↔
      rates.of beat ≠ 0 ∧
        period = Clock.interval (rates.of beat) := by
  rw [of_collect, Clock.period?_collect, of_ofRates,
    Clock.period?_eq_some_iff]
  rfl

/- New clocks that follow a time read it. -/
theorem reads_collect_ofRates
    (rates : Rates)
    (time : Nat) :
    ((ofRates rates).collect time).Reads time [] := by
  simpa using (reads_ofRates rates).collect time

/- New clocks call by a timetable. -/
theorem exists_timetable_due
    (rates : Rates)
    (time : Nat) :
    ∃ calls, IsTimetable rates time calls ∧
      calls.map Prod.snd =
        ((ofRates rates).collect time).due := by
  rcases (reads_collect_ofRates rates time).exists_calls with
    ⟨calls, hOrdered, hComplete, hBeats⟩
  refine ⟨calls, ⟨hOrdered, ?_⟩, hBeats⟩
  intro instant beat
  rw [hComplete]
  simp only [ToCome, period?_collect_ofRates,
    List.count_nil]
  constructor
  · rintro ⟨period, ⟨hRate, rfl⟩, hRest⟩
    exact ⟨hRate, hRest⟩
  · rintro ⟨hRate, hRest⟩
    exact ⟨_, ⟨hRate, rfl⟩, hRest⟩

/-
  The beats that new clocks make within a time, and the time
  that they leave: the time divided by the period.
-/
theorem count_due_and_lag_settled
    (rates : Rates)
    (time : Nat)
    (beat : Beat) :
    ((ofRates rates).collect time).due.count beat =
        Clock.beatsWithin (rates.of beat) time ∧
      (((ofRates rates).collect time).settled.of beat).lag =
        Clock.timeLeft (rates.of beat) time := by
  have hClock :
      ((ofRates rates).collect time).of beat =
        (Clock.ofRate (rates.of beat)).collect time := by
    rw [of_collect, of_ofRates]
  by_cases hRate : rates.of beat = 0
  · have hStill :
        (Clock.ofRate (rates.of beat)).period? = none :=
      Clock.period?_eq_none_iff.mpr hRate
    have hNone :
        beat ∉ ((ofRates rates).collect time).due := by
      apply not_mem_due_of_still
      rw [hClock, Clock.period?_collect, hStill]
    rw [Clock.beatsWithin, Clock.timeLeft, if_pos hRate,
      if_pos hRate, List.count_eq_zero.mpr hNone,
      of_settled_of_not_mem hNone, hClock,
      Clock.collect_of_still hStill]
    exact ⟨rfl, rfl⟩
  · have hRunning :
        (((ofRates rates).collect time).of beat).period? =
          some (Clock.interval (rates.of beat)) :=
      (period?_collect_ofRates rates time beat).mpr
        ⟨hRate, rfl⟩
    have hTime := count_due_mul_add_lag hRunning
    have hLag :=
      lag_lt_of_next?_eq_none (next?_settled _) beat
        ((period?_settled _ beat).trans hRunning)
    rw [hClock, Clock.period?_collect] at hRunning
    rw [hClock, Clock.collect_of_running hRunning,
      Clock.ofRate, Nat.zero_add, Nat.mul_comm] at hTime
    have hUnique :=
      (Nat.div_mod_unique (Nat.zero_lt_of_lt hLag)).mpr
        ⟨(Nat.add_comm _ _).trans hTime, hLag⟩
    rw [Clock.beatsWithin, Clock.timeLeft, if_neg hRate,
      if_neg hRate]
    exact ⟨hUnique.1.symm, hUnique.2.symm⟩

end Clocks

end ChipEight
