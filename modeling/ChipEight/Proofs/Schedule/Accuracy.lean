import ChipEight.Proofs.Schedule.Rounds

/-
  How well the clocks keep to their rates.

  A period is a whole number of nanoseconds and so may be cut
  short, by less than one. The time that a beat does not use
  up is never lost, however time is cut, so the beats made in
  a time are those of its whole periods: no fewer than the
  rate asks for, and more only by what the periods are short.

  Key definitions include:
    * `ChipEight.Session.advanceAllWithin?`

  Main declarations:
    * `ChipEight.Clock.rate_le_beatsWithin`
    * `ChipEight.Clock.beatsWithin_le_rate`
    * `ChipEight.Session.advanceAllWithin?_eq`
    * `ChipEight.Session.clocks_keep_to_rates`
-/

namespace ChipEight

------------------------------------------------------------
-- Intervals
------------------------------------------------------------

namespace Clock

/- The intervals of a second fit into it. -/
theorem interval_mul_le (rate : Nat) :
    interval rate * min rate 1000000 ≤ 1000000000 :=
  Nat.div_mul_le_self _ _

/- A nanosecond more in each, and they do not. -/
theorem lt_interval_add_one_mul
    {rate : Nat}
    (h : rate ≠ 0) :
    1000000000 < (interval rate + 1) * min rate 1000000 := by
  have hPositive : 0 < min rate 1000000 := by
    omega
  rw [Nat.mul_comm]
  exact Nat.lt_mul_div_succ _ hPositive

/- A clock is never slower than its rate. -/
theorem rate_le_beatsWithin
    {rate : Nat}
    (h : rate ≠ 0)
    (time : Nat) :
    time * min rate 1000000 <
      (beatsWithin rate time + 1) * 1000000000 := by
  have hPositive : 0 < min rate 1000000 := by
    omega
  have hPeriod :
      (ofRate rate).period? = some (interval rate) :=
    period?_eq_some_iff.mpr ⟨h, rfl⟩
  have hInterval : 0 < interval rate := period?_pos hPeriod
  have hTime :
      time < (beatsWithin rate time + 1) * interval rate := by
    rw [beatsWithin, if_neg h, Nat.mul_comm]
    exact Nat.lt_mul_div_succ _ hInterval
  calc
    time * min rate 1000000
    _ < (beatsWithin rate time + 1) * interval rate *
          min rate 1000000 :=
        Nat.mul_lt_mul_of_pos_right hTime hPositive
    _ = (beatsWithin rate time + 1) *
          (interval rate * min rate 1000000) :=
        Nat.mul_assoc _ _ _
    _ ≤ (beatsWithin rate time + 1) * 1000000000 :=
        Nat.mul_le_mul_left _ (interval_mul_le rate)

/- It is faster only by what its interval is short. -/
theorem beatsWithin_le_rate
    {rate : Nat}
    (h : rate ≠ 0)
    (time : Nat) :
    beatsWithin rate time *
        (1000000000 - min rate 1000000 + 1) ≤
      time * min rate 1000000 := by
  have hLonger := lt_interval_add_one_mul h
  have hSecond :
      1000000000 - min rate 1000000 + 1 ≤
        interval rate * min rate 1000000 := by
    rw [Nat.add_mul, Nat.one_mul] at hLonger
    omega
  have hTime :
      beatsWithin rate time * interval rate ≤ time := by
    rw [beatsWithin, if_neg h]
    exact Nat.div_mul_le_self _ _
  calc
    beatsWithin rate time *
        (1000000000 - min rate 1000000 + 1)
    _ ≤ beatsWithin rate time *
          (interval rate * min rate 1000000) :=
        Nat.mul_le_mul_left _ hSecond
    _ = beatsWithin rate time * interval rate *
          min rate 1000000 :=
        (Nat.mul_assoc _ _ _).symm
    _ ≤ time * min rate 1000000 :=
        Nat.mul_le_mul_right _ hTime

end Clock

namespace Session

variable {κ : Type} [Controls κ]

------------------------------------------------------------
-- Beats Of Several Lapses
------------------------------------------------------------

/- Which beats are made does not depend on the clocks. -/
theorem untilHalted_setClocks
    (s : Session κ)
    (clocks : Clocks)
    (beats : List Beat) :
    (s.setClocks clocks).untilHalted beats =
      s.untilHalted beats := by
  induction beats generalizing s with
  | nil => rfl
  | cons beat rest ih =>
      simp only [untilHalted, isHalted_setClocks,
        make_setClocks, ih]

/- Beats in two lists are made until one of them halts. -/
theorem untilHalted_append
    (s : Session κ)
    (first second : List Beat) :
    s.untilHalted (first ++ second) =
      s.untilHalted first ++
        (s.makeAll first).1.untilHalted second := by
  induction first generalizing s with
  | nil => rfl
  | cons beat rest ih =>
      cases h : s.engine.isHalted with
      | true =>
          rw [makeAll_of_halted h, untilHalted_of_halted h,
            untilHalted_of_halted h, untilHalted_of_halted h]
          rfl
      | false =>
          rw [List.cons_append, untilHalted_cons h,
            untilHalted_cons h, ih, makeAll_cons]
          rfl

/-
  What is made in a lapse and then in later time is what is
  due in the whole. An engine that halts in the lapse makes
  nothing later, and any other goes on with settled clocks.
-/
theorem madeIn_append_untilHalted
    (s : Session κ)
    (elapsed later : Nat) :
    let after := (s.advance elapsed).1
    s.madeIn elapsed ++
        after.untilHalted
          (after.engine.clocks.collect later).due =
      s.untilHalted
        (s.engine.clocks.collect
          (min elapsed longestLapse + later)).due := by
  intro after
  have hMade := s.makesDue_advance elapsed
  have hSame :
      ∀ beats,
        (s.makeAll
            (s.engine.clocks.collect
              (min elapsed longestLapse)).due).1.untilHalted
          beats =
          after.untilHalted beats := by
    intro beats
    rw [← hMade.session]
    exact untilHalted_setClocks _ _ beats
  rw [← Clocks.collect_collect,
    Clocks.due_collect (s.engine.clocks.collect _),
    untilHalted_append, hSame, madeIn]
  cases hHalted : after.engine.isHalted with
  | true =>
      rw [untilHalted_of_halted hHalted,
        untilHalted_of_halted hHalted]
  | false =>
      have hClocks :
          after.engine.clocks =
            (s.engine.clocks.collect
              (min elapsed longestLapse)).settled :=
        hMade.clocks hHalted
      rw [hClocks]

------------------------------------------------------------
-- Rounds Of Several Lapses
------------------------------------------------------------

/-
  Let lapses pass in turn, each in so many rounds, and list
  all beats that are made.
-/
def advanceAllWithin?
    (rounds : Nat)
    (s : Session κ) :
    List Nat →
      Option ((Session κ × List Fault) × List Beat)
  | [] => some ((s, []), [])
  | elapsed :: rest => do
      let ((t, fault), first) ←
        s.advanceWithin? rounds elapsed
      let ((u, faults), later) ←
        t.advanceAllWithin? rounds rest
      some ((u, fault.toList ++ faults), first ++ later)

/-
  The rounds of each lapse are enough, and the beats made in
  all of them are those due in the whole time. The induction
  is on the lapses: each leaves an engine that is reachable.
-/
theorem advanceAllWithin?_eq
    {s : Session κ}
    (h : s.engine.Reachable)
    (lapses : List Nat) :
    s.advanceAllWithin? 500001 lapses =
      some
        (s.advanceAll lapses,
          s.untilHalted
            (s.engine.clocks.collect
              (lapsed lapses)).due) := by
  induction lapses generalizing s with
  | nil =>
      have hTime : lapsed [] = 0 := rfl
      rw [hTime, Clocks.collect_zero]
      rcases h.isHalted_or_settled with hHalted | hSettled
      · rw [untilHalted_of_halted hHalted]
        rfl
      · rw [Clocks.due_of_none hSettled]
        rfl
  | cons elapsed rest ih =>
      have hAfter :
          (s.advance elapsed).1.engine.Reachable :=
        .obey s (.advance elapsed) h
      have hTime :
          lapsed (elapsed :: rest) =
            min elapsed longestLapse + lapsed rest :=
        rfl
      rw [hTime, ← madeIn_append_untilHalted,
        advanceAllWithin?, advanceWithin?_eq h]
      simp only [Option.bind_eq_bind, Option.bind_some,
        ih hAfter]
      rfl

------------------------------------------------------------
-- Rates
------------------------------------------------------------

/-
  An engine that starts with new clocks and has not halted
  after any lapses has kept to its rates: each running clock
  has made at least as many beats as its rate asks for in the
  whole time, and at most as many more as come of a period
  that is cut to whole nanoseconds. Rates above a million
  count as a million.
-/
theorem clocks_keep_to_rates
    {s : Session κ}
    {rates : Rates}
    (hReachable : s.engine.Reachable)
    (hClocks : s.engine.clocks = Clocks.ofRates rates)
    {lapses : List Nat}
    (hNot :
      (s.advanceAll lapses).1.engine.isHalted = false) :
    ∃ beats,
      s.advanceAllWithin? 500001 lapses =
          some (s.advanceAll lapses, beats) ∧
        ∀ beat,
          rates.of beat ≠ 0 →
            let time := lapsed lapses
            let rate := min (rates.of beat) 1000000
            let n := beats.count beat
            time * rate < (n + 1) * 1000000000 ∧
              n * (1000000000 - rate + 1) ≤ time * rate := by
  have hDue :=
    makesDue_advanceAll hReachable.isHalted_or_settled lapses
  have hAll :
      s.untilHalted
          (s.engine.clocks.collect (lapsed lapses)).due =
        (s.engine.clocks.collect (lapsed lapses)).due := by
    apply untilHalted_of_not_halted
    rw [← hDue.session.isHalted_eq]
    exact hNot
  refine ⟨_, advanceAllWithin?_eq hReachable lapses, ?_⟩
  intro beat hRate time rate n
  have hCount :
      n = Clock.beatsWithin (rates.of beat) time := by
    simp only [n]
    rw [hAll, hClocks]
    exact
      (Clocks.count_due_and_lag_settled rates _ beat).1
  rw [hCount]
  exact
    ⟨Clock.rate_le_beatsWithin hRate time,
      Clock.beatsWithin_le_rate hRate time⟩

/-
  In thirty-five milliseconds, cut in two, a clock of three
  hundred beats a second has no choice but to make ten.
-/
theorem ten_cycles_in_thirty_five_milliseconds :
    let s :=
      ((Session.initial
        (Engine.switchedOn ⟨300, 60⟩ (Generator.ofSeed 7))
        Keypad.initial).load [0x70, 0x01, 0x12, 0x00]).1
    let lapses := [15000000, 20000000]
    s.engine.Reachable ∧
      s.engine.clocks = Clocks.ofRates ⟨300, 60⟩ ∧
      (s.advanceAll lapses).1.engine.isHalted = false ∧
      ∃ beats,
        s.advanceAllWithin? 500001 lapses =
            some (s.advanceAll lapses, beats) ∧
          beats.count .cycle = 10 := by
  intro s lapses
  have hReachable : s.engine.Reachable :=
    .obey _ (.load [0x70, 0x01, 0x12, 0x00])
      (.switchedOn ⟨300, 60⟩ (Generator.ofSeed 7))
  have hClocks :
      s.engine.clocks = Clocks.ofRates ⟨300, 60⟩ :=
    clocks_load _ _
  have hNot :
      (s.advanceAll lapses).1.engine.isHalted = false := by
    decide +kernel
  rcases clocks_keep_to_rates hReachable hClocks hNot with
    ⟨beats, hRounds, hBeats⟩
  refine ⟨hReachable, hClocks, hNot, beats, hRounds, ?_⟩
  have hTime : lapsed lapses = 35000000 := by
    decide
  have hRate :
      min ((⟨300, 60⟩ : Rates).of .cycle) 1000000 = 300 := by
    decide
  have hCycles := hBeats .cycle (by decide)
  simp only [hTime, hRate] at hCycles
  omega

end Session

end ChipEight
