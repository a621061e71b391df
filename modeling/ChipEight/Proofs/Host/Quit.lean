import ChipEight.Proofs.Host.WindDown
import ChipEight.Proofs.Schedule.Timetable
import Mathlib.Data.List.TakeWhile

/-
  A show ends soon after the player asks to quit.

  The wish is seen when an instruction falls due, and until
  one does, the clock of instructions keeps all the time that
  passes. A turn adds at most 250 ms to it, and no instruction
  takes longer than a second, so four long turns are enough.

  Key definitions include:
    * `ChipEight.Turn.IsClosing`

  Main declarations:
    * `ChipEight.Show.turn_of_isClosing`
    * `ChipEight.Show.play_closing_ne_unfinished`
    * `ChipEight.Show.quit_ends_show`
-/

namespace ChipEight

------------------------------------------------------------
-- Closing Turns
------------------------------------------------------------

/-
  Whether 250 ms pass before a turn and the window is to be
  closed in it.
-/
structure Turn.IsClosing (t : Turn) : Prop where
  nanos_eq : t.nanos = 250000000
  quit_mem : .quit ∈ t.events

/- A closing turn asks to quit. -/
theorem Turn.IsClosing.asksQuit
    {t : Turn}
    (h : t.IsClosing) :
    t.asksQuit = true :=
  List.any_eq_true.mpr ⟨.quit, h.quit_mem, rfl⟩

/- Time never runs slower for the player. -/
theorem Seat.one_le_pace (s : Seat) : 1 ≤ s.pace := by
  unfold pace
  split
  · decide
  · decide

/- A clock that runs beats at least once in a second. -/
theorem Clock.exists_period?
    {c : Clock}
    (h : 1 ≤ c.rate) :
    ∃ period,
      c.period? = some period ∧ period ≤ 1000000000 := by
  refine ⟨interval c.rate, ?_, Nat.div_le_self _ _⟩
  exact period?_eq_some_iff.mpr ⟨by omega, rfl⟩

namespace Show

/- As much time is let pass as there can be at once. -/
theorem lapse_of_isClosing
    (s : Show)
    {t : Turn}
    (h : t.IsClosing) :
    min (s.elapsed t) Session.longestLapse = 250000000 := by
  have hPace := (s.seated t.events).one_le_pace
  have hElapsed : t.nanos ≤ s.elapsed t :=
    Nat.le_trans (s.watch.nanos_le_read_pass t.nanos)
      (Nat.le_mul_of_pos_right _ hPace)
  rw [h.nanos_eq] at hElapsed
  exact Nat.min_eq_right hElapsed

/-
  A closing turn halts the engine, unless no instruction has
  fallen due: then its time is kept, and what is kept is less
  than a period.
-/
theorem turn_of_isClosing
    {s : Show}
    {t : Turn}
    {period : Nat}
    (hStaged : s.staged = none)
    (hNot : ¬ s.session.engine.isHalted = true)
    (hPeriod :
      s.session.engine.clocks.cycles.period? = some period)
    (h : t.IsClosing) :
    (s.turn t).2 = none ∧
      ((s.turn t).1.session.engine.isHalted = true ∨
        (s.turn t).1.session.engine.clocks.cycles =
            s.session.engine.clocks.cycles.collect
              250000000 ∧
          s.session.engine.clocks.cycles.lag + 250000000 <
            period) := by
  rcases windsDown_turn hStaged
      (windsDown_entered_of_asksQuit hNot h.asksQuit) with
    ⟨hFault, _, hCycle, _⟩
  refine ⟨hFault, ?_⟩
  cases hLater : (s.turn t).1.session.engine.isHalted with
  | true => exact Or.inl rfl
  | false =>
      let collected :=
        s.session.engine.clocks.collect 250000000
      have hClocks :
          (s.turn t).1.session.engine.clocks =
            collected.settled := by
        rw [clocks_turn hFault hLater, lapse_of_isClosing s h]
      have hNever : .cycle ∉ collected.due := by
        intro hMem
        rw [dueIn, lapse_of_isClosing s h, hLater] at hCycle
        cases hCycle hMem
      have hKept :
          collected.settled.cycles =
            s.session.engine.clocks.cycles.collect
              250000000 :=
        Clocks.of_settled_of_not_mem hNever
      have hBelow : collected.settled.cycles.lag < period := by
        apply Clocks.lag_lt_of_next?_eq_none
          (Clocks.next?_settled collected) .cycle
        rw [Clocks.period?_settled, Clocks.of_collect,
          Clock.period?_collect]
        exact hPeriod
      rw [hKept, Clock.collect_of_running hPeriod] at hBelow
      exact Or.inr ⟨by rw [hClocks, hKept], hBelow⟩

/-
  Closing turns end a play once they make up a period. The
  induction is on them: one that does not halt the engine
  leaves more time on its clock and less to wait for.
-/
theorem play_closing_ne_unfinished
    {s : Show}
    {closing : List Turn}
    {period : Nat}
    (hStaged : s.staged = none)
    (hPeriod :
      s.session.engine.clocks.cycles.period? = some period)
    (hClosing : ∀ t ∈ closing, t.IsClosing)
    (hSome : closing ≠ [])
    (hTime :
      period ≤
        s.session.engine.clocks.cycles.lag +
          closing.length * 250000000) :
    (s.play closing).2 ≠ .unfinished := by
  induction closing generalizing s with
  | nil => exact absurd rfl hSome
  | cons t rest ih =>
      by_cases hHalted : s.session.engine.isHalted = true
      · rw [play_of_halted hHalted]
        intro hEnd
        cases hEnd
      · rcases List.forall_mem_cons.mp hClosing with
          ⟨hFirst, hRest⟩
        rcases
            turn_of_isClosing hStaged hHalted hPeriod hFirst with
          ⟨hFault, hTurn⟩
        rw [play_of_none hHalted (Prod.ext rfl hFault)]
        rcases hTurn with hLater | ⟨hCycles, hBelow⟩
        · rw [play_of_halted hLater]
          intro hEnd
          cases hEnd
        · rw [List.length_cons] at hTime
          apply ih
          · exact staged_turn hFault
          · rw [hCycles, Clock.period?_collect, hPeriod]
          · exact hRest
          · rintro rfl
            rw [List.length_nil] at hTime
            omega
          · rw [hCycles, Clock.collect_of_running hPeriod]
            simp only
            omega

/- Four closing turns end any play with a running clock. -/
theorem play_append_closing_ne_unfinished
    {s : Show}
    (hStaged : s.staged = none)
    (hRate : 1 ≤ s.session.engine.rates.cycles)
    (turns : List Turn)
    {closing : List Turn}
    (hLength : closing.length = 4)
    (hClosing : ∀ t ∈ closing, t.IsClosing) :
    (s.play (turns ++ closing)).2 ≠ .unfinished := by
  rw [play_append]
  split
  · rename_i hPlay
    rcases Clock.exists_period? hRate with
      ⟨period, hPeriod, hSecond⟩
    have hLater := period?_play hPlay .cycle
    refine play_closing_ne_unfinished
      (staged_play hStaged hPlay) (hLater.trans hPeriod)
      hClosing ?_ ?_
    · rintro rfl
      cases hLength
    · rw [hLength]
      omega
  · assumption

------------------------------------------------------------
-- Shows That Are Quit
------------------------------------------------------------

/- Turns of which one asks to quit have a first that does. -/
theorem exists_first_asksQuit
    {turns : List Turn}
    (h : ∃ t ∈ turns, t.asksQuit = true) :
    ∃ t rest,
      turns.dropWhile (fun t => !t.asksQuit) = t :: rest ∧
        t.asksQuit = true := by
  cases hDrop : turns.dropWhile (fun t => !t.asksQuit) with
  | nil =>
      rcases h with ⟨t, hMem, hAsks⟩
      have hNone := List.dropWhile_eq_nil_iff.mp hDrop t hMem
      rw [hAsks] at hNone
      cases hNone
  | cons t rest =>
      have hNot :=
        List.head_dropWhile_not
          (fun t : Turn => !t.asksQuit)
          (hDrop ▸ List.cons_ne_nil t rest)
      simp only [hDrop, List.head_cons, Bool.not_eq_false']
        at hNot
      exact ⟨t, rest, rfl, hNot⟩

/-
  A play that is unfinished where the player asks to quit is
  quiet from there on, however far it is followed.
-/
theorem isQuiet_play_append
    {s : Show}
    {calm rest seen : List Turn}
    {t : Turn}
    (hStaged : s.staged = none)
    (hCalm : (s.play calm).2 = .unfinished)
    (hAsks : t.asksQuit = true)
    (hSeen : seen <+: t :: rest) :
    IsQuiet (s.play calm).1.session
      (s.play (calm ++ seen)) := by
  have hNot := not_halted_of_unfinished hCalm
  rw [play_append, if_pos hCalm]
  cases seen with
  | nil =>
      rw [play_nil hNot]
      exact isQuiet_self _
  | cons u later =>
      rcases List.cons_prefix_cons.mp hSeen with ⟨rfl, _⟩
      exact
        (isQuiet_play_of_asksQuit (staged_play hStaged hCalm)
          hNot hAsks later).1

/-
  However its turns go, a show whose engine has a running
  clock is over at the latest four closing turns behind them.
  The turns up to the first that asks to quit decide whether
  it fails: it does if and only if a step of theirs faults,
  and it tells the message of that fault. If the show gets to
  the turn that asks to quit, it is quiet from there on, with
  no word carried out, and is closed without failing.
-/
theorem quit_ends_show
    {engine : Engine}
    (hRate : 1 ≤ engine.rates.cycles)
    (scale : UInt32)
    (padding : Nat)
    (turns : List Turn)
    {closing : List Turn}
    (hLength : closing.length = 4)
    (hClosing : ∀ t ∈ closing, t.IsClosing) :
    let run := Show.run engine scale padding none
    let script := turns ++ closing
    let calm := script.takeWhile (fun t => !t.asksQuit)
    let quitting := script.dropWhile (fun t => !t.asksQuit)
    let late := (run calm).1
    ((run script).2 ≠ .unfinished ∧
        ∀ more, run (script ++ more) = run script) ∧
      quitting ≠ [] ∧
      ((run calm).2 = .unfinished →
        (run script).2 = .closed ∧
          late.deeds quitting = [] ∧
          ∀ seen,
            seen <+: quitting →
              IsQuiet late.session (run (calm ++ seen))) ∧
      ∀ text,
        (run script).2.error? = some text ↔
          ∃ fault,
            (opening engine scale padding none).StepFaults
                calm fault ∧
              fault.message = text := by
  intro run script calm quitting late
  have hSplit : calm ++ quitting = script :=
    List.takeWhile_append_dropWhile
  have hOver : (run script).2 ≠ .unfinished :=
    play_append_closing_ne_unfinished rfl hRate turns hLength
      hClosing
  have hLast : ∃ t ∈ script, t.asksQuit = true := by
    have hSome : 0 < closing.length := by
      omega
    rcases List.exists_mem_of_length_pos hSome with
      ⟨t, hMem⟩
    exact
      ⟨t, List.mem_append_right _ hMem,
        (hClosing t hMem).asksQuit⟩
  rcases exists_first_asksQuit hLast with
    ⟨t, rest, hFirst, hAsks⟩
  have hQuitting : quitting = t :: rest := hFirst
  have hQuiet :
      (run calm).2 = .unfinished →
        ∀ seen,
          seen <+: quitting →
            IsQuiet late.session (run (calm ++ seen)) := by
    intro hCalm seen hSeen
    rw [hQuitting] at hSeen
    exact isQuiet_play_append rfl hCalm hAsks hSeen
  have hClosed :
      (run calm).2 = .unfinished →
        (run script).2 = .closed := by
    intro hCalm
    have hEnd := hQuiet hCalm quitting List.prefix_rfl
    rw [hSplit] at hEnd
    exact hEnd.ending.resolve_right hOver
  refine ⟨⟨hOver, ?_⟩, ?_, ?_, ?_⟩
  · intro more
    exact (play_append _ script more).trans (if_neg hOver)
  · rw [hQuitting]
    exact List.cons_ne_nil t rest
  · intro hCalm
    refine ⟨hClosed hCalm, ?_, hQuiet hCalm⟩
    rw [hQuitting]
    exact
      (isQuiet_play_of_asksQuit (staged_play rfl hCalm)
        (not_halted_of_unfinished hCalm) hAsks rest).2
  · intro text
    rw [← error?_play_eq_some_iff]
    change
      (run script).2.error? = some text ↔
        (run calm).2.error? = some text
    by_cases hCalm : (run calm).2 = .unfinished
    · rw [hClosed hCalm, hCalm]
      exact Iff.rfl
    · have hSame : run script = run calm := by
        rw [← hSplit]
        exact (play_append _ calm quitting).trans
          (if_neg hCalm)
      rw [hSame]

/-
  A show with one instruction a second goes on behind the
  escape key for three closing turns. The fourth closes it.
-/
theorem quit_ends_slow_show :
    let engine :=
      ((Session.initial
        (Engine.switchedOn ⟨1, 60⟩ (Generator.ofSeed 7))
        Seat.initial).load [0x12, 0x00]).1.engine
    let turns : List Turn :=
      [{ nanos := 5000000
         events := [.keyDown (some (.letter 'X'))] },
        { nanos := 1000000
          events := [.keyDown (some .escape)] }]
    let closing : List Turn :=
      List.replicate 4
        { nanos := 250000000
          events := [.quit] }
    let run := Show.run engine 10 0 none
    (1 ≤ engine.rates.cycles ∧
        closing.length = 4 ∧
        ∀ t ∈ closing, t.IsClosing) ∧
      (run (turns ++ closing.take 3)).2 = .unfinished ∧
      (run (turns ++ closing)).2 = .closed ∧
      (run turns).1.session.engine.mode = .running := by
  intro engine turns closing run
  have hRate : 1 ≤ engine.rates.cycles := by
    decide +kernel
  have hClosing : ∀ t ∈ closing, t.IsClosing := by
    intro t hMem
    rw [List.eq_of_mem_replicate hMem]
    exact ⟨rfl, List.mem_singleton_self _⟩
  have hCalm :
      (run ((turns ++ closing).takeWhile
        (fun t => !t.asksQuit))).2 = .unfinished := by
    decide +kernel
  have hEnd :=
    quit_ends_show hRate 10 0 turns rfl hClosing
  refine ⟨⟨hRate, rfl, hClosing⟩, ?_, ?_, ?_⟩
  · decide +kernel
  · exact (hEnd.2.2.1 hCalm).1
  · decide +kernel

end Show

end ChipEight
