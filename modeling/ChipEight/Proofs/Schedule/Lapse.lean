import ChipEight.Console.Keypad
import ChipEight.Proofs.Schedule.Beats
import ChipEight.Proofs.Schedule.Timetable
import ChipEight.Proofs.Session.Reachable
import Mathlib.Algebra.GroupWithZero.Nat

/-
  Time that passes in several lapses, one after another.

  What the lapses come to depends on their sum alone: all
  beats due in it are made in their order, and an engine that
  has not halted keeps the rest of the time on its clocks.
  This needs clocks that start with nothing due, as those of
  every reachable engine that has not halted do.

  Key definitions include:
    * `ChipEight.Session.advanceAll`
    * `ChipEight.Session.lapsed`

  Main declarations:
    * `ChipEight.Session.clocks_obey`
    * `ChipEight.Engine.Reachable.isHalted_or`
    * `ChipEight.Engine.Reachable.isHalted_or_settled`
    * `ChipEight.Session.makesDue_advanceAll`
    * `ChipEight.Session.advanceAll_makes_timetable`
    * `ChipEight.Session.advanceAll_eq_of_sum_eq`
-/

namespace ChipEight

------------------------------------------------------------
-- Clocks Of Reachable Engines
------------------------------------------------------------

/- New clocks have nothing due. -/
theorem Clocks.next?_ofRates (rates : Rates) :
    (Clocks.ofRates rates).next? = none := by
  have hNone :
      ∀ rate, (Clock.ofRate rate).overdue? = none := by
    intro rate
    apply Clock.overdue?_eq_none_iff.mpr
    intro period hPeriod
    exact Clock.period?_pos hPeriod
  simp [next?, ofRates, hNone]

namespace Session

variable {κ : Type}

/- Loading leaves the clocks alone. -/
theorem clocks_load
    (s : Session κ)
    (program : List UInt8) :
    (s.load program).1.engine.clocks = s.engine.clocks := by
  cases h :
      s.engine.machine.memory.loadProgram program with
  | error fault => rw [load_of_error h, engine_crash]
  | ok memory => rw [load_of_ok h]

/- Halting leaves the clocks alone. -/
theorem clocks_halt (s : Session κ) :
    s.halt.engine.clocks = s.engine.clocks := by
  rw [engine_halt]

variable [Controls κ]

/- A halted engine stays halted, whatever it is told. -/
theorem isHalted_obey
    {s : Session κ}
    (h : s.engine.isHalted = true)
    (command : Command) :
    (s.obey command).1.engine.isHalted = true := by
  cases command with
  | load program =>
      rw [obey]
      cases hLoad :
          s.engine.machine.memory.loadProgram program with
      | error fault =>
          rw [load_of_error hLoad, Engine.isHalted,
            engine_crash]
          rfl
      | ok memory =>
          rw [load_of_ok hLoad]
          exact h
  | step => rw [obey, step_of_halted h, h]
  | tick => rw [obey, tick_of_halted h, h]
  | advance elapsed => rw [obey, advance, if_pos h, h]
  | halt => rw [obey, halt_of_halted h, h]
  | reseed seed => exact h

/- After time has passed, nothing is due. -/
theorem isHalted_or_settled_advance
    {s : Session κ}
    (elapsed : Nat) :
    (s.advance elapsed).1.engine.isHalted = true ∨
      (s.advance elapsed).1.engine.clocks.next? = none := by
  cases hAfter : (s.advance elapsed).1.engine.isHalted with
  | true => exact Or.inl rfl
  | false =>
      apply Or.inr
      rw [(s.makesDue_advance elapsed).clocks hAfter]
      exact Clocks.next?_settled _

/-
  A command leaves the clocks as they are, or they collect
  time and settle. Only an engine that halts may leave them in
  between.
-/
theorem clocks_obey
    (s : Session κ)
    (command : Command) :
    (s.obey command).1.engine.isHalted = true ∨
      (s.obey command).1.engine.clocks = s.engine.clocks ∨
      ∃ elapsed,
        (s.obey command).1.engine.clocks =
          (s.engine.clocks.collect elapsed).settled := by
  cases command with
  | load program =>
      exact Or.inr (Or.inl (s.clocks_load program))
  | step => exact Or.inr (Or.inl s.clocks_step)
  | tick => exact Or.inr (Or.inl s.clocks_tick)
  | advance elapsed =>
      cases hAfter :
          (s.advance elapsed).1.engine.isHalted with
      | true => exact Or.inl hAfter
      | false =>
          have hClocks :=
            (s.makesDue_advance elapsed).clocks hAfter
          exact Or.inr (Or.inr ⟨_, hClocks⟩)
  | halt => exact Or.inr (Or.inl s.clocks_halt)
  | reseed seed => exact Or.inr (Or.inl rfl)

end Session

namespace Engine.Reachable

/-
  What holds of new clocks, and of clocks that settle after
  they collected time, holds of the clocks of every reachable
  engine that has not halted.
-/
theorem isHalted_or
    (holds : Clocks → Prop)
    (hNew : ∀ rates, holds (Clocks.ofRates rates))
    (hLater :
      ∀ c elapsed,
        holds c → holds (c.collect elapsed).settled)
    {e : Engine}
    (h : e.Reachable) :
    e.isHalted = true ∨ holds e.clocks := by
  induction h with
  | switchedOn rates generator =>
      exact Or.inr (hNew rates)
  | obey s command _ ih =>
      rcases ih with hHalted | hHolds
      · exact Or.inl (Session.isHalted_obey hHalted command)
      · rcases s.clocks_obey command with
          hHalted | hSame | ⟨elapsed, hSettled⟩
        · exact Or.inl hHalted
        · rw [hSame]
          exact Or.inr hHolds
        · rw [hSettled]
          exact Or.inr (hLater _ elapsed hHolds)

/- A reachable engine has halted or has nothing due. -/
theorem isHalted_or_settled
    {e : Engine}
    (h : e.Reachable) :
    e.isHalted = true ∨ e.clocks.next? = none := by
  refine h.isHalted_or (fun c => c.next? = none)
    Clocks.next?_ofRates ?_
  intro c elapsed _
  exact Clocks.next?_settled _

end Engine.Reachable

namespace Session

variable {κ : Type} [Controls κ]

------------------------------------------------------------
-- Lapses In Turn
------------------------------------------------------------

/- Let lapses pass in turn and collect the faults met. -/
def advanceAll
    (s : Session κ) : List Nat → Session κ × List Fault
  | [] => (s, [])
  | elapsed :: rest =>
      let (s, fault) := s.advance elapsed
      let (s, faults) := s.advanceAll rest
      (s, fault.toList ++ faults)

/- The time of lapses, each up to 250 ms of it. -/
def lapsed (lapses : List Nat) : Nat :=
  (lapses.map (fun elapsed => min elapsed 250000000)).sum

/- Lapses that are short enough count in full. -/
theorem lapsed_of_le
    {lapses : List Nat}
    (h : ∀ elapsed ∈ lapses, elapsed ≤ 250000000) :
    lapsed lapses = lapses.sum := by
  induction lapses with
  | nil =>
      rfl
  | cons elapsed rest ih =>
      rcases List.forall_mem_cons.mp h with ⟨hFirst, hRest⟩
      have hLapsed := ih hRest
      unfold lapsed at hLapsed ⊢
      rw [List.map_cons, List.sum_cons, List.sum_cons,
        hLapsed, Nat.min_eq_left hFirst]

/- The first lapse passes before the rest. -/
theorem advanceAll_cons
    (s : Session κ)
    (elapsed : Nat)
    (rest : List Nat) :
    s.advanceAll (elapsed :: rest) =
      (((s.advance elapsed).1.advanceAll rest).1,
        (s.advance elapsed).2.toList ++
          ((s.advance elapsed).1.advanceAll rest).2) :=
  rfl

/-
  Lapses make the beats that are due in their whole time. The
  induction is on the lapses: the settled clocks that one
  lapse leaves are where the next one starts.
-/
theorem makesDue_advanceAll
    {s : Session κ}
    (h :
      s.engine.isHalted = true ∨
        s.engine.clocks.next? = none)
    (lapses : List Nat) :
    s.MakesDue (s.engine.clocks.collect (lapsed lapses))
      (s.advanceAll lapses) := by
  induction lapses generalizing s with
  | nil =>
      have hTime : lapsed [] = 0 := rfl
      rw [hTime, Clocks.collect_zero]
      rcases h with hHalted | hSettled
      · exact makesDue_of_halted hHalted _ s.engine.clocks
      · exact makesDue_of_none s hSettled
  | cons elapsed rest ih =>
      have hTime :
          lapsed (elapsed :: rest) =
            min elapsed longestLapse + lapsed rest :=
        rfl
      rw [hTime, ← Clocks.collect_collect, advanceAll_cons]
      exact (s.makesDue_advance elapsed).append
        (ih (isHalted_or_settled_advance elapsed))

------------------------------------------------------------
-- By Timetable
------------------------------------------------------------

/-
  Lapses that pass for a new engine with a program make the
  calls of the timetable of their whole time, in its order,
  up to the one that halts the engine. If none does, each
  clock has made as many beats as its period goes into the
  time, and keeps the remainder.
-/
theorem advanceAll_makes_timetable
    (rates : Rates)
    (generator : Generator)
    (program : List UInt8)
    (controls : κ)
    (lapses : List Nat) :
    let s :=
      ((Session.initial
        (Engine.switchedOn rates generator)
        controls).load program).1
    let time := lapsed lapses
    let result := s.advanceAll lapses
    ∃ calls,
      IsTimetable rates time calls ∧
        let made := s.untilHalted (calls.map Prod.snd)
        result.1.SameButClocks (s.makeAll made).1 ∧
          result.2 = (s.makeAll made).2 ∧
          (result.1.engine.isHalted = false →
            ∀ beat,
              made.count beat =
                  Clock.beatsWithin (rates.of beat) time ∧
                (result.1.engine.clocks.of beat).lag =
                  Clock.timeLeft (rates.of beat) time) := by
  intro s time result
  have hClocks :
      s.engine.clocks = Clocks.ofRates rates :=
    clocks_load _ program
  have hSettled :
      s.engine.isHalted = true ∨
        s.engine.clocks.next? = none := by
    rw [hClocks]
    exact Or.inr (Clocks.next?_ofRates rates)
  have hDue : s.MakesDue _ result :=
    makesDue_advanceAll hSettled lapses
  rw [hClocks] at hDue
  rcases Clocks.exists_timetable_due rates time with
    ⟨calls, hTimetable, hBeats⟩
  refine ⟨calls, hTimetable, ?_⟩
  rw [hBeats]
  intro made
  have hMade :
      s.makeAll made =
        s.makeAll
          ((Clocks.ofRates rates).collect time).due :=
    makeAll_untilHalted s _
  rw [hMade]
  refine ⟨hDue.session, hDue.faults, ?_⟩
  intro hNot beat
  have hAll :
      made =
        ((Clocks.ofRates rates).collect time).due := by
    apply untilHalted_of_not_halted
    rw [← hDue.session.isHalted_eq]
    exact hNot
  rw [hAll, hDue.clocks hNot]
  exact Clocks.count_due_and_lag_settled rates time beat

------------------------------------------------------------
-- By Sum
------------------------------------------------------------

/-
  It does not matter how time is cut up: short lapses of the
  same sum lead a reachable engine to the same end, with the
  same exchanges and the same fault if there is one, and to
  the same clocks if it does not halt.
-/
theorem advanceAll_eq_of_sum_eq
    {s : Session κ}
    (hReachable : s.engine.Reachable)
    {first second : List Nat}
    (hFirst : ∀ elapsed ∈ first, elapsed ≤ 250000000)
    (hSecond : ∀ elapsed ∈ second, elapsed ≤ 250000000)
    (hSum : first.sum = second.sum) :
    (s.advanceAll first).1.SameButClocks
        (s.advanceAll second).1 ∧
      (s.advanceAll first).2 = (s.advanceAll second).2 ∧
      (s.advanceAll first).2.length ≤ 1 ∧
      ((s.advanceAll first).1.engine.isHalted = false →
        (s.advanceAll first).1.engine.clocks =
          (s.advanceAll second).1.engine.clocks) := by
  have hSettled := hReachable.isHalted_or_settled
  have hOne := makesDue_advanceAll hSettled first
  have hTwo := makesDue_advanceAll hSettled second
  rw [lapsed_of_le hFirst, hSum] at hOne
  rw [lapsed_of_le hSecond] at hTwo
  have hSame := hOne.session.trans hTwo.session.symm
  refine ⟨hSame, ?_, ?_, ?_⟩
  · rw [hOne.faults, hTwo.faults]
  · rw [hOne.faults]
    exact length_faults_makeAll_le s _
  · intro hNot
    rw [hOne.clocks hNot, hTwo.clocks]
    rw [← hSame.isHalted_eq]
    exact hNot

/-
  Fifteen and five milliseconds pass as twenty do, although the
  first cut lies between two beats: two words are carried out
  and one tick is made, and what is left over of the time waits
  for the next tick.
-/
theorem advanceAll_fifteen_and_five :
    let s :=
      ((Session.initial
        (Engine.switchedOn ⟨100, 60⟩ (Generator.ofSeed 7))
        Keypad.initial).load [0x70, 0x01, 0x12, 0x00]).1
    let first := [15000000, 5000000]
    let second := [20000000]
    let left := (s.advanceAll first).1
    s.engine.Reachable ∧
      (∀ elapsed ∈ first, elapsed ≤ 250000000) ∧
      (∀ elapsed ∈ second, elapsed ≤ 250000000) ∧
      first.sum = second.sum ∧
      (s.advanceAll first).2 = [] ∧
      left.engine.isHalted = false ∧
      left.engine.machine.reg 0 = 1 ∧
      left.engine.machine.processor.pc = 0x200 ∧
      left.engine.clocks.cycles.lag = 0 ∧
      left.engine.clocks.ticks.lag = 3333334 := by
  intro s first second left
  have hReachable : s.engine.Reachable :=
    .obey _ (.load [0x70, 0x01, 0x12, 0x00])
      (.switchedOn ⟨100, 60⟩ (Generator.ofSeed 7))
  have hFirst :
      ∀ elapsed ∈ first, elapsed ≤ 250000000 := by
    decide
  have hSecond :
      ∀ elapsed ∈ second, elapsed ≤ 250000000 := by
    decide
  have hSum : first.sum = second.sum := by
    decide
  let whole := (s.advanceAll second).1
  have hWhole :
      (s.advanceAll second).2 = [] ∧
        whole.engine.isHalted = false ∧
        whole.engine.machine.reg 0 = 1 ∧
        whole.engine.machine.processor.pc = 0x200 ∧
        whole.engine.clocks.cycles.lag = 0 ∧
        whole.engine.clocks.ticks.lag = 3333334 := by
    decide +kernel
  rcases hWhole with
    ⟨hFaults, hGoesOn, hRegister, hPlace, hCycles, hTicks⟩
  rcases advanceAll_eq_of_sum_eq hReachable hFirst hSecond
      hSum with
    ⟨hSame, hSameFaults, _, hClocks⟩
  have hNot : left.engine.isHalted = false :=
    hSame.isHalted_eq.trans hGoesOn
  have hMachine :
      left.engine.machine = whole.engine.machine :=
    hSame.machine_eq
  have hSameClocks :
      left.engine.clocks = whole.engine.clocks :=
    hClocks hNot
  rw [hMachine, hSameClocks]
  exact
    ⟨hReachable, hFirst, hSecond, hSum,
      hSameFaults.trans hFaults, hNot, hRegister, hPlace,
      hCycles, hTicks⟩

end Session

end ChipEight
