/-
  The two clocks of an engine: one for instructions and one
  for timers.

  Time is counted in whole nanoseconds. A clock collects the
  time that passes and falls due once for every whole period
  collected. Of two clocks that are due, the one that is
  further behind goes first, which is the order in which they
  fell due.

  Key definitions include:
    * `ChipEight.Clock`
    * `ChipEight.Clock.period?`
    * `ChipEight.Clock.collect`
    * `ChipEight.Clock.overdue?`
    * `ChipEight.Beat`
    * `ChipEight.Clocks`
    * `ChipEight.Clocks.collect`
    * `ChipEight.Clocks.next?`
-/

namespace ChipEight

------------------------------------------------------------
-- One Clock
------------------------------------------------------------

/- Beats per second, and the time not used up by beats. -/
structure Clock where
  rate : Nat
  lag : Nat
deriving DecidableEq

namespace Clock

/- Nanoseconds in a second. -/
def second : Nat :=
  1000000000

/- The highest rate that a clock follows. -/
def rateLimit : Nat :=
  1000000

/- A clock that has collected nothing. -/
def ofRate (rate : Nat) : Clock where
  rate := rate
  lag := 0

/-
  The time between two beats in whole nanoseconds, or none
  for a clock that stands still. The rate limit keeps it
  above zero.
-/
def period? (c : Clock) : Option Nat :=
  if c.rate = 0 then
    none
  else
    some (second / min c.rate rateLimit)

/- Collect time, unless the clock stands still. -/
def collect
    (c : Clock)
    (elapsed : Nat) : Clock :=
  match c.period? with
  | none => c
  | some _ => { c with lag := c.lag + elapsed }

/- The time left after a beat, if a beat is due. -/
def overdue? (c : Clock) : Option Nat :=
  match c.period? with
  | none => none
  | some period =>
      if period ≤ c.lag then
        some (c.lag - period)
      else
        none

/- Every period is longer than zero. -/
theorem period?_pos
    {c : Clock}
    {period : Nat}
    (h : c.period? = some period) :
    0 < period := by
  unfold period? at h
  split at h
  · cases h
  · rename_i hRate
    injection h with h
    subst h
    refine Nat.div_pos ?_ ?_
    · exact Nat.le_trans (Nat.min_le_right _ _) (by decide)
    · have : 0 < rateLimit := by decide
      omega

/- A beat uses time up. -/
theorem overdue?_lt
    {c : Clock}
    {left : Nat}
    (h : c.overdue? = some left) :
    left < c.lag := by
  unfold overdue? at h
  split at h
  · cases h
  · rename_i period hPeriod
    have hPos := period?_pos hPeriod
    split at h
    · injection h with h
      omega
    · cases h

end Clock

------------------------------------------------------------
-- Both Clocks
------------------------------------------------------------

/- What falls due. -/
inductive Beat where
  /- An instruction. -/
  | cycle
  /- A count of the timers. -/
  | tick
deriving DecidableEq

/- The clock of instructions and the clock of timers. -/
structure Clocks where
  cycles : Clock
  ticks : Clock
deriving DecidableEq

namespace Clocks

/- Collect time on both clocks. -/
def collect
    (c : Clocks)
    (elapsed : Nat) : Clocks where
  cycles := c.cycles.collect elapsed
  ticks := c.ticks.collect elapsed

/- The clocks after a cycle that leaves some time. -/
def afterCycle
    (c : Clocks)
    (left : Nat) : Clocks :=
  { c with cycles := { c.cycles with lag := left } }

/- The clocks after a tick that leaves some time. -/
def afterTick
    (c : Clocks)
    (left : Nat) : Clocks :=
  { c with ticks := { c.ticks with lag := left } }

/-
  What is due next, and the clocks after it. A tick goes
  before a cycle only if it has been due for longer.
-/
def next? (c : Clocks) : Option (Beat × Clocks) :=
  match c.cycles.overdue?, c.ticks.overdue? with
  | none, none => none
  | none, some left => some (.tick, c.afterTick left)
  | some left, none => some (.cycle, c.afterCycle left)
  | some cycleLeft, some tickLeft =>
      if cycleLeft < tickLeft then
        some (.tick, c.afterTick tickLeft)
      else
        some (.cycle, c.afterCycle cycleLeft)

/- The time that neither clock has used up. -/
def backlog (c : Clocks) : Nat :=
  c.cycles.lag + c.ticks.lag

/- Every beat uses time up. -/
theorem backlog_next?_lt
    {c later : Clocks}
    {beat : Beat}
    (h : c.next? = some (beat, later)) :
    later.backlog < c.backlog := by
  have hCycle :
      ∀ left, c.cycles.overdue? = some left →
        (c.afterCycle left).backlog < c.backlog := by
    intro left hLeft
    have := Clock.overdue?_lt hLeft
    simp only [backlog, afterCycle]
    omega
  have hTick :
      ∀ left, c.ticks.overdue? = some left →
        (c.afterTick left).backlog < c.backlog := by
    intro left hLeft
    have := Clock.overdue?_lt hLeft
    simp only [backlog, afterTick]
    omega
  unfold next? at h
  split at h
  · cases h
  · rename_i left _ hLeft
    cases h
    exact hTick left hLeft
  · rename_i left hLeft _
    cases h
    exact hCycle left hLeft
  · rename_i cycleLeft tickLeft hCycleLeft hTickLeft
    split at h
    · cases h
      exact hTick tickLeft hTickLeft
    · cases h
      exact hCycle cycleLeft hCycleLeft

end Clocks

end ChipEight
