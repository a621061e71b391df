import ChipEight.Proofs.Checked.Memory
import ChipEight.Proofs.Schedule.Reading

/-
  Clocks worked with checks.

  Time is kept in a type that ends, though far off, and a
  period is found by dividing by a rate. A checked clock does
  what the plain one does, and has no result if a sum of times
  is too long for its type or a division is by zero. A clock
  of rate zero is never divided by, so the only sums that can
  fail are those of lags that are far too long.

  Key definitions include:
    * `ChipEight.Checked.durationLimit`
    * `ChipEight.Checked.quotient`
    * `ChipEight.Clock.checkPeriod`
    * `ChipEight.Clock.checkCollect`
    * `ChipEight.Clock.checkOverdue`
    * `ChipEight.Clocks.checkCollect`
    * `ChipEight.Clocks.checkNext`

  Main declarations:
    * `ChipEight.Clock.checkPeriod_eq`
    * `ChipEight.Clocks.checkCollect_eq`
    * `ChipEight.Clocks.checkNext_eq`
-/

namespace ChipEight

------------------------------------------------------------
-- Arithmetic
------------------------------------------------------------

namespace Checked

/-
  The nanoseconds that a length of time can have: its whole
  seconds are kept in sixty-four bits.
-/
def durationLimit : Nat :=
  18446744073709551616 * 1000000000

/- A quotient, if the divisor is not zero. -/
def quotient (a b : Nat) : Option Nat :=
  if b = 0 then
    none
  else
    some (a / b)

end Checked

namespace Clock

------------------------------------------------------------
-- One Clock
------------------------------------------------------------

/- The time between two beats, found by a division. -/
def checkPeriod (c : Clock) : Option (Option Nat) :=
  if c.rate = 0 then
    some none
  else do
    let period ←
      Checked.quotient second (min c.rate rateLimit)
    some (some period)

/- Collect time in a sum, unless the clock stands still. -/
def checkCollect
    (c : Clock)
    (elapsed : Nat) : Option Clock := do
  match ← c.checkPeriod with
  | none => some c
  | some _ =>
      let lag ←
        Checked.sum Checked.durationLimit c.lag elapsed
      some { c with lag := lag }

/-
  The time left after a beat, if a beat is due: the difference
  of lag and period is asked for whether or not there is one.
-/
def checkOverdue (c : Clock) : Option (Option Nat) := do
  match ← c.checkPeriod with
  | none => some none
  | some period => some (Checked.difference c.lag period)

/- No period is found by a division by zero. -/
theorem checkPeriod_eq (c : Clock) :
    c.checkPeriod = some c.period? := by
  unfold checkPeriod period?
  by_cases h : c.rate = 0
  · rw [if_pos h, if_pos h]
  · have hDivisor : ¬ min c.rate rateLimit = 0 := by
      unfold rateLimit
      omega
    rw [if_neg h, if_neg h, Checked.quotient,
      if_neg hDivisor]
    rfl

/- Time that fits is collected. -/
theorem checkCollect_eq
    {c : Clock}
    {elapsed : Nat}
    (h : c.lag + elapsed < Checked.durationLimit) :
    c.checkCollect elapsed = some (c.collect elapsed) := by
  rw [checkCollect, checkPeriod_eq, Option.bind_eq_bind,
    Option.bind_some]
  cases hPeriod : c.period? with
  | none =>
      rw [collect, hPeriod]
  | some period =>
      simp only [Checked.sum_bind h, collect, hPeriod]

/- Whether a beat is due can always be told. -/
theorem checkOverdue_eq (c : Clock) :
    c.checkOverdue = some c.overdue? := by
  rw [checkOverdue, checkPeriod_eq, Option.bind_eq_bind,
    Option.bind_some, overdue?]
  cases c.period? with
  | none => rfl
  | some period => rfl

end Clock

namespace Clocks

------------------------------------------------------------
-- Both Clocks
------------------------------------------------------------

/- Collect time on both clocks. -/
def checkCollect
    (c : Clocks)
    (elapsed : Nat) : Option Clocks := do
  let cycles ← c.cycles.checkCollect elapsed
  let ticks ← c.ticks.checkCollect elapsed
  some { cycles := cycles, ticks := ticks }

/- What is due next, and the clocks after it. -/
def checkNext
    (c : Clocks) : Option (Option (Beat × Clocks)) := do
  let cycleOver ← c.cycles.checkOverdue
  let tickOver ← c.ticks.checkOverdue
  match cycleOver, tickOver with
  | none, none => some none
  | none, some left =>
      some (some (.tick, c.afterTick left))
  | some left, none =>
      some (some (.cycle, c.afterCycle left))
  | some cycleLeft, some tickLeft =>
      if cycleLeft < tickLeft then
        some (some (.tick, c.afterTick tickLeft))
      else
        some (some (.cycle, c.afterCycle cycleLeft))

/- Time that fits on either clock is collected on both. -/
theorem checkCollect_eq
    {c : Clocks}
    {elapsed : Nat}
    (h :
      ∀ beat,
        (c.of beat).lag + elapsed < Checked.durationLimit) :
    c.checkCollect elapsed = some (c.collect elapsed) := by
  have hCycles :
      c.cycles.checkCollect elapsed =
        some (c.cycles.collect elapsed) :=
    Clock.checkCollect_eq (h .cycle)
  have hTicks :
      c.ticks.checkCollect elapsed =
        some (c.ticks.collect elapsed) :=
    Clock.checkCollect_eq (h .tick)
  rw [checkCollect, hCycles, hTicks]
  rfl

/- What is next can always be told. -/
theorem checkNext_eq (c : Clocks) :
    c.checkNext = some c.next? := by
  unfold checkNext next?
  simp only [Clock.checkOverdue_eq, Option.bind_eq_bind,
    Option.bind_some]
  cases c.cycles.overdue? with
  | none =>
      cases c.ticks.overdue? with
      | none => rfl
      | some tickLeft => rfl
  | some cycleLeft =>
      cases c.ticks.overdue? with
      | none => rfl
      | some tickLeft =>
          simp only
          split
          · rfl
          · rfl

end Clocks

end ChipEight
