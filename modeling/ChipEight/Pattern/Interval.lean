/-
  Intervals of numbers, and lists of them.

  A list of intervals is in order if there is a gap of one
  number at least between each interval and the next. So a set
  of numbers is written as intervals in one way only.

  Key definitions include:
    * `ChipEight.Pattern.Interval`
    * `ChipEight.Pattern.Interval.common?`
    * `ChipEight.Pattern.Interval.added`
    * `ChipEight.Pattern.Interval.commons`
-/

namespace ChipEight

namespace Pattern

/- The numbers between two bounds, which belong to them. -/
structure Interval where
  low : Nat
  high : Nat
deriving DecidableEq

namespace Interval

/- The interval between two bounds in any order. -/
def between (m n : Nat) : Interval where
  low := min m n
  high := max m n

/- Whether an interval holds a number. -/
def holds
    (r : Interval)
    (n : Nat) : Bool :=
  r.low ≤ n && n ≤ r.high

/- The numbers that two intervals have in common. -/
def common? (r s : Interval) : Option Interval :=
  let low := max r.low s.low
  let high := min r.high s.high
  if low ≤ high then
    some { low := low, high := high }
  else
    none

/- The numbers that two lists of intervals have in common. -/
def commons (rs ss : List Interval) : List Interval :=
  rs.flatMap (fun r => ss.filterMap (fun s => r.common? s))

/-
  Add an interval to intervals in order. Those that it meets
  or touches become one with it.
-/
def added (r : Interval) : List Interval → List Interval
  | [] => [r]
  | s :: rest =>
      if r.high + 1 < s.low then
        r :: s :: rest
      else if s.high + 1 < r.low then
        s :: added r rest
      else
        added
          { low := min r.low s.low, high := max r.high s.high }
          rest

end Interval

end Pattern

end ChipEight
