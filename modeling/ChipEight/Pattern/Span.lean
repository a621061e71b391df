/-
  Places in the text of a pattern, and stretches of it.

  A place knows its line and column, both counted from one,
  because complaints about a pattern point at it.

  Key definitions include:
    * `ChipEight.Pattern.Spot`
    * `ChipEight.Pattern.Spot.after`
    * `ChipEight.Pattern.Span`
    * `ChipEight.Pattern.Span.isWithinLine`
-/

namespace ChipEight

namespace Pattern

/- A place between two characters of a text. -/
structure Spot where
  index : Nat
  line : Nat
  column : Nat
deriving DecidableEq

namespace Spot

/- The place before the first character. -/
def first : Spot where
  index := 0
  line := 1
  column := 1

/- The place behind a character that stands at a place. -/
def after
    (spot : Spot)
    (c : Char) : Spot :=
  if c = '\n' then
    { index := spot.index + 1
      line := spot.line + 1
      column := 1 }
  else
    { index := spot.index + 1
      line := spot.line
      column := spot.column + 1 }

end Spot

/- The stretch from one place to another. -/
structure Span where
  start : Spot
  stop : Spot
deriving DecidableEq

namespace Span

/- The empty stretch at a place. -/
def point (spot : Spot) : Span where
  start := spot
  stop := spot

/- Whether a stretch starts and stops in one line. -/
def isWithinLine (span : Span) : Bool :=
  span.start.line = span.stop.line

/- Whether a stretch starts no later than another one. -/
def isUpTo (a b : Span) : Bool :=
  a.start.index < b.start.index ||
    (a.start.index = b.start.index &&
      a.stop.index ≤ b.stop.index)

end Span

end Pattern

end ChipEight
