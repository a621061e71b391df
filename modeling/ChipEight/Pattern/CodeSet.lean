import ChipEight.Pattern.Interval

/-
  Sets of characters, as intervals of code points.

  The intervals of a set are in order. Surrogates are code
  points of no character, so a bound that is moved by one
  character steps over them.

  A set is folded if it is known to hold each letter together
  with the same letter in the other case. This is known of the
  empty set and of the set of all characters. It gets lost as
  sets are put together, and is not found out by looking at
  the members.

  Key definitions include:
    * `ChipEight.Pattern.CodeSet`
    * `ChipEight.Pattern.CodeSet.union`
    * `ChipEight.Pattern.CodeSet.inter`
    * `ChipEight.Pattern.CodeSet.diff`
    * `ChipEight.Pattern.CodeSet.symmDiff`
    * `ChipEight.Pattern.CodeSet.complement`
    * `ChipEight.Pattern.CodeSet.withBothCases`
-/

namespace ChipEight

namespace Pattern

------------------------------------------------------------
-- Code Points
------------------------------------------------------------

/- The greatest code point. -/
def lastCode : Nat :=
  0x10FFFF

/- The greatest code point below the surrogates. -/
def codeBeforeGap : Nat :=
  0xD7FF

/- The least code point above the surrogates. -/
def codeBehindGap : Nat :=
  0xE000

/- The code point of the next character. -/
def nextCode (n : Nat) : Nat :=
  if n = codeBeforeGap then codeBehindGap else n + 1

/- The next character has a greater code point. -/
theorem lt_nextCode (n : Nat) : n < nextCode n := by
  unfold nextCode codeBeforeGap codeBehindGap
  split <;> omega

/- The code point of the character before. -/
def priorCode (n : Nat) : Nat :=
  if n = codeBehindGap then codeBeforeGap else n - 1

namespace Interval

/- The characters of an interval that another one has not. -/
def without (r s : Interval) : List Interval :=
  if (r.common? s).isNone then
    [r]
  else
    let before :=
      if r.low < s.low then
        [between r.low (priorCode s.low)]
      else
        []
    let behind :=
      if s.high < r.high then
        [between (nextCode s.high) r.high]
      else
        []
    before ++ behind

/- The characters between intervals in order. -/
def gaps : List Interval → List Interval
  | r :: s :: rest =>
      between (nextCode r.high) (priorCode s.low) ::
        gaps (s :: rest)
  | _ => []

/- The letters of ASCII in an interval, in the other case. -/
def otherCase (r : Interval) : List Interval :=
  let small := r.common? { low := 'a'.toNat, high := 'z'.toNat }
  let large := r.common? { low := 'A'.toNat, high := 'Z'.toNat }
  let raised :=
    small.map
      (fun s => { low := s.low - 32, high := s.high - 32 })
  let lowered :=
    large.map
      (fun s => { low := s.low + 32, high := s.high + 32 })
  raised.toList ++ lowered.toList

end Interval

------------------------------------------------------------
-- Sets
------------------------------------------------------------

/- A set of characters, and whether it is folded. -/
structure CodeSet where
  ranges : List Interval
  isFolded : Bool

namespace CodeSet

/- The empty set. -/
def empty : CodeSet where
  ranges := []
  isFolded := true

/- The set of all characters. -/
def all : CodeSet where
  ranges := [{ low := 0, high := lastCode }]
  isFolded := true

/- The set of the characters of some intervals. -/
def ofList (ranges : List Interval) : CodeSet where
  ranges :=
    ranges.foldl (fun rest r => Interval.added r rest) []
  isFolded := ranges.isEmpty

/- Add an interval. -/
def insert
    (set : CodeSet)
    (r : Interval) : CodeSet where
  ranges := Interval.added r set.ranges
  isFolded := false

/- The members of one set or the other. -/
def union (a b : CodeSet) : CodeSet :=
  if b.ranges.isEmpty || a.ranges = b.ranges then
    a
  else
    { ranges :=
        b.ranges.foldl
          (fun rest r => Interval.added r rest) a.ranges
      isFolded := a.isFolded && b.isFolded }

/- The members of both sets. -/
def inter (a b : CodeSet) : CodeSet :=
  if a.ranges.isEmpty then
    a
  else if b.ranges.isEmpty then
    empty
  else
    { ranges := Interval.commons a.ranges b.ranges
      isFolded := a.isFolded && b.isFolded }

/- The members of the first set and not of the second. -/
def diff (a b : CodeSet) : CodeSet :=
  if a.ranges.isEmpty || b.ranges.isEmpty then
    a
  else
    let reduced (rest : List Interval) (s : Interval) :=
      rest.flatMap (fun r => r.without s)
    { ranges := b.ranges.foldl reduced a.ranges
      isFolded := a.isFolded && b.isFolded }

/- The members of one set and not of the other. -/
def symmDiff (a b : CodeSet) : CodeSet :=
  (a.union b).diff (a.inter b)

/- The characters that are no members. -/
def complement (set : CodeSet) : CodeSet :=
  match set.ranges.head?, set.ranges.getLast? with
  | some first, some last =>
      let before :=
        if 0 < first.low then
          [Interval.between 0 (priorCode first.low)]
        else
          []
      let behind :=
        if last.high < lastCode then
          [Interval.between (nextCode last.high) lastCode]
        else
          []
      { ranges := before ++ Interval.gaps set.ranges ++ behind
        isFolded := set.isFolded }
  | _, _ => all

/- A set with the letters of ASCII in both cases. -/
def withBothCases (set : CodeSet) : CodeSet where
  ranges :=
    (set.ranges.flatMap Interval.otherCase).foldl
      (fun rest r => Interval.added r rest) set.ranges
  isFolded := true

end CodeSet

end Pattern

end ChipEight
