import ChipEight.Pattern.Basic
import ChipEight.Pattern.CodeSet

/-
  What a pattern asks of a text.

  Shapes are put together by functions that leave out what
  makes no difference: empty shapes in a row, repetitions of
  a shape that matches the empty text only, and a choice
  between single characters, which is a set. Alternatives that
  start alike share their start.

  A row is `both` of its first part and the rest of it, and a
  choice is `either` of its first alternative and the rest. No
  first part is a row, and no first alternative is a choice.

  Key definitions include:
    * `ChipEight.Pattern.Condition`
    * `ChipEight.Pattern.Shape`
    * `ChipEight.Pattern.Shape.ofRanges`
    * `ChipEight.Pattern.Shape.repeating`
    * `ChipEight.Pattern.Shape.inTurn`
    * `ChipEight.Pattern.Shape.anyOf`
-/

namespace ChipEight

namespace Pattern

------------------------------------------------------------
-- Shapes
------------------------------------------------------------

/- A condition on a place, with the flags that matter to it. -/
inductive Condition where
  | textStart
  | textEnd
  /- A start of a line, behind a carriage return as well. -/
  | lineStart (returns : Bool)
  /- An end of a line, at a carriage return as well. -/
  | lineEnd (returns : Bool)
  /- A condition on words of ASCII or of all scripts. -/
  | word (edge : WordEdge) (ofScripts : Bool)
deriving DecidableEq

/-
  A shape. What is kept of a text is told apart by the place
  of its group in the pattern.
-/
inductive Shape where
  /- What matches the empty text. -/
  | empty
  /- One text, which is not empty. -/
  | literal (chars : List Char)
  /- Any character of a set, or any byte of it. -/
  | oneOf (ranges : List Interval) (ofBytes : Bool)
  | check (condition : Condition)
  | repeated (shape : Shape) (least : Nat)
      (most : Option Nat) (isShort : Bool)
  /- A shape of which it is kept what it matched. -/
  | kept (place : Nat) (shape : Shape)
  | both (first rest : Shape)
  | either (first rest : Shape)
deriving DecidableEq

namespace Shape

/- What matches nothing, not even the empty text. -/
def never : Shape :=
  .oneOf [] true

/- How many parts a shape is made of. -/
def weight : Shape → Nat
  | .repeated a _ _ _ => a.weight + 1
  | .kept _ a => a.weight + 1
  | .both a b => a.weight + b.weight + 1
  | .either a b => a.weight + b.weight + 1
  | _ => 1

/- Whether a shape matches at most the empty text. -/
def isStill : Shape → Bool
  | .empty => true
  | .literal _ => false
  | .oneOf _ _ => false
  | .check _ => true
  | .repeated a _ most _ => a.isStill && most.isSome
  | .kept _ a => a.isStill
  | .both a b => a.isStill && b.isStill
  | .either a b => a.isStill && b.isStill

/-
  The least number of characters that a shape matches, unless
  it contains a set without members.
-/
def leastLength? : Shape → Option Nat
  | .empty => some 0
  | .literal chars => some chars.length
  | .oneOf ranges _ => if ranges.isEmpty then none else some 1
  | .check _ => some 0
  | .repeated a least _ _ =>
      a.leastLength?.map (fun length => length * least)
  | .kept _ a => a.leastLength?
  | .both a b =>
      do return (← a.leastLength?) + (← b.leastLength?)
  | .either a b =>
      do return min (← a.leastLength?) (← b.leastLength?)

------------------------------------------------------------
-- Parts
------------------------------------------------------------

/- The parts of a row; a shape that is none has one part. -/
def parts : Shape → List Shape
  | .empty => []
  | .both a b => a :: b.parts
  | a => [a]

/- The parts of a row; a shape that is none has no parts. -/
def turns : Shape → List Shape
  | .both a b => a :: b.parts
  | _ => []

/- The alternatives of a choice. -/
def branches : Shape → List Shape
  | .either a b => a :: b.branches
  | a => [a]

/- Texts one behind the other as one text. -/
def joinedTexts : List Shape → List Shape
  | [] => []
  | .literal chars :: rest =>
      match joinedTexts rest with
      | .literal more :: others =>
          .literal (chars ++ more) :: others
      | others => .literal chars :: others
  | a :: rest => a :: joinedTexts rest

/- The row of some parts. -/
def row : List Shape → Shape
  | [] => .empty
  | [a] => a
  | a :: rest => .both a (row rest)

/- The choice between some alternatives. -/
def choice : List Shape → Shape
  | [] => never
  | [a] => a
  | a :: rest => .either a (choice rest)

------------------------------------------------------------
-- Construction
------------------------------------------------------------

/- The shape of a set, which is a text if it has one member. -/
def ofRanges
    (ranges : List Interval)
    (ofBytes : Bool) : Shape :=
  match ranges with
  | [] => never
  | [r] =>
      if r.low = r.high then
        .literal [Char.ofNat r.low]
      else
        .oneOf ranges ofBytes
  | ranges => .oneOf ranges ofBytes

/- A shape a number of times. -/
def repeating
    (a : Shape)
    (least : Nat)
    (most : Option Nat)
    (isShort : Bool) : Shape :=
  let least := if a.isStill then min least 1 else least
  let most :=
    if a.isStill then
      some (min (most.getD 1) 1)
    else
      most
  if most = some 0 then
    .empty
  else if least = 1 && most = some 1 then
    a
  else
    .repeated a least most isShort

/- Shapes one behind the other. -/
def inTurn (shapes : List Shape) : Shape :=
  row (joinedTexts (shapes.flatMap parts))

/- The character that is all of a shape. -/
def single? : Shape → Option Interval
  | .literal [c] => some { low := c.toNat, high := c.toNat }
  | _ => none

/- The members of a set. -/
def ranges? : Shape → Option (List Interval)
  | .oneOf ranges _ => some ranges
  | _ => none

/- The set that a choice comes down to, if there is one. -/
def commonSet? (shapes : List Shape) : Option CodeSet :=
  let singles? := shapes.mapM single?
  let sets? := (shapes.mapM ranges?).map List.flatten
  (singles?.or sets?).map CodeSet.ofList

/- What two lists have in common at their start. -/
def sharedStart : List Shape → List Shape → List Shape
  | a :: rest, b :: others =>
      if a = b then a :: sharedStart rest others else []
  | _, _ => []

/-
  One shape or the other. What has to be shared is found step
  by step, and each step takes some part away.
-/
def anyOfWithin : Nat → List Shape → Shape
  | 0, shapes => choice (shapes.flatMap branches)
  | fuel + 1, shapes =>
      match shapes.flatMap branches with
      | [] => never
      | [a] => a
      | first :: rest =>
          match commonSet? (first :: rest) with
          | some set => ofRanges set.ranges false
          | none =>
              let shared :=
                rest.foldl
                  (fun start a => sharedStart start a.turns)
                  first.turns
              if shared.isEmpty then
                choice (first :: rest)
              else
                let remaining (a : Shape) : Shape :=
                  inTurn (a.turns.drop shared.length)
                let rests := (first :: rest).map remaining
                inTurn (shared ++ [anyOfWithin fuel rests])

/- One shape or the other. -/
def anyOf (shapes : List Shape) : Shape :=
  let parts := shapes.foldl (fun n a => n + a.weight) 0
  anyOfWithin parts shapes

------------------------------------------------------------
-- Anchors
------------------------------------------------------------

/- Whether a shape only matches from the start of the text. -/
def needsStart : Shape → Bool
  | .check .textStart => true
  | .repeated a least _ _ => 0 < least && a.needsStart
  | .kept _ a => a.needsStart
  | .both a b => a.needsStart || (a.isStill && b.needsStart)
  | .either a b => a.needsStart && b.needsStart
  | _ => false

/- Whether a shape only matches up to the end of the text. -/
def needsEnd : Shape → Bool
  | .check .textEnd => true
  | .repeated a least _ _ => 0 < least && a.needsEnd
  | .kept _ a => a.needsEnd
  | .both a b => b.needsEnd || (b.isStill && a.needsEnd)
  | .either a b => a.needsEnd && b.needsEnd
  | _ => false

/- Whether a shape asks about words of all scripts. -/
def asksForScripts : Shape → Bool
  | .check (.word _ ofScripts) => ofScripts
  | .repeated a _ _ _ => a.asksForScripts
  | .kept _ a => a.asksForScripts
  | .both a b => a.asksForScripts || b.asksForScripts
  | .either a b => a.asksForScripts || b.asksForScripts
  | _ => false

end Shape

end Pattern

end ChipEight
