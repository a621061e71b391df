import ChipEight.Pattern.Encoded
import ChipEight.Pattern.Shape

/-
  How much room a pattern takes.

  A pattern is held as steps from one byte to the next, once
  forwards and once backwards. A step knows the intervals of
  bytes that lead on, or the steps one of which is next. What
  is repeated by a count is held as often as the count says.

  Key definitions include:
    * `ChipEight.Pattern.Direction`
    * `ChipEight.Pattern.setSize`
    * `ChipEight.Pattern.textsSize`
    * `ChipEight.Pattern.Shape.sizeWithin`
    * `ChipEight.Pattern.Shape.wholeSize`
-/

namespace ChipEight

namespace Pattern

/- How the bytes of a text are gone through. -/
inductive Direction where
  | forward
  | backward
deriving DecidableEq

/- The room of a step. -/
def stepSize : Nat :=
  32

/- The room in a step for an interval of bytes out of many. -/
def intervalSize : Nat :=
  8

/- The room in a step for a step that may be next. -/
def turnSize : Nat :=
  4

/- The room of a step that leads to one of some others. -/
def forkSize (count : Nat) : Nat :=
  stepSize + turnSize * count

/- The room of a step that has some intervals of bytes. -/
def bytesSize (count : Nat) : Nat :=
  stepSize + intervalSize * count

/- The room of all of some things. -/
def total (sizes : List Nat) : Nat :=
  sizes.foldl (fun sum size => sum + size) 0

------------------------------------------------------------
-- Sets
------------------------------------------------------------

/- What follows on each first interval of sequences in order. -/
def followers
    (sequences : List ByteSequence) :
    List (List ByteSequence) :=
  let groups :=
    sequences.splitBy (fun a b => a.head? = b.head?)
  groups.map (fun group => group.map List.tail)

/-
  The sequences that are left at each step of a set, where no
  more than some bytes are left.
-/
def remainders :
    Nat → List ByteSequence → List (List ByteSequence)
  | 0, _ => []
  | bytes + 1, sequences =>
      if sequences.all List.isEmpty then
        []
      else
        sequences ::
          (followers sequences).flatMap (remainders bytes)

/- Forwards, steps with the same sequences left are shared. -/
def sharedEndsSize (sequences : List ByteSequence) : Nat :=
  let steps := (remainders 4 sequences).eraseDups
  stepSize +
    total
      (steps.map
        (fun rests => bytesSize (followers rests).length))

/- How far two sequences are the same from their start. -/
def sharedLength : ByteSequence → ByteSequence → Nat
  | r :: rest, s :: others =>
      if r = s then sharedLength rest others + 1 else 0
  | _, _ => 0

/-
  The steps of sequences in order that are new, behind a
  sequence.
-/
def newSteps
    (earlier : ByteSequence) : List ByteSequence → Nat
  | [] => 0
  | sequence :: rest =>
      sequence.length - sharedLength earlier sequence +
        newSteps sequence rest

/- Backwards, steps behind the same first bytes are shared. -/
def sharedStartsSize (sequences : List ByteSequence) : Nat :=
  forkSize sequences.length + stepSize +
    stepSize * newSteps [] sequences

/- The room of a set. -/
def setSize
    (direction : Direction)
    (ranges : List Interval) : Nat :=
  if ranges.all (fun r => r.high < 0x80) then
    stepSize + bytesSize ranges.length
  else
    match direction with
    | .forward => sharedEndsSize (sequencesOf ranges)
    | .backward => sharedStartsSize (sequencesOf ranges)

------------------------------------------------------------
-- Choices Between Texts
------------------------------------------------------------

/- The bytes that texts start with. -/
def firstBytes (texts : List (List Nat)) : List Nat :=
  (texts.filterMap List.head?).eraseDups

/- What texts that start with a byte have behind it. -/
def restsBehind
    (byte : Nat)
    (texts : List (List Nat)) : List (List Nat) :=
  (texts.filter (fun text => text.head? = some byte)).map
    List.tail

/-
  The runs of texts that are not empty. An empty text is where
  a text ends, and what comes later in the choice is tried
  behind it.
-/
def runs (texts : List (List Nat)) : List (List (List Nat)) :=
  (texts.splitBy (fun a b => a.isEmpty = b.isEmpty)).filter
    (fun run => !run.all List.isEmpty)

/-
  How often the end of a text is noted. It is noted once as
  long as no text goes on.
-/
def endCount (texts : List (List Nat)) : Nat :=
  let later := texts.dropWhile List.isEmpty
  let start := if texts.head? = some [] then 1 else 0
  start + later.countP List.isEmpty

/-
  The room of the steps for texts that are chosen from, where
  texts with the same start share the steps for it. No text
  has more than some bytes.
-/
def forkedSize : Nat → List (List Nat) → Nat
  | 0, _ => 0
  | bytes + 1, texts =>
      if texts.all List.isEmpty then
        0
      else
        let stepOf (count : Nat) : Nat :=
          if count = 1 then stepSize else bytesSize count
        let runSize (run : List (List Nat)) : Nat :=
          let firsts := firstBytes run
          let rests (byte : Nat) : Nat :=
            forkedSize bytes (restsBehind byte run)
          stepOf firsts.length + total (firsts.map rests)
        forkSize ((runs texts).length + endCount texts) +
          total ((runs texts).map runSize)

/- The room of a choice between texts. -/
def textsSize
    (direction : Direction)
    (texts : List (List Char)) : Nat :=
  let bytes :=
    match direction with
    | .forward => texts.map textBytes
    | .backward =>
        texts.map (fun text => (textBytes text).reverse)
  let longest := (bytes.map List.length).foldl max 0
  stepSize + forkedSize (longest + 1) bytes

------------------------------------------------------------
-- Shapes
------------------------------------------------------------

/- The texts that a shape is a choice between. -/
def Shape.texts? : Shape → Option (List (List Char))
  | .literal chars => some [chars]
  | .either a b =>
      do return (← a.texts?) ++ (← b.texts?)
  | _ => none

/-
  The room of a shape that is repeated, from the room of one
  of it. If it may be empty, a way around it is needed.
-/
def repeatedSize
    (size : Nat)
    (mayBeEmpty : Bool)
    (least : Nat)
    (most : Option Nat) : Nat :=
  match most with
  | none =>
      if 0 < least then
        least * size + forkSize 2
      else if mayBeEmpty then
        size + 2 * forkSize 2 + stepSize
      else
        size + forkSize 2
  | some most =>
      let needed := if least = 0 then stepSize else least * size
      let optional := (most - least) * (size + forkSize 2)
      if least = most then
        needed
      else if least = 0 && most = 1 then
        optional + stepSize
      else
        needed + stepSize + optional

/-
  The room of a shape, on its own or as one of the
  alternatives of a choice.
-/
def Shape.sizeWithin
    (direction : Direction) : Shape → Bool → Nat
  | .either a b, true =>
      a.sizeWithin direction true + b.sizeWithin direction true
  | .either a b, false =>
      match (Shape.either a b).texts? with
      | some texts => textsSize direction texts
      | none =>
          forkSize 0 + stepSize +
            a.sizeWithin direction true +
            b.sizeWithin direction true
  | .empty, inChoice => alone inChoice stepSize
  | .literal chars, inChoice =>
      alone inChoice (stepSize * (textBytes chars).length)
  | .oneOf ranges _, inChoice =>
      alone inChoice (setSize direction ranges)
  | .check _, inChoice => alone inChoice stepSize
  | .repeated a least most _, inChoice =>
      let mayBeEmpty := !(a.leastLength?.any (fun n => 0 < n))
      alone inChoice
        (repeatedSize (a.sizeWithin direction false)
          mayBeEmpty least most)
  | .kept _ a, inChoice =>
      let marks := if direction = .forward then 2 else 0
      alone inChoice
        (a.sizeWithin direction false + marks * stepSize)
  | .both a b, inChoice =>
      alone inChoice
        (a.sizeWithin direction false +
          b.sizeWithin direction false)
where
  alone (inChoice : Bool) (size : Nat) : Nat :=
    if inChoice then turnSize + size else size

/-
  The room of a whole pattern. If it may start anywhere, steps
  over any bytes go before it. The ends of it have steps of
  their own.
-/
def Shape.wholeSize
    (direction : Direction)
    (shape : Shape) : Nat :=
  let isFixed :=
    match direction with
    | .forward => shape.needsStart
    | .backward => shape.needsEnd
  let ends :=
    match direction with
    | .forward => 3
    | .backward => 1
  let lead :=
    if isFixed then
      stepSize
    else
      forkSize 2 + stepSize + bytesSize 1
  lead + ends * stepSize +
    shape.sizeWithin direction false

end Pattern

end ChipEight
