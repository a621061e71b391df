import ChipEight.Pattern.CodeSet

/-
  Characters as bytes.

  In UTF-8 a character has up to four bytes. The characters of
  an interval are those of a few sequences, in each of which
  every byte may be chosen from an interval of its own. For
  this the interval is cut where the number of bytes changes,
  and where a byte but the first one would not go through all
  its values.

  Key definitions include:
    * `ChipEight.Pattern.utf8Bytes`
    * `ChipEight.Pattern.Interval.cut?`
    * `ChipEight.Pattern.Interval.sequences`
-/

namespace ChipEight

namespace Pattern

/- The bytes of a code point. -/
def utf8Bytes (n : Nat) : List Nat :=
  let later (k : Nat) : Nat := 0x80 + k % 64
  if n < 0x80 then
    [n]
  else if n < 0x800 then
    [0xC0 + n / 0x40, later n]
  else if n < 0x10000 then
    [0xE0 + n / 0x1000, later (n / 0x40), later n]
  else
    [0xF0 + n / 0x40000, later (n / 0x1000),
      later (n / 0x40), later n]

/- The bytes of a text. -/
def textBytes (text : List Char) : List Nat :=
  text.flatMap (fun c => utf8Bytes c.toNat)

/- Bytes one behind the other, each from an interval. -/
abbrev ByteSequence :=
  List Interval

namespace Interval

/- The greatest code points of one, two and three bytes. -/
def lengthBounds : List Nat :=
  [0x7F, 0x7FF, 0xFFFF]

/- The numbers of characters that share all but some bytes. -/
def blockSizes : List Nat :=
  [0x40, 0x1000, 0x40000]

/-
  The last code point in front of a cut that makes an interval
  start or stop with a block, if it goes beyond one block.
-/
def blockCut?
    (r : Interval)
    (size : Nat) : Option Nat :=
  let first := r.low / size
  let last := r.high / size
  if first = last then
    none
  else if r.low % size ≠ 0 then
    some (first * size + (size - 1))
  else if r.high % size ≠ size - 1 then
    some (last * size - 1)
  else
    none

/-
  The last code point in front of the cut that has to be made
  first, if the characters are those of no one sequence.
-/
def cut? (r : Interval) : Option Nat :=
  if r.low < codeBehindGap && codeBeforeGap < r.high then
    some codeBeforeGap
  else
    let length? :=
      lengthBounds.find? (fun n => r.low ≤ n && n < r.high)
    let block? :=
      if r.high < 0x80 then
        none
      else
        blockSizes.findSome? r.blockCut?
    length?.or block?

/- The sequences of the characters of an interval. -/
def sequences (r : Interval) : List ByteSequence :=
  let whole :=
    List.zipWith between (utf8Bytes r.low) (utf8Bytes r.high)
  match r.cut? with
  | none => [whole]
  | some cut =>
      if r.low ≤ cut ∧ cut < r.high then
        sequences { low := r.low, high := cut } ++
          sequences { low := nextCode cut, high := r.high }
      else
        [whole]
termination_by r.high - r.low
decreasing_by
  · omega
  · have := lt_nextCode cut
    omega

end Interval

/- The sequences of the characters of intervals in order. -/
def sequencesOf (ranges : List Interval) : List ByteSequence :=
  ranges.flatMap Interval.sequences

end Pattern

end ChipEight
