import ChipEight.Pattern.Meaning
import ChipEight.Pattern.Reader
import ChipEight.Pattern.Search
import ChipEight.Pattern.Size

/-
  Patterns that are ready for looking through texts.

  Key definitions include:
    * `ChipEight.Pattern.sizeLimit`
    * `ChipEight.Pattern.Refusal`
    * `ChipEight.Finder`
    * `ChipEight.Finder.ofPattern`
    * `ChipEight.Finder.occursIn`
-/

namespace ChipEight

namespace Pattern

/- The room that a pattern may take, in either direction. -/
def sizeLimit : Nat :=
  10485760

/- Why there is no finder for a pattern. -/
inductive Refusal where
  /- Something is wrong with its text. -/
  | faulty (complaint : Complaint)
  /- It takes too much room. -/
  | tooLarge
  /- It asks about words of all scripts. -/
  | wordsUnknown
deriving DecidableEq

/- The lines that tell why a pattern is refused. -/
def Refusal.lines
    (source : String) : Refusal → List String
  | .faulty complaint => complaint.lines source
  | .tooLarge =>
      ["Compiled regex exceeds size limit of " ++
        toString sizeLimit ++ " bytes."]
  | .wordsUnknown => ["error building NFA"]

/- What a pattern means, or what is wrong with it. -/
def meaningOf (source : String) : Except Complaint Shape := do
  let term ← Term.read source
  let (shape, _) ← term.shape Flags.initial
  return shape

/- Refuse a shape that takes too much room in a direction. -/
def Shape.checkSize
    (shape : Shape)
    (direction : Direction) : Except Refusal Unit :=
  if sizeLimit < shape.wholeSize direction then
    throw .tooLarge
  else
    return ()

end Pattern

/- A pattern that was understood. -/
structure Finder where
  shape : Pattern.Shape

namespace Finder

/- Understand a pattern, or tell why it cannot be done. -/
def ofPattern
    (source : String) : Except Pattern.Refusal Finder := do
  let shape ←
    (Pattern.meaningOf source).mapError Pattern.Refusal.faulty
  shape.checkSize .forward
  if shape.asksForScripts then
    throw .wordsUnknown
  shape.checkSize .backward
  return { shape := shape }

/- Whether a pattern matches some part of a text. -/
def occursIn
    (finder : Finder)
    (text : String) : Bool :=
  finder.shape.occursIn text.toList

end Finder

end ChipEight
