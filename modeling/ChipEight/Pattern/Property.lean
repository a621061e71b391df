import ChipEight.Pattern.Basic
import ChipEight.Pattern.Complaint

/-
  Names of properties of characters.

  No property is known here, so a name only decides what is
  wrong with it. Names are compared without regard to case,
  blanks, dashes, underscores and a leading `is`.

  Key definitions include:
    * `ChipEight.Pattern.plainName`
    * `ChipEight.Pattern.PropertyName.fault`
-/

namespace ChipEight

namespace Pattern

/- A name without what does not matter for comparing it. -/
def plainName (name : String) : String :=
  let letters := name.toList
  let isMarked :=
    (letters.take 2).map Char.toLower = ['i', 's']
  let rest := if isMarked then letters.drop 2 else letters
  let kept :=
    rest.filter
      (fun c =>
        c ≠ ' ' && c ≠ '_' && c ≠ '-' && c.toNat < 128)
  String.ofList (kept.map Char.toLower)

/-
  Names that are short for a property and for a category of
  characters. They are taken for the category.
-/
def categoryNames : List String :=
  ["cf", "sc", "lc"]

/-
  What is wrong with a name. A category is a value of the
  property to have a category, all else is a property.
-/
def PropertyName.fault : PropertyName → Fault
  | .initial _ => .propertyUnknown
  | .word name =>
      if categoryNames.contains (plainName name) then
        .valueUnknown
      else
        .propertyUnknown
  | .value _ _ => .propertyUnknown

end Pattern

end ChipEight
