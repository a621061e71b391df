/-
  White space, and texts without the white space around them.

  The white space characters are the 25 that have Unicode's
  property of that name, from the tabulator to the space
  between ideographs.

  Key definitions include:
    * `ChipEight.blankRanges`
    * `ChipEight.isBlank`
    * `ChipEight.trimmed`
-/

namespace ChipEight

------------------------------------------------------------
-- White Space
------------------------------------------------------------

/- White space as closed ranges of code points. -/
def blankRanges : List (Nat × Nat) :=
  [(0x0009, 0x000D), (0x0020, 0x0020), (0x0085, 0x0085),
    (0x00A0, 0x00A0), (0x1680, 0x1680), (0x2000, 0x200A),
    (0x2028, 0x2029), (0x202F, 0x202F), (0x205F, 0x205F),
    (0x3000, 0x3000)]

/- Whether closed ranges hold the code point of a character. -/
def inRanges
    (ranges : List (Nat × Nat))
    (c : Char) : Bool :=
  ranges.any (fun r => r.1 ≤ c.toNat && c.toNat ≤ r.2)

/- Whether a character is white space. -/
def isBlank (c : Char) : Bool :=
  inRanges blankRanges c

------------------------------------------------------------
-- Trimming
------------------------------------------------------------

/- A text without the white space around it. -/
def trimmed (text : String) : String :=
  let shorter := text.toList.dropWhile isBlank
  String.ofList (shorter.reverse.dropWhile isBlank).reverse

end ChipEight
