/-
  Upper-case hexadecimal text with a least number of digits.

  A number is written with as few digits as it needs and is
  filled up with zeros on the left, so the text is longer
  than the least width exactly when the number does not fit.

  Key definitions include:
    * `ChipEight.Hex.digit`
    * `ChipEight.Hex.digits`
    * `ChipEight.Hex.padded`
    * `ChipEight.hex`
    * `ChipEight.hexMarked`
-/

namespace ChipEight

------------------------------------------------------------
-- Digits
------------------------------------------------------------

namespace Hex

/- The digit of a value below sixteen. -/
def digit (d : Nat) : Char :=
  if d < 10 then
    Char.ofNat (48 + d)
  else
    Char.ofNat (55 + d)

/- The fewest digits of a number, at least one. -/
def digits (n : Nat) : List Char :=
  if n < 16 then
    [digit n]
  else
    digits (n / 16) ++ [digit (n % 16)]

/- The digits of a number, filled up with zeros on the left. -/
def padded
    (width n : Nat) : List Char :=
  List.replicate (width - (digits n).length) '0' ++ digits n

end Hex

------------------------------------------------------------
-- Written Numbers
------------------------------------------------------------

/- A number in hexadecimal with at least `width` digits. -/
def hex
    (width n : Nat) : String :=
  String.ofList (Hex.padded width n)

/-
  A number in hexadecimal behind `0x`, with at least `width`
  digits after the mark.
-/
def hexMarked
    (width n : Nat) : String :=
  "0x" ++ hex width n

end ChipEight
