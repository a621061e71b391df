/-
  The built-in sprites of the sixteen hexadecimal digits.

  Each digit is a sprite of five rows, four pixels wide, held
  in the upper half of a byte. The sheet lies at the bottom
  of memory, digit after digit.

  Key definitions include:
    * `ChipEight.Font.sheet`
    * `ChipEight.Font.glyphAddress`
-/

namespace ChipEight

namespace Font

------------------------------------------------------------
-- The Sheet
------------------------------------------------------------

/- Where the sheet starts in memory. -/
def base : Nat :=
  0

/- Rows of one digit's sprite. -/
def glyphSize : Nat :=
  5

/- Bytes of the whole sheet. -/
def size : Nat :=
  80

/- The sprites of the digits `0` to `F`, five rows each. -/
def sheet : Vector UInt8 80 :=
  #v[
    0xF0, 0x90, 0x90, 0x90, 0xF0,
    0x20, 0x60, 0x20, 0x20, 0x70,
    0xF0, 0x10, 0xF0, 0x80, 0xF0,
    0xF0, 0x10, 0xF0, 0x10, 0xF0,
    0x90, 0x90, 0xF0, 0x10, 0x10,
    0xF0, 0x80, 0xF0, 0x10, 0xF0,
    0xF0, 0x80, 0xF0, 0x90, 0xF0,
    0xF0, 0x10, 0x20, 0x40, 0x40,
    0xF0, 0x90, 0xF0, 0x90, 0xF0,
    0xF0, 0x90, 0xF0, 0x10, 0xF0,
    0xF0, 0x90, 0xF0, 0x90, 0x90,
    0xE0, 0x90, 0xE0, 0x90, 0xE0,
    0xF0, 0x80, 0x80, 0x80, 0xF0,
    0xE0, 0x90, 0x90, 0x90, 0xE0,
    0xF0, 0x80, 0xF0, 0x80, 0xF0,
    0xF0, 0x80, 0xF0, 0x80, 0x80]

------------------------------------------------------------
-- Glyphs
------------------------------------------------------------

/-
  Where the sprite of a value starts. A value above fifteen
  points past the sheet, at the place a longer sheet would
  have its sprite.
-/
def glyphAddress (value : UInt8) : UInt16 :=
  UInt16.ofNat ((base + value.toNat * glyphSize) % 4096)

end Font

end ChipEight
