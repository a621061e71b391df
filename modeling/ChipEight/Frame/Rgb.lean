import ChipEight.Frame.Basic

/-
  The picture as colour bytes, three equal ones for every
  pixel, in rows that may be padded.

  Key definitions include:
    * `ChipEight.Frame.rgbRow`
    * `ChipEight.Frame.rgbPadded`
-/

namespace ChipEight

namespace Frame

/- Bytes that the pixels of a row take. -/
def rgbRowSize : Nat :=
  3 * width

/- The byte of each colour of a pixel. -/
def channel (on : Bool) : UInt8 :=
  if on then
    255
  else
    0

/- The colours of a row, red, green and blue in turn. -/
def rgbRow
    (f : Frame)
    (y : Nat) : List UInt8 :=
  (List.range width).flatMap
    (fun x => List.replicate 3 (channel (f.pixel x y)))

/- The colours of all rows, top first. -/
def rgb (f : Frame) : List UInt8 :=
  (List.range height).flatMap f.rgbRow

/- The colours of all rows, each followed by zero bytes. -/
def rgbPadded
    (f : Frame)
    (padding : Nat) : List UInt8 :=
  (List.range height).flatMap
    (fun y => f.rgbRow y ++ List.replicate padding 0)

end Frame

end ChipEight
