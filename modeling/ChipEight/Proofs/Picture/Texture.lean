import ChipEight.Frame.Rgb

/-
  Where a pixel stands among the colour bytes of a picture.

  Lists of one length are found in their concatenation by
  counting. The colours of a pixel are such a list, and so is
  a row with its padding. So row after row and pixel after
  pixel, each colour has its place, and behind the colours of
  a row there are zeros only.

  Key definitions include:
    * `ChipEight.Frame.pitch`
    * `ChipEight.Frame.IsTexture`

  Main declarations:
    * `ChipEight.take_drop_flatMap`
    * `ChipEight.Frame.length_rgbPadded`
    * `ChipEight.Frame.getElem?_rgbPadded_channel`
    * `ChipEight.Frame.getElem?_rgbPadded_padding`
    * `ChipEight.Frame.isTexture_rgbPadded`
-/

namespace ChipEight

------------------------------------------------------------
-- Lists Of One Length
------------------------------------------------------------

variable {α β : Type}

/- Lists of one length add up. -/
theorem length_flatMap_of_length
    {g : α → List β}
    {size : Nat}
    (hSize : ∀ a, (g a).length = size)
    (l : List α) :
    (l.flatMap g).length = l.length * size := by
  induction l with
  | nil => simp
  | cons a rest ih =>
      rw [List.flatMap_cons, List.length_append, ih, hSize,
        List.length_cons, Nat.succ_mul, Nat.add_comm]

/- A list is found behind as many lists as come before it. -/
theorem take_drop_flatMap
    {g : α → List β}
    {size : Nat}
    (hSize : ∀ a, (g a).length = size)
    {l : List α}
    {k : Nat}
    {a : α}
    (h : l[k]? = some a) :
    ((l.flatMap g).drop (k * size)).take size = g a := by
  induction l generalizing k with
  | nil => cases h
  | cons first rest ih =>
      cases k with
      | zero =>
          cases Option.some.inj h
          rw [Nat.zero_mul, List.drop_zero, List.flatMap_cons]
          exact List.take_left' (hSize _)
      | succ k =>
          have hPlace :
              (k + 1) * size =
                (g first).length + k * size := by
            rw [hSize, Nat.succ_mul, Nat.add_comm]
          rw [hPlace, List.flatMap_cons,
            List.drop_length_add_append]
          exact ih h

/- So are its members. -/
theorem getElem?_flatMap
    {g : α → List β}
    {size : Nat}
    (hSize : ∀ a, (g a).length = size)
    {l : List α}
    {k : Nat}
    {a : α}
    (h : l[k]? = some a)
    {j : Nat}
    (hj : j < size) :
    (l.flatMap g)[k * size + j]? = (g a)[j]? := by
  rw [← take_drop_flatMap hSize h,
    List.getElem?_take_of_lt hj, List.getElem?_drop]

namespace Frame

------------------------------------------------------------
-- Rows
------------------------------------------------------------

/- The colours of a row, by their number. -/
theorem length_rgbRow (f : Frame) (y : Nat) :
    (f.rgbRow y).length = 192 := by
  have hSize :
      ∀ x,
        (List.replicate 3
          (channel (f.pixel x y))).length = 3 :=
    fun _ => List.length_replicate
  rw [rgbRow, length_flatMap_of_length hSize,
    List.length_range]
  rfl

/- The colours of a pixel in its row. -/
theorem getElem?_rgbRow
    (f : Frame)
    (y : Nat)
    {x c : Nat}
    (hx : x < 64)
    (hc : c < 3) :
    (f.rgbRow y)[3 * x + c]? =
      some (channel (f.pixel x y)) := by
  have hSize :
      ∀ x,
        (List.replicate 3
          (channel (f.pixel x y))).length = 3 :=
    fun _ => List.length_replicate
  have hColumn : (List.range width)[x]? = some x :=
    List.getElem?_range hx
  rw [rgbRow, Nat.mul_comm,
    getElem?_flatMap hSize hColumn hc,
    List.getElem?_replicate_of_lt hc]

------------------------------------------------------------
-- Pictures
------------------------------------------------------------

/- The bytes from the start of one row to the next. -/
def pitch (padding : Nat) : Nat :=
  192 + padding

/- A row with its padding. -/
theorem length_paddedRow
    (f : Frame)
    (padding y : Nat) :
    (f.rgbRow y ++ List.replicate padding 0).length =
      pitch padding := by
  rw [List.length_append, length_rgbRow,
    List.length_replicate]
  rfl

/- The bytes of a picture, by their number. -/
theorem length_rgbPadded
    (f : Frame)
    (padding : Nat) :
    (f.rgbPadded padding).length = 32 * pitch padding := by
  rw [rgbPadded,
    length_flatMap_of_length (f.length_paddedRow padding),
    List.length_range]
  rfl

/- The colours of a pixel in a picture. -/
theorem getElem?_rgbPadded_channel
    (f : Frame)
    (padding : Nat)
    {x y c : Nat}
    (hx : x < 64)
    (hy : y < 32)
    (hc : c < 3) :
    (f.rgbPadded padding)[y * pitch padding + (3 * x + c)]? =
      some (channel (f.pixel x y)) := by
  have hRow : (List.range height)[y]? = some y :=
    List.getElem?_range hy
  have hInside : 3 * x + c < (f.rgbRow y).length := by
    rw [length_rgbRow]
    omega
  have hPlace : 3 * x + c < pitch padding := by
    unfold pitch
    omega
  rw [rgbPadded,
    getElem?_flatMap (f.length_paddedRow padding) hRow hPlace,
    List.getElem?_append_left hInside,
    f.getElem?_rgbRow y hx hc]

/- The padding of a row is zero. -/
theorem getElem?_rgbPadded_padding
    (f : Frame)
    (padding : Nat)
    {y j : Nat}
    (hy : y < 32)
    (hBehind : 192 ≤ j)
    (hPlace : j < pitch padding) :
    (f.rgbPadded padding)[y * pitch padding + j]? =
      some 0 := by
  have hRow : (List.range height)[y]? = some y :=
    List.getElem?_range hy
  have hOutside : (f.rgbRow y).length ≤ j := by
    rw [length_rgbRow]
    exact hBehind
  have hPadding : j - 192 < padding := by
    unfold pitch at hPlace
    omega
  rw [rgbPadded,
    getElem?_flatMap (f.length_paddedRow padding) hRow hPlace,
    List.getElem?_append_right hOutside, length_rgbRow,
    List.getElem?_replicate_of_lt hPadding]

/-
  Whether bytes are the texture of a picture, in rows that are
  padded: each of the three colours of a pixel is 255 if the
  pixel is on and zero if it is off, and the padding of every
  row is zero.
-/
structure IsTexture
    (f : Frame)
    (padding : Nat)
    (texture : List UInt8) : Prop where
  length : texture.length = 32 * (192 + padding)
  channel :
    ∀ row x c,
      row < 32 → x < 64 → c < 3 →
        texture[row * (192 + padding) + (3 * x + c)]? =
          some (if f.pixel x row then 255 else 0)
  padded :
    ∀ row j,
      row < 32 → 192 ≤ j → j < 192 + padding →
        texture[row * (192 + padding) + j]? = some 0

/- The bytes of a picture are its texture. -/
theorem isTexture_rgbPadded
    (f : Frame)
    (padding : Nat) :
    f.IsTexture padding (f.rgbPadded padding) where
  length := f.length_rgbPadded padding
  channel _ _ _ hRow hColumn hColour :=
    f.getElem?_rgbPadded_channel padding hColumn hRow hColour
  padded _ _ hRow hBehind hPlace :=
    f.getElem?_rgbPadded_padding padding hRow hBehind hPlace

end Frame

end ChipEight
