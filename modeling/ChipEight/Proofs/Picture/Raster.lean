import ChipEight.Proofs.Checked.Frame

/-
  The picture as bytes that are drawn on without checks.

  A raster has a byte for every pixel, and a set bit of a
  sprite changes the lowest bit of the byte that it reaches,
  whatever the other bits are. Drawn on from zeros, a raster
  always has the bytes of a picture, so that none of them is
  ever larger than one.

  Key definitions include:
    * `ChipEight.Raster`
    * `ChipEight.Raster.toggle`
    * `ChipEight.Raster.blit`
    * `ChipEight.Frame.raster`

  Main declarations:
    * `ChipEight.Frame.raster_blank`
    * `ChipEight.Frame.raster_flip_dot`
    * `ChipEight.Frame.raster_blit`
-/

namespace ChipEight

------------------------------------------------------------
-- Rasters
------------------------------------------------------------

/- A byte for every pixel, row after row. -/
structure Raster where
  rows : Vector (Vector UInt8 64) 32

namespace Raster

/- Every byte is zero. -/
def blank : Raster where
  rows := Vector.replicate 32 (Vector.replicate 64 0)

/- The place of a pixel in its row, which wraps around. -/
def column (x : Nat) : Fin 64 :=
  ⟨x % 64, Nat.mod_lt x (by decide)⟩

/- The byte of a pixel; both coordinates wrap around. -/
def byte
    (r : Raster)
    (x y : Nat) : UInt8 :=
  (r.rows.get (Frame.line y)).get (column x)

/- Change the lowest bit of the byte of a pixel. -/
def toggle
    (r : Raster)
    (x y : Nat) : Raster where
  rows :=
    r.rows.setIfInBounds (Frame.line y)
      ((r.rows.get (Frame.line y)).setIfInBounds (column x)
        (r.byte x y ^^^ 1))

/- Draw one bit of a sprite byte. -/
def drawBit
    (x y : Nat)
    (bits : UInt8)
    (r : Raster)
    (bit : Nat) : Raster :=
  if bits.toNat.testBit (7 - bit) then
    r.toggle (x + bit) y
  else
    r

/- Draw the bits of a sprite byte on the line it reaches. -/
def drawRow
    (x y : Nat)
    (r : Raster)
    (entry : UInt8 × Nat) : Raster :=
  (List.range 8).foldl
    (drawBit x (y + entry.2) entry.1) r

/- Draw the rows of a sprite. -/
def blit
    (r : Raster)
    (x y : UInt8)
    (sprite : List UInt8) : Raster :=
  ((sprite.take Frame.spriteLimit).zipIdx).foldl
    (drawRow x.toNat y.toNat) r

/- An entry stands at the number of its place. -/
theorem get_eq
    {α : Type}
    {size : Nat}
    (v : Vector α size)
    (k : Fin size) :
    v.get k = v[k.val] :=
  rfl

/- Rasters with the same bytes are the same. -/
theorem eq_of_byte_eq
    {r s : Raster}
    (h : ∀ x y, r.byte x y = s.byte x y) :
    r = s := by
  rcases r with ⟨first⟩
  rcases s with ⟨second⟩
  congr
  apply Vector.ext
  intro y hy
  apply Vector.ext
  intro x hx
  simpa [byte, get_eq, Frame.line, column,
    Nat.mod_eq_of_lt hx, Nat.mod_eq_of_lt hy] using h x y

/- The byte of one pixel is changed, and no other. -/
theorem byte_toggle
    (r : Raster)
    (x y u v : Nat) :
    (r.toggle x y).byte u v =
      if u % 64 = x % 64 ∧ v % 32 = y % 32 then
        r.byte x y ^^^ 1
      else
        r.byte u v := by
  unfold toggle byte
  simp only [get_eq, Frame.line, column,
    Vector.getElem_setIfInBounds]
  by_cases hLine : v % 32 = y % 32
  · by_cases hColumn : u % 64 = x % 64
    · simp [hLine, hColumn]
    · have hOther : ¬ x % 64 = u % 64 := by
        intro hSame
        exact hColumn hSame.symm
      simp [hLine, hColumn, hOther]
  · have hOther : ¬ y % 32 = v % 32 := by
      intro hSame
      exact hLine hSame.symm
    simp [hLine, hOther]

end Raster

------------------------------------------------------------
-- Pictures As Rasters
------------------------------------------------------------

namespace Frame

/- The bytes of a picture. -/
def raster (f : Frame) : Raster where
  rows :=
    Vector.ofFn
      (fun y => Vector.ofFn (fun x => f.byte x y))

/- These are the bytes of its pixels. -/
theorem byte_raster
    (f : Frame)
    (x y : Nat) :
    f.raster.byte x y = f.byte x y := by
  have hByte :
      f.raster.byte x y = f.byte (x % 64) (y % 32) := by
    simp [raster, Raster.byte, Raster.get_eq,
      Raster.column, line]
  have hPixel :
      f.pixel (x % 64) (y % 32) = f.pixel x y := by
    simp [pixel, row, line]
  rw [hByte, byte, hPixel, byte]

/- A picture without pixels has no bytes but zeros. -/
theorem raster_blank : blank.raster = Raster.blank := by
  apply Raster.eq_of_byte_eq
  intro x y
  rw [byte_raster]
  simp [byte, pixel, row, blank, Raster.byte,
    Raster.get_eq, Raster.blank]

/- A flip of one pixel changes its byte. -/
theorem raster_flip_dot
    (f : Frame)
    (x y : Nat) :
    (f.flip y (dot (x % 64))).raster =
      f.raster.toggle x y := by
  have hDot : x % 64 < 64 := Nat.mod_lt x (by decide)
  apply Raster.eq_of_byte_eq
  intro u v
  rw [Raster.byte_toggle, byte_raster, byte_raster,
    byte_raster]
  unfold byte
  rw [pixel_flip, getMsbD_dot hDot]
  by_cases hLine : v % 32 = y % 32
  · by_cases hColumn : u % 64 = x % 64
    · have hPixel : f.pixel u v = f.pixel x y := by
        simp [pixel, row, line, hLine, hColumn]
      rw [hPixel]
      simp only [hLine, hColumn]
      cases f.pixel x y with
      | true => decide
      | false => decide
    · simp [hLine, hColumn]
  · simp [hLine]

/-
  Drawing the first bits of a byte flips the pixels under
  them; the induction is on the bits.
-/
theorem raster_foldl_drawBit
    (f : Frame)
    (x y n : Nat)
    (bits : UInt8) :
    (List.range n).foldl (Raster.drawBit x y bits) f.raster =
      (f.flip y (strokes bits x n)).raster := by
  induction n with
  | zero => rw [strokes, flip_zero]; rfl
  | succ n ih =>
      rw [List.range_succ, List.foldl_append, ih]
      change Raster.drawBit x y bits _ n = _
      rw [Raster.drawBit, strokes]
      split
      · rw [← raster_flip_dot, flip_flip]
      · rfl

/- Drawing a byte flips the pixels under its mask. -/
theorem raster_drawRow
    (f : Frame)
    (x y : Nat)
    (entry : UInt8 × Nat) :
    Raster.drawRow x y f.raster entry =
      (f.flip (y + entry.2) (mask entry.1 x)).raster := by
  rw [Raster.drawRow, raster_foldl_drawBit, strokes_eq_mask]

/- Drawing rows flips the pixels under all their masks. -/
theorem raster_foldl_drawRow
    (f : Frame)
    (x y k : Nat)
    (bytes : List UInt8) :
    (bytes.zipIdx k).foldl (Raster.drawRow x y) f.raster =
      ((masksFrom x (y + k) bytes).foldl
        (fun f entry => f.flip entry.1 entry.2) f).raster := by
  induction bytes generalizing k f with
  | nil => rfl
  | cons byte rest ih =>
      rw [List.zipIdx_cons, List.foldl_cons, raster_drawRow,
        ih]
      rfl

/- Drawing on bytes is drawing on pixels. -/
theorem raster_blit
    (f : Frame)
    (x y : UInt8)
    (sprite : List UInt8) :
    f.raster.blit x y sprite =
      (f.blit x y sprite).raster :=
  f.raster_foldl_drawRow x.toNat y.toNat 0
    (sprite.take spriteLimit)

end Frame

end ChipEight
