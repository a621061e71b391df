/-
  The picture of the machine: 64 by 32 pixels that are on or
  off, in a torus.

  A row is a word of 64 bits whose most significant bit is
  the leftmost pixel. Drawing a sprite flips, in each row the
  sprite reaches, the pixels under its set bits, so a sprite
  byte is a mask of a row, turned to its column.

  Key definitions include:
    * `ChipEight.Frame`
    * `ChipEight.Frame.blank`
    * `ChipEight.Frame.pixel`
    * `ChipEight.Frame.blit`
    * `ChipEight.Frame.collides`
-/

namespace ChipEight

------------------------------------------------------------
-- Pixels
------------------------------------------------------------

/- The rows of the picture, top first. -/
structure Frame where
  rows : Vector (BitVec 64) 32
deriving DecidableEq

namespace Frame

/- Pixels of a row. -/
def width : Nat :=
  64

/- Rows of the picture. -/
def height : Nat :=
  32

/- Every pixel is off. -/
def blank : Frame where
  rows := Vector.replicate 32 0

/- The place of a row, which wraps around. -/
def line (y : Nat) : Fin 32 :=
  ⟨y % 32, Nat.mod_lt y (by decide)⟩

/- The row at a height, which wraps around. -/
def row
    (f : Frame)
    (y : Nat) : BitVec 64 :=
  f.rows[line y]

/- Whether a pixel is on; both coordinates wrap around. -/
def pixel
    (f : Frame)
    (x y : Nat) : Bool :=
  (f.row y).getMsbD (x % 64)

------------------------------------------------------------
-- Sprites
------------------------------------------------------------

/- The most rows that a sprite can have. -/
def spriteLimit : Nat :=
  15

/- The pixels of a row under a sprite byte at a column. -/
def mask
    (byte : UInt8)
    (x : Nat) : BitVec 64 :=
  ((byte.toBitVec.setWidth 64) <<< 56).rotateRight x

/- Flip the pixels of a row under a mask. -/
def flip
    (f : Frame)
    (y : Nat)
    (bits : BitVec 64) : Frame where
  rows :=
    f.rows.set (line y) (f.row y ^^^ bits)

/- A flip changes one row only, by its mask. -/
theorem row_flip
    (f : Frame)
    (y z : Nat)
    (bits : BitVec 64) :
    (f.flip y bits).row z =
      if z % 32 = y % 32 then
        f.row z ^^^ bits
      else
        f.row z := by
  unfold flip row
  simp only [Fin.getElem_fin, line,
    Vector.getElem_set]
  by_cases h : z % 32 = y % 32
  · simp only [h, if_true]
  · have hNe : ¬ y % 32 = z % 32 := by
      intro hEq
      exact h hEq.symm
    simp only [h, hNe, if_false]

/- A flip of a row changes the pixels under its mask. -/
theorem pixel_flip
    (f : Frame)
    (x y z : Nat)
    (bits : BitVec 64) :
    (f.flip y bits).pixel x z =
      if z % 32 = y % 32 then
        f.pixel x z ^^ bits.getMsbD (x % 64)
      else
        f.pixel x z := by
  unfold pixel
  rw [row_flip]
  split
  · exact BitVec.getMsbD_xor
  · rfl

/-
  The masks of a sprite at a place, each with the height it
  belongs to.
-/
def stencil
    (x y : UInt8)
    (sprite : List UInt8) : List (Nat × BitVec 64) :=
  ((sprite.take spriteLimit).zipIdx y.toNat).map
    (fun entry => (entry.2, mask entry.1 x.toNat))

/- Draw a sprite: flip the pixels under its set bits. -/
def blit
    (f : Frame)
    (x y : UInt8)
    (sprite : List UInt8) : Frame :=
  (stencil x y sprite).foldl
    (fun f entry => f.flip entry.1 entry.2) f

/- Whether a sprite would flip a pixel that is on. -/
def collides
    (f : Frame)
    (x y : UInt8)
    (sprite : List UInt8) : Bool :=
  (stencil x y sprite).any
    (fun entry => f.row entry.1 &&& entry.2 != 0)

end Frame

end ChipEight
