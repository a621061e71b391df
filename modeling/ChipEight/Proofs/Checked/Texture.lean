import ChipEight.Host.Screen
import ChipEight.Proofs.Picture.Raster
import ChipEight.Proofs.Picture.Texture
import Mathlib.Data.List.Basic

/-
  A texture filled with checks.

  The bytes of all pixels are taken one row after another,
  each three times, and multiplied up to a colour. The colours
  are cut into lines as long as the picture is wide, and each
  line is copied to the place where its row starts in a buffer
  of zeros. No colour is too large for a byte since a pixel is
  zero or one, and no line reaches past the buffer. What comes
  of it are the bytes that the host is given.

  Key definitions include:
    * `ChipEight.Checked.chunks`
    * `ChipEight.Checked.overwrite?`
    * `ChipEight.Raster.bytes`
    * `ChipEight.Raster.colours?`
    * `ChipEight.Raster.fillTexture?`

  Main declarations:
    * `ChipEight.Frame.colours?_eq`
    * `ChipEight.Frame.chunks_rgb`
    * `ChipEight.Frame.fillTexture?_eq`
    * `ChipEight.Frame.texture_shows_pixels`
-/

namespace ChipEight

------------------------------------------------------------
-- Slices
------------------------------------------------------------

namespace Checked

variable {α : Type}

/- Cut a list into chunks of a size; the last may be shorter. -/
def chunks
    (size : Nat)
    (l : List α) : List (List α) :=
  (List.range ((l.length + size - 1) / size)).map
    (fun k => (l.drop (k * size)).take size)

/- Copy a list over the part of another from a place on. -/
def overwrite?
    (buffer : List α)
    (start : Nat)
    (l : List α) : Option (List α) :=
  if start + l.length ≤ buffer.length then
    some
      (buffer.take start ++ l ++
        buffer.drop (start + l.length))
  else
    none

/- Lists of one length are cut apart again. -/
theorem chunks_flatMap_range
    {g : Nat → List α}
    {size : Nat}
    (hSome : 0 < size)
    (hSize : ∀ k, (g k).length = size)
    (count : Nat) :
    chunks size ((List.range count).flatMap g) =
      (List.range count).map g := by
  have hCount :
      (count * size + size - 1) / size = count := by
    have hSum :
        count * size + size - 1 = size - 1 + count * size := by
      omega
    have hRest : (size - 1) / size = 0 :=
      Nat.div_eq_of_lt (by omega)
    rw [hSum, Nat.add_mul_div_right _ _ hSome, hRest,
      Nat.zero_add]
  rw [chunks, length_flatMap_of_length hSize,
    List.length_range, hCount]
  apply List.map_congr_left
  intro k hMem
  have hPlace : (List.range count)[k]? = some k :=
    List.getElem?_range (List.mem_range.mp hMem)
  exact take_drop_flatMap hSize hPlace

/- A list is copied over zeros behind what is there. -/
theorem overwrite?_append_replicate
    (zero : α)
    (front l : List α)
    {room : Nat}
    (h : l.length ≤ room) :
    overwrite? (front ++ List.replicate room zero)
        front.length l =
      some
        (front ++ l ++
          List.replicate (room - l.length) zero) := by
  have hInside :
      front.length + l.length ≤
        (front ++ List.replicate room zero).length := by
    rw [List.length_append, List.length_replicate]
    omega
  rw [overwrite?, if_pos hInside, List.take_left,
    List.drop_length_add_append, List.drop_replicate]

end Checked

------------------------------------------------------------
-- Filling
------------------------------------------------------------

namespace Raster

/- The bytes of all pixels, row after row. -/
def bytes (r : Raster) : List UInt8 :=
  r.rows.toList.flatMap Vector.toList

/- The colour of the byte of a pixel. -/
def colour? (pixel : UInt8) : Option UInt8 :=
  (Checked.product Checked.byteLimit pixel.toNat 255).map
    UInt8.ofNat

/- The colours of all pixels, three equal ones for each. -/
def colours? (r : Raster) : Option (List UInt8) :=
  (r.bytes.flatMap (List.replicate 3)).mapM colour?

/-
  Fill a buffer with a picture whose rows start a pitch apart:
  each line of colours is copied to where its row starts.
-/
def fillTexture?
    (r : Raster)
    (pitch : Nat)
    (buffer : List UInt8) : Option (List UInt8) := do
  let colours ← r.colours?
  (Checked.chunks Frame.rgbRowSize colours).zipIdx.foldlM
    (fun buffer entry =>
      Checked.overwrite? buffer (entry.2 * pitch) entry.1)
    buffer

end Raster

namespace Frame

------------------------------------------------------------
-- Colours
------------------------------------------------------------

/- The members of a vector by their number. -/
theorem toList_ofFn
    {α : Type}
    (size : Nat)
    (g : Nat → α) :
    (Vector.ofFn (fun k : Fin size => g k)).toList =
      (List.range size).map g := by
  apply List.ext_getElem
  · simp
  · intro k _ _
    simp

/- The bytes of a picture, row after row. -/
theorem bytes_raster (f : Frame) :
    f.raster.bytes =
      (List.range height).flatMap
        (fun y =>
          (List.range width).map (fun x => f.byte x y)) := by
  have hRows :
      f.raster.rows.toList =
        (List.range height).map
          (fun y =>
            Vector.ofFn (fun x : Fin 64 => f.byte x y)) :=
    toList_ofFn 32
      (fun y => Vector.ofFn (fun x : Fin 64 => f.byte x y))
  rw [Raster.bytes, hRows, List.flatMap_map]
  apply List.flatMap_congr
  intro y _
  exact toList_ofFn 64 (fun x => f.byte x y)

/- A pixel is zero or one, so its colour fits into a byte. -/
theorem colour?_byte
    (f : Frame)
    (x y : Nat) :
    Raster.colour? (f.byte x y) =
      some (f.byte x y * 255) := by
  rcases f.byte_eq_zero_or_one x y with hOff | hOn
  · rw [hOff]
    decide
  · rw [hOn]
    decide

/- This is the colour that the picture has there. -/
theorem byte_mul_eq_channel
    (f : Frame)
    (x y : Nat) :
    f.byte x y * 255 = channel (f.pixel x y) := by
  unfold byte
  cases f.pixel x y with
  | true => rfl
  | false => rfl

/- The byte of every pixel is that of a place. -/
theorem exists_of_mem_bytes
    {f : Frame}
    {pixel : UInt8}
    (h : pixel ∈ f.raster.bytes) :
    ∃ x y, pixel = f.byte x y := by
  rw [bytes_raster] at h
  rcases List.mem_flatMap.mp h with ⟨y, _, hRow⟩
  rcases List.mem_map.mp hRow with ⟨x, _, rfl⟩
  exact ⟨x, y, rfl⟩

/- All pixels have the colours of the picture. -/
theorem colours?_eq (f : Frame) :
    f.raster.colours? = some f.rgb := by
  have hColours :
      f.raster.colours? =
        some
          ((f.raster.bytes.flatMap (List.replicate 3)).map
            (fun pixel => pixel * 255)) := by
    apply Checked.mapM_eq_pure_map
    intro pixel hMem
    rcases List.mem_flatMap.mp hMem with
      ⟨byte, hByte, hCopy⟩
    cases List.eq_of_mem_replicate hCopy
    rcases exists_of_mem_bytes hByte with ⟨x, y, rfl⟩
    exact f.colour?_byte x y
  refine hColours.trans (congrArg some ?_)
  rw [bytes_raster, rgb, List.map_flatMap,
    List.flatMap_assoc]
  apply List.flatMap_congr
  intro y _
  rw [rgbRow, List.flatMap_map]
  apply List.flatMap_congr
  intro x _
  rw [List.map_replicate, byte_mul_eq_channel]

/- The lines of the colours are the rows of the picture. -/
theorem chunks_rgb (f : Frame) :
    Checked.chunks rgbRowSize f.rgb =
      (List.range height).map f.rgbRow :=
  Checked.chunks_flatMap_range (by decide) f.length_rgbRow
    height

------------------------------------------------------------
-- Textures
------------------------------------------------------------

/-
  Rows that were copied so far stand before zeros; the
  induction is on the rows.
-/
theorem foldlM_overwrite?
    (f : Frame)
    (padding : Nat)
    {rows : Nat}
    (h : rows ≤ height) :
    (List.range rows).foldlM
        (fun buffer y =>
          Checked.overwrite? buffer (y * pitch padding)
            (f.rgbRow y))
        (List.replicate (height * pitch padding) 0) =
      some
        ((List.range rows).flatMap
            (fun y =>
              f.rgbRow y ++ List.replicate padding 0) ++
          List.replicate ((height - rows) * pitch padding)
            0) := by
  induction rows with
  | zero => rfl
  | succ rows ih =>
      have hStart :
          ((List.range rows).flatMap
            (fun y =>
              f.rgbRow y ++
                List.replicate padding 0)).length =
            rows * pitch padding := by
        rw [length_flatMap_of_length
            (f.length_paddedRow padding),
          List.length_range]
      have hRoom :
          (height - rows) * pitch padding =
            192 + padding +
              (height - (rows + 1)) * pitch padding := by
        have hRows :
            height - rows = height - (rows + 1) + 1 := by
          omega
        rw [hRows, Nat.succ_mul, pitch, Nat.add_comm]
      have hFits :
          (f.rgbRow rows).length ≤
            (height - rows) * pitch padding := by
        rw [length_rgbRow, hRoom]
        omega
      have hBehind :
          (height - rows) * pitch padding -
              (f.rgbRow rows).length =
            padding +
              (height - (rows + 1)) * pitch padding := by
        rw [length_rgbRow, hRoom]
        omega
      rw [List.range_succ, List.foldlM_append,
        ih (Nat.le_of_succ_le h)]
      change
        (Checked.overwrite? _ (rows * pitch padding) _ >>=
          pure) = _
      rw [← hStart,
        Checked.overwrite?_append_replicate 0 _ _ hFits,
        hBehind, List.flatMap_append,
        ← List.replicate_append_replicate]
      simp [List.append_assoc]

/- The rows of a picture with their numbers. -/
theorem zipIdx_map_range
    {α : Type}
    (g : Nat → α)
    (count : Nat) :
    ((List.range count).map g).zipIdx =
      (List.range count).map (fun k => (g k, k)) := by
  apply List.ext_getElem
  · simp
  · intro k _ _
    simp

/- A buffer of zeros is filled with the bytes of a picture. -/
theorem fillTexture?_eq
    (f : Frame)
    (padding : Nat) :
    f.raster.fillTexture? (pitch padding)
        (List.replicate (height * pitch padding) 0) =
      some (f.rgbPadded padding) := by
  have hFilled :=
    f.foldlM_overwrite? padding (Nat.le_refl height)
  rw [Nat.sub_self, Nat.zero_mul, List.replicate_zero,
    List.append_nil] at hFilled
  rw [Raster.fillTexture?, colours?_eq, Option.bind_eq_bind,
    Option.bind_some, chunks_rgb, zipIdx_map_range,
    List.foldlM_map]
  exact hFilled

/-
  Every picture can be brought into a texture, however its
  rows are padded. What is drawn on bytes, from zeros on, has
  the bytes of a picture, and these are zero or one. So no
  colour is too large for a byte, and no line reaches past the
  end. Each of the three colours of a pixel is 255 if the
  pixel is on and zero if it is off, and the padding of every
  row stays zero. These are the bytes that the host is given
  to be painted.
-/
theorem texture_shows_pixels
    (f : Frame)
    (padding : Nat) :
    let pitch := 192 + padding
    Raster.blank = blank.raster ∧
      (∀ x y sprite,
        f.raster.blit x y sprite =
          (f.blit x y sprite).raster) ∧
      ∃ texture,
        f.raster.fillTexture? pitch
            (List.replicate (32 * pitch) 0) =
          some texture ∧
        renderCalls padding f none =
          [.makeTexture, .copyTexture texture, .present] ∧
        texture.length = 32 * pitch ∧
        (∀ row x c,
          row < 32 → x < 64 → c < 3 →
            f.raster.byte x row =
                (if f.pixel x row then 1 else 0) ∧
              texture[row * pitch + 3 * x + c]? =
                some (if f.pixel x row then 255 else 0)) ∧
        ∀ row j,
          row < 32 → 192 ≤ j → j < pitch →
            texture[row * pitch + j]? = some 0 := by
  intro pitch
  refine
    ⟨raster_blank.symm, f.raster_blit, f.rgbPadded padding,
      f.fillTexture?_eq padding, rfl,
      f.length_rgbPadded padding, ?_, ?_⟩
  · intro row x c hRow hColumn hColour
    refine ⟨f.byte_raster x row, ?_⟩
    rw [Nat.add_assoc]
    exact
      f.getElem?_rgbPadded_channel padding hColumn hRow
        hColour
  · intro row j hRow hBehind hPlace
    exact
      f.getElem?_rgbPadded_padding padding hRow hBehind hPlace

/-
  Two pixels that are drawn on bytes, in rows of 196 bytes:
  the second one of the first row and the first one of the
  second row.
-/
theorem two_pixels_in_texture :
    let r := (Raster.blank.blit 1 0 [0x80]).blit 0 1 [0x80]
    ∃ texture,
      r.fillTexture? 196 (List.replicate 6272 0) =
          some texture ∧
        texture[2]? = some 0 ∧
        texture[3]? = some 255 ∧
        texture[195]? = some 0 ∧
        texture[196]? = some 255 := by
  intro r
  let f := (blank.blit 1 0 [0x80]).blit 0 1 [0x80]
  have hRaster : r = f.raster := by
    rw [← raster_blit, ← raster_blit, raster_blank]
  have hPixels :
      f.pixel 0 0 = false ∧
        f.pixel 1 0 = true ∧
        f.pixel 0 1 = true := by
    decide +kernel
  rcases hPixels with ⟨hFirst, hSecond, hBelow⟩
  rcases f.texture_shows_pixels 4 with
    ⟨_, _, texture, hFilled, _, _, hColours, hPadding⟩
  have hOff :=
    (hColours 0 0 2 (by decide) (by decide) (by decide)).2
  have hOn :=
    (hColours 0 1 0 (by decide) (by decide) (by decide)).2
  have hNext :=
    (hColours 1 0 0 (by decide) (by decide) (by decide)).2
  rw [hFirst] at hOff
  rw [hSecond] at hOn
  rw [hBelow] at hNext
  rw [hRaster]
  refine ⟨texture, hFilled, hOff, hOn, ?_, hNext⟩
  exact hPadding 0 195 (by decide) (by decide) (by decide)

end Frame

end ChipEight
