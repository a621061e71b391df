import ChipEight.Frame.Basic
import ChipEight.Proofs.Checked.Memory

/-
  Drawing with checks, pixel by pixel.

  A pixel is a byte that is zero or one. A sprite is drawn
  bit by bit: each of its set bits finds its pixel, looks
  whether it is on and flips it. This comes to the same as
  flipping whole rows under masks, for the bits of a byte
  reach different columns and its rows different lines.

  Key definitions include:
    * `ChipEight.Frame.byte`
    * `ChipEight.Frame.byte?`
    * `ChipEight.Frame.setByte?`
    * `ChipEight.Frame.strokes`
    * `ChipEight.Frame.blit?`

  Main declarations:
    * `ChipEight.Frame.byte_eq_zero_or_one`
    * `ChipEight.Frame.strokes_eq_mask`
    * `ChipEight.Frame.drawRow?_eq`
    * `ChipEight.Frame.blit?_eq`
-/

namespace ChipEight

namespace Frame

------------------------------------------------------------
-- Pixels As Bytes
------------------------------------------------------------

/- The byte of a pixel: one if it is on. -/
def byte
    (f : Frame)
    (x y : Nat) : UInt8 :=
  if f.pixel x y then 1 else 0

/- A pixel is zero or one. -/
theorem byte_eq_zero_or_one
    (f : Frame)
    (x y : Nat) :
    f.byte x y = 0 ∨ f.byte x y = 1 := by
  unfold byte
  split
  · exact Or.inr rfl
  · exact Or.inl rfl

/- The byte of a pixel is one if the pixel is on. -/
theorem byte_beq_one
    (f : Frame)
    (x y : Nat) :
    (f.byte x y == 1) = f.pixel x y := by
  unfold byte
  cases f.pixel x y with
  | true => rfl
  | false => rfl

/- The row whose only set pixel is in a column. -/
def dot (x : Nat) : BitVec 64 :=
  BitVec.twoPow 64 (63 - x)

/- A dot is in its column and nowhere else. -/
theorem getMsbD_dot
    {x : Nat}
    (h : x < 64)
    (column : Nat) :
    (dot x).getMsbD column = decide (column = x) := by
  rw [dot, BitVec.getMsbD_twoPow]
  have hLt : 63 - x < 64 := by
    omega
  have hPlace : 64 - (63 - x) - 1 = x := by
    omega
  rw [hPlace, decide_eq_true hLt, Bool.true_and]

/- The byte of the pixel at a place of the picture. -/
def byte?
    (f : Frame)
    (x y : Nat) : Option UInt8 :=
  if x < width ∧ y < height then
    some (f.byte x y)
  else
    none

/-
  Put a byte at a place of the picture, where only zero and
  one can stand.
-/
def setByte?
    (f : Frame)
    (x y : Nat)
    (value : UInt8) : Option Frame :=
  if x < width ∧ y < height ∧ (value = 0 ∨ value = 1) then
    some
      (if value = f.byte x y then f else f.flip y (dot x))
  else
    none

------------------------------------------------------------
-- Flips
------------------------------------------------------------

/- Frames with the same rows are the same. -/
theorem eq_of_row_eq
    {f g : Frame}
    (h : ∀ y, f.row y = g.row y) :
    f = g := by
  rcases f with ⟨first⟩
  rcases g with ⟨second⟩
  congr
  apply Vector.ext
  intro y hy
  have hRow := h y
  simpa [row, line, Nat.mod_eq_of_lt hy] using hRow

/- A flip of no pixel changes nothing. -/
theorem flip_zero
    (f : Frame)
    (y : Nat) :
    f.flip y 0 = f := by
  apply eq_of_row_eq
  intro z
  rw [row_flip]
  split
  · exact BitVec.xor_zero
  · rfl

/- Two flips of a row come to one. -/
theorem flip_flip
    (f : Frame)
    (y : Nat)
    (first second : BitVec 64) :
    (f.flip y first).flip y second =
      f.flip y (first ^^^ second) := by
  apply eq_of_row_eq
  intro z
  rw [row_flip, row_flip, row_flip]
  split
  · exact BitVec.xor_assoc _ _ _
  · rfl

/- The height of a flip wraps around. -/
theorem flip_mod
    (f : Frame)
    (y : Nat)
    (bits : BitVec 64) :
    f.flip (y % 32) bits = f.flip y bits := by
  apply eq_of_row_eq
  intro z
  rw [row_flip, row_flip, Nat.mod_mod]

/- Putting the other byte flips a pixel. -/
theorem setByte?_xor_one
    (f : Frame)
    {x y : Nat}
    (hx : x < 64)
    (hy : y < 32) :
    f.setByte? x y (f.byte x y ^^^ 1) =
      some (f.flip y (dot x)) := by
  have hOther :
      (f.byte x y ^^^ 1 = 0 ∨ f.byte x y ^^^ 1 = 1) ∧
        f.byte x y ^^^ 1 ≠ f.byte x y := by
    rcases f.byte_eq_zero_or_one x y with hOff | hOn
    · rw [hOff]
      decide
    · rw [hOn]
      decide
  rw [setByte?, if_pos ⟨hx, hy, hOther.1⟩,
    if_neg hOther.2]

------------------------------------------------------------
-- Strokes
------------------------------------------------------------

/- The pixels under the first set bits of a byte. -/
def strokes
    (byte : UInt8)
    (x : Nat) : Nat → BitVec 64
  | 0 => 0
  | n + 1 =>
      if byte.toNat.testBit (7 - n) then
        strokes byte x n ^^^ dot ((x + n) % 64)
      else
        strokes byte x n

/-
  A pixel is under the first bits of a byte if one of them is
  set and reaches it. No two of the bits reach one pixel, so
  none is flipped back.
-/
theorem getMsbD_strokes
    (byte : UInt8)
    (x : Nat)
    {n : Nat}
    (hn : n ≤ 64)
    (column : Nat) :
    (strokes byte x n).getMsbD column = true ↔
      ∃ bit,
        bit < n ∧
          byte.toNat.testBit (7 - bit) = true ∧
          (x + bit) % 64 = column := by
  induction n with
  | zero =>
      simp [strokes]
  | succ n ih =>
      have hBefore := ih (by omega)
      have hColumn : (x + n) % 64 < 64 :=
        Nat.mod_lt _ (by decide)
      unfold strokes
      split
      · rename_i hSet
        rw [BitVec.getMsbD_xor, getMsbD_dot hColumn]
        by_cases hHere : column = (x + n) % 64
        · have hFree :
              (strokes byte x n).getMsbD column = false := by
            apply Bool.eq_false_iff.mpr
            intro hOn
            rcases hBefore.mp hOn with
              ⟨bit, hBit, _, hReach⟩
            omega
          rw [hFree, decide_eq_true hHere]
          constructor
          · intro _
            exact ⟨n, by omega, hSet, hHere.symm⟩
          · intro _
            rfl
        · rw [decide_eq_false hHere, Bool.xor_false,
            hBefore]
          constructor
          · rintro ⟨bit, hBit, hOn, hReach⟩
            exact ⟨bit, by omega, hOn, hReach⟩
          · rintro ⟨bit, hBit, hOn, hReach⟩
            have hNe : bit ≠ n := by
              rintro rfl
              exact hHere hReach.symm
            exact ⟨bit, by omega, hOn, hReach⟩
      · rename_i hClear
        rw [hBefore]
        constructor
        · rintro ⟨bit, hBit, hOn, hReach⟩
          exact ⟨bit, by omega, hOn, hReach⟩
        · rintro ⟨bit, hBit, hOn, hReach⟩
          have hNe : bit ≠ n := by
            rintro rfl
            exact hClear hOn
          exact ⟨bit, by omega, hOn, hReach⟩

/- A mask is a byte that was turned to a column. -/
theorem getMsbD_mask_eq
    (byte : UInt8)
    (x : Nat)
    {column : Nat}
    (h : column < 64) :
    (mask byte x).getMsbD column =
      byte.toBitVec.getMsbD
        ((64 + column - x % 64) % 64) := by
  have hShift :
      ∀ k,
        ((byte.toBitVec.setWidth 64) <<< 56).getMsbD k =
          byte.toBitVec.getMsbD k := by
    intro k
    have hBack : k + 56 + 8 - 64 = k := by
      omega
    have hInside : 64 - 8 ≤ k + 56 := by
      omega
    rw [BitVec.getMsbD_shiftLeft, BitVec.getMsbD_setWidth,
      hBack, decide_eq_true hInside, Bool.true_and]
  rw [mask, BitVec.getMsbD_rotateRight, hShift, hShift,
    decide_eq_true h, Bool.true_and]
  split
  · rfl
  · have hPlain :
        (64 + column - x % 64) % 64 = column - x % 64 := by
      omega
    rw [hPlain]

/-
  A pixel is under the mask of a byte if one of the eight
  bits is set and reaches it.
-/
theorem getMsbD_mask
    (byte : UInt8)
    (x column : Nat) :
    (mask byte x).getMsbD column = true ↔
      ∃ bit,
        bit < 8 ∧
          byte.toNat.testBit (7 - bit) = true ∧
          (x + bit) % 64 = column := by
  by_cases hColumn : column < 64
  · rw [getMsbD_mask_eq byte x hColumn,
      BitVec.getMsbD_eq_getLsbD, Bool.and_eq_true,
      decide_eq_true_eq]
    constructor
    · rintro ⟨hBit, hOn⟩
      exact ⟨_, hBit, hOn, by omega⟩
    · rintro ⟨bit, hBit, hOn, hReach⟩
      have hPlace : (64 + column - x % 64) % 64 = bit := by
        omega
      rw [hPlace]
      exact ⟨hBit, hOn⟩
  · rw [BitVec.getMsbD_of_ge _ _ (by omega)]
    constructor
    · intro hOn
      cases hOn
    · rintro ⟨bit, _, _, hReach⟩
      omega

/- All strokes of a byte make up its mask. -/
theorem strokes_eq_mask
    (byte : UInt8)
    (x : Nat) :
    strokes byte x 8 = mask byte x := by
  apply BitVec.eq_of_getMsbD_eq
  intro column _
  apply Bool.eq_iff_iff.mpr
  rw [getMsbD_strokes byte x (by decide), getMsbD_mask]

------------------------------------------------------------
-- Rows, Bit By Bit
------------------------------------------------------------

/-
  Draw one bit of a sprite byte on a line, after others that
  did or did not hit a pixel that was on.
-/
def drawBit?
    (x y : Nat)
    (byte : UInt8)
    (drawn : Bool × Frame)
    (bit : Nat) : Option (Bool × Frame) := do
  let shift ← Checked.difference 7 bit
  if byte.toNat.testBit shift then
    let reach ← Checked.sum Checked.wordLimit x bit
    let column := reach % width
    let before ← drawn.2.byte? column y
    let frame ← drawn.2.setByte? column y (before ^^^ 1)
    some (drawn.1 || before == 1, frame)
  else
    some drawn

/- Draw the bits of a sprite byte on the line it reaches. -/
def drawRow?
    (x y : Nat)
    (drawn : Bool × Frame)
    (entry : UInt8 × Nat) : Option (Bool × Frame) := do
  let reach ← Checked.sum Checked.wordLimit y entry.2
  (List.range 8).foldlM
    (drawBit? x (reach % height) entry.1) drawn

/- A clear bit draws nothing. -/
theorem drawBit?_of_clear
    {byte : UInt8}
    {bit : Nat}
    (x y : Nat)
    (drawn : Bool × Frame)
    (hBit : bit < 8)
    (hClear : byte.toNat.testBit (7 - bit) = false) :
    drawBit? x y byte drawn bit = some drawn := by
  have hShift : bit ≤ 7 := by
    omega
  unfold drawBit?
  rw [Checked.difference_bind hShift]
  simp [hClear]

/- A set bit flips its pixel, which may have been on. -/
theorem drawBit?_of_set
    {x y : Nat}
    {byte : UInt8}
    {bit : Nat}
    (drawn : Bool × Frame)
    (hx : x < 256)
    (hy : y < 32)
    (hBit : bit < 8)
    (hSet : byte.toNat.testBit (7 - bit) = true) :
    drawBit? x y byte drawn bit =
      some
        (drawn.1 || drawn.2.pixel ((x + bit) % 64) y,
          drawn.2.flip y (dot ((x + bit) % 64))) := by
  have hShift : bit ≤ 7 := by
    omega
  have hReach : x + bit < Checked.wordLimit := by
    unfold Checked.wordLimit
    omega
  have hColumn : (x + bit) % 64 < 64 :=
    Nat.mod_lt _ (by decide)
  have hByte :
      drawn.2.byte? ((x + bit) % 64) y =
        some (drawn.2.byte ((x + bit) % 64) y) :=
    if_pos ⟨hColumn, hy⟩
  unfold drawBit?
  rw [Checked.difference_bind hShift, if_pos hSet,
    Checked.sum_bind hReach]
  simp only [width, hByte, Option.bind_eq_bind,
    Option.bind_some, byte_beq_one,
    setByte?_xor_one drawn.2 hColumn hy]

/- A row has a set pixel if it is not blank. -/
theorem bne_zero_iff_getMsbD (bits : BitVec 64) :
    (bits != 0) = true ↔
      ∃ column, bits.getMsbD column = true := by
  rw [bne_iff_ne]
  constructor
  · intro hNe
    apply Classical.byContradiction
    intro hNone
    apply hNe
    apply BitVec.eq_of_getMsbD_eq
    intro column _
    cases hOn : bits.getMsbD column with
    | true => exact absurd ⟨column, hOn⟩ hNone
    | false => simp
  · rintro ⟨column, hOn⟩ hZero
    simp [hZero] at hOn

/-
  A row meets some strokes and a dot beside them if it meets
  the strokes or its pixel under the dot is on.
-/
theorem and_xor_dot_bne_zero
    (row bits : BitVec 64)
    {x : Nat}
    (hx : x < 64)
    (hFree : bits.getMsbD x = false) :
    (row &&& (bits ^^^ dot x) != 0) =
      (row &&& bits != 0 || row.getMsbD x) := by
  apply Bool.eq_iff_iff.mpr
  rw [Bool.or_eq_true, bne_zero_iff_getMsbD,
    bne_zero_iff_getMsbD]
  simp only [BitVec.getMsbD_and, BitVec.getMsbD_xor,
    getMsbD_dot hx]
  constructor
  · rintro ⟨column, hMeet⟩
    by_cases hHere : column = x
    · subst hHere
      apply Or.inr
      simpa [hFree] using hMeet
    · apply Or.inl
      refine ⟨column, ?_⟩
      simpa [hHere] using hMeet
  · rintro (⟨column, hMeet⟩ | hOn)
    · have hElsewhere : column ≠ x := by
        rintro rfl
        simp [hFree] at hMeet
      refine ⟨column, ?_⟩
      simpa [hElsewhere] using hMeet
    · refine ⟨x, ?_⟩
      simp [hFree, hOn]

/-
  After the first bits of a byte, the line is flipped under
  their strokes, and a pixel was hit if the line met them.
-/
theorem foldlM_drawBit?
    (byte : UInt8)
    {x y n : Nat}
    (hx : x < 256)
    (hy : y < 32)
    (hn : n ≤ 8)
    (hit : Bool)
    (f : Frame) :
    (List.range n).foldlM (drawBit? x y byte) (hit, f) =
      some
        (hit || f.row y &&& strokes byte x n != 0,
          f.flip y (strokes byte x n)) := by
  induction n with
  | zero =>
      have hBlank : (f.row y &&& 0 != 0) = false := by
        simp
      rw [strokes, flip_zero, hBlank, Bool.or_false]
      rfl
  | succ n ih =>
      have hBit : n < 8 := by
        omega
      rw [List.range_succ, List.foldlM_append,
        ih (by omega), Option.bind_eq_bind,
        Option.bind_some, List.foldlM_cons]
      cases hSet : byte.toNat.testBit (7 - n) with
      | true =>
          have hColumn : (x + n) % 64 < 64 :=
            Nat.mod_lt _ (by decide)
          have hFree :
              (strokes byte x n).getMsbD ((x + n) % 64) =
                false := by
            apply Bool.eq_false_iff.mpr
            intro hOn
            rcases (getMsbD_strokes byte x (by omega) _).mp hOn
              with ⟨bit, hBefore, _, hReach⟩
            omega
          rw [drawBit?_of_set _ hx hy hBit hSet, strokes,
            if_pos hSet, flip_flip, pixel_flip,
            and_xor_dot_bne_zero _ _ hColumn hFree]
          simp [hFree, pixel, Bool.or_assoc]
      | false =>
          have hClear :
              ¬ byte.toNat.testBit (7 - n) = true := by
            simp [hSet]
          rw [drawBit?_of_clear x y _ hBit hSet, strokes,
            if_neg hClear]
          rfl

/- The height of a row wraps around. -/
theorem row_mod
    (f : Frame)
    (y : Nat) :
    f.row (y % 32) = f.row y := by
  simp [row, line]

/- A row of a sprite flips its line under its mask. -/
theorem drawRow?_eq
    {x y k : Nat}
    (hx : x < 256)
    (hReach : y + k < Checked.wordLimit)
    (hit : Bool)
    (f : Frame)
    (byte : UInt8) :
    drawRow? x y (hit, f) (byte, k) =
      some
        (hit || f.row (y + k) &&& mask byte x != 0,
          f.flip (y + k) (mask byte x)) := by
  have hLine : (y + k) % 32 < 32 :=
    Nat.mod_lt _ (by decide)
  rw [drawRow?, Checked.sum_bind hReach, height,
    foldlM_drawBit? byte hx hLine (by decide), row_mod,
    flip_mod, strokes_eq_mask]

------------------------------------------------------------
-- Sprites, Row By Row
------------------------------------------------------------

/- The masks of bytes from a height on. -/
def masksFrom
    (x y : Nat)
    (bytes : List UInt8) : List (Nat × BitVec 64) :=
  (bytes.zipIdx y).map
    (fun entry => (entry.2, mask entry.1 x))

/- The masks from a height on reach no line above it. -/
theorem mem_masksFrom
    {x y : Nat}
    {bytes : List UInt8}
    {entry : Nat × BitVec 64}
    (h : entry ∈ masksFrom x y bytes) :
    y ≤ entry.1 ∧ entry.1 < y + bytes.length := by
  rcases List.mem_map.mp h with ⟨source, hSource, rfl⟩
  exact ⟨List.le_snd_of_mem_zipIdx hSource,
    List.snd_lt_add_of_mem_zipIdx hSource⟩

/- Draw the rows of a sprite and tell whether one hit. -/
def blit?
    (f : Frame)
    (x y : UInt8)
    (sprite : List UInt8) : Option (Bool × Frame) :=
  ((sprite.take spriteLimit).zipIdx).foldlM
    (drawRow? x.toNat y.toNat) (false, f)

/- What masks hit depends on the rows they are for. -/
theorem any_hits_congr
    {f g : Frame}
    {masks : List (Nat × BitVec 64)}
    (h :
      ∀ entry ∈ masks, f.row entry.1 = g.row entry.1) :
    masks.any (fun entry => f.row entry.1 &&& entry.2 != 0) =
      masks.any
        (fun entry => g.row entry.1 &&& entry.2 != 0) := by
  induction masks with
  | nil =>
      rfl
  | cons entry rest ih =>
      rcases List.forall_mem_cons.mp h with ⟨hFirst, hRest⟩
      rw [List.any_cons, List.any_cons, hFirst, ih hRest]

/-
  Rows in turn hit what they would hit on the first picture:
  there are too few of them for one to reach the line of
  another.
-/
theorem foldlM_drawRow?
    {x y k : Nat}
    (hx : x < 256)
    (hy : y < 256)
    (bytes : List UInt8)
    (hLength : k + bytes.length ≤ 15)
    (hit : Bool)
    (f : Frame) :
    (bytes.zipIdx k).foldlM (drawRow? x y) (hit, f) =
      some
        (hit ||
            (masksFrom x (y + k) bytes).any
              (fun entry => f.row entry.1 &&& entry.2 != 0),
          (masksFrom x (y + k) bytes).foldl
            (fun f entry => f.flip entry.1 entry.2) f) := by
  induction bytes generalizing k hit f with
  | nil =>
      simp [masksFrom]
  | cons byte rest ih =>
      rw [List.length_cons] at hLength
      have hReach : y + k < Checked.wordLimit := by
        unfold Checked.wordLimit
        omega
      have hFewer : k + 1 + rest.length ≤ 15 := by
        omega
      have hLater :
          ∀ entry ∈ masksFrom x (y + (k + 1)) rest,
            (f.flip (y + k) (mask byte x)).row entry.1 =
              f.row entry.1 := by
        intro entry hEntry
        have hRange := mem_masksFrom hEntry
        rw [row_flip, if_neg (by omega)]
      have hMasks :
          masksFrom x (y + k) (byte :: rest) =
            (y + k, mask byte x) ::
              masksFrom x (y + (k + 1)) rest :=
        rfl
      rw [List.zipIdx_cons, List.foldlM_cons,
        drawRow?_eq hx hReach, Option.bind_eq_bind,
        Option.bind_some, ih hFewer, any_hits_congr hLater,
        hMasks, List.any_cons, List.foldl_cons,
        Bool.or_assoc]

/- A sprite is drawn and hits as its stencil tells. -/
theorem blit?_eq
    (f : Frame)
    (x y : UInt8)
    (sprite : List UInt8) :
    f.blit? x y sprite =
      some (f.collides x y sprite, f.blit x y sprite) := by
  have hLength :
      0 + (sprite.take spriteLimit).length ≤ 15 := by
    rw [Nat.zero_add]
    exact List.length_take_le _ _
  rw [blit?,
    foldlM_drawRow? x.toNat_lt y.toNat_lt _ hLength,
    Bool.false_or]
  rfl

end Frame

end ChipEight
