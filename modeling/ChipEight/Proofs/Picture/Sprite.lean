import ChipEight.Proofs.Instruction.Forms
import ChipEight.Proofs.Machine.Memory
import ChipEight.Proofs.Machine.Sound

/-
  Which pixels a sprite flips.

  Each set bit of the first fifteen rows of a sprite lands on
  one pixel, around both edges of the picture. No two of them
  land on the same pixel: the bits of a row are fewer than the
  columns and the rows fewer than the lines. So a sprite flips
  exactly the pixels under its set bits, and it hits those of
  them that were on before.

  Key definitions include:
    * `ChipEight.Frame.Lands`
    * `ChipEight.Frame.Covers`
    * `ChipEight.Frame.inks`
    * `ChipEight.Frame.DrawnOver`
    * `ChipEight.Machine.spriteRows`

  Main declarations:
    * `ChipEight.Frame.pixel_blit`
    * `ChipEight.Frame.inks_eq_true_iff`
    * `ChipEight.Frame.collides_eq_true_iff`
    * `ChipEight.Machine.readRange_index`
    * `ChipEight.Machine.execute_draw`
    * `ChipEight.Machine.sprites_flip_pixels`
-/

namespace ChipEight

namespace Frame

------------------------------------------------------------
-- Bits That Land
------------------------------------------------------------

/-
  Whether a bit of a row of a sprite is set and lands on a
  pixel. Bits are counted from the left, and rows behind the
  fifteenth are not drawn.
-/
structure Lands
    (x y : UInt8)
    (sprite : List UInt8)
    (row bit column line : Nat) : Prop where
  row_lt : row < min sprite.length 15
  bit_lt : bit < 8
  line_eq : (y.toNat + row) % 32 = line % 32
  column_eq : (x.toNat + bit) % 64 = column % 64
  isSet : (sprite.getD row 0).toNat.testBit (7 - bit) = true

/- Whether a set bit of a sprite lands on a pixel. -/
def Covers
    (x y : UInt8)
    (sprite : List UInt8)
    (column line : Nat) : Prop :=
  ∃ row bit, Lands x y sprite row bit column line

/- One bit at most lands on a pixel. -/
theorem Lands.unique
    {x y : UInt8}
    {sprite : List UInt8}
    {row bit otherRow otherBit column line : Nat}
    (h : Lands x y sprite row bit column line)
    (hOther :
      Lands x y sprite otherRow otherBit column line) :
    row = otherRow ∧ bit = otherBit := by
  have hRow := h.row_lt
  have hOtherRow := hOther.row_lt
  have hLine := h.line_eq.trans hOther.line_eq.symm
  have hBit := h.bit_lt
  have hOtherBit := hOther.bit_lt
  have hColumn := h.column_eq.trans hOther.column_eq.symm
  constructor
  · omega
  · omega

/- The stencil of a sprite has a mask for each of its rows. -/
theorem mem_stencil_iff
    {x y : UInt8}
    {sprite : List UInt8}
    {entry : Nat × BitVec 64} :
    entry ∈ stencil x y sprite ↔
      ∃ row,
        row < min sprite.length 15 ∧
          entry =
            (y.toNat + row,
              mask (sprite.getD row 0) x.toNat) := by
  have hByte :
      ∀ row,
        row < min sprite.length 15 →
          (sprite.take spriteLimit)[row]? =
            some (sprite.getD row 0) := by
    intro row hRow
    have hInside : row < sprite.length := by
      omega
    have hDrawn : row < spriteLimit := by
      unfold spriteLimit
      omega
    rw [List.getElem?_take_of_lt hDrawn,
      List.getD_eq_getElem?_getD,
      List.getElem?_eq_getElem hInside, Option.getD_some]
  unfold stencil
  rw [List.mem_map]
  constructor
  · rintro ⟨⟨byte, height⟩, hMem, rfl⟩
    rw [List.mk_mem_zipIdx_iff_le_and_getElem?_sub] at hMem
    rcases hMem with ⟨hLe, hAt⟩
    have hRow : height - y.toNat < min sprite.length 15 := by
      have hLength := (List.getElem?_eq_some_iff.mp hAt).1
      rw [List.length_take, spriteLimit] at hLength
      omega
    refine ⟨height - y.toNat, hRow, ?_⟩
    rw [hByte _ hRow, Option.some.injEq] at hAt
    rw [hAt, Nat.add_sub_cancel' hLe]
  · rintro ⟨row, hRow, rfl⟩
    refine ⟨(sprite.getD row 0, y.toNat + row), ?_, rfl⟩
    rw [List.mk_mem_zipIdx_iff_le_and_getElem?_sub,
      Nat.add_sub_cancel_left]
    exact ⟨Nat.le_add_right _ _, hByte row hRow⟩

/- A pixel is covered by the masks of its line. -/
theorem covers_iff_mem_stencil
    {x y : UInt8}
    {sprite : List UInt8}
    {column line : Nat} :
    Covers x y sprite column line ↔
      ∃ entry ∈ stencil x y sprite,
        entry.1 % 32 = line % 32 ∧
          entry.2.getMsbD (column % 64) = true := by
  constructor
  · rintro ⟨row, bit, h⟩
    refine
      ⟨_, mem_stencil_iff.mpr ⟨row, h.row_lt, rfl⟩,
        h.line_eq, ?_⟩
    rw [getMsbD_mask]
    exact ⟨bit, h.bit_lt, h.isSet, h.column_eq⟩
  · rintro ⟨entry, hMem, hLine, hColumn⟩
    rcases mem_stencil_iff.mp hMem with ⟨row, hRow, rfl⟩
    rcases (getMsbD_mask _ _ _).mp hColumn with
      ⟨bit, hBit, hSet, hReach⟩
    exact ⟨row, bit, hRow, hBit, hLine, hReach, hSet⟩

------------------------------------------------------------
-- Pixels That Are Flipped
------------------------------------------------------------

/- Whether masks flip a pixel an odd number of times. -/
def flipsPixel
    (masks : List (Nat × BitVec 64))
    (column line : Nat) : Bool :=
  match masks with
  | [] => false
  | entry :: rest =>
      (decide (line % 32 = entry.1 % 32) &&
        entry.2.getMsbD (column % 64)) ^^
          flipsPixel rest column line

/- Flips in turn come to their parity, pixel by pixel. -/
theorem pixel_foldl_flip
    (f : Frame)
    (masks : List (Nat × BitVec 64))
    (column line : Nat) :
    (masks.foldl
      (fun f entry => f.flip entry.1 entry.2) f).pixel
        column line =
      (f.pixel column line ^^
        flipsPixel masks column line) := by
  induction masks generalizing f with
  | nil =>
      rw [flipsPixel, Bool.xor_false]
      rfl
  | cons entry rest ih =>
      rw [List.foldl_cons, ih, pixel_flip, flipsPixel]
      by_cases hLine : line % 32 = entry.1 % 32
      · rw [if_pos hLine, decide_eq_true hLine,
          Bool.true_and, Bool.xor_assoc]
      · rw [if_neg hLine, decide_eq_false hLine,
          Bool.false_and, Bool.false_xor]

/- Masks for different lines flip a pixel once at most. -/
theorem flipsPixel_eq_true_iff
    {masks : List (Nat × BitVec 64)}
    (h :
      masks.Pairwise
        (fun first second =>
          first.1 % 32 ≠ second.1 % 32))
    {column line : Nat} :
    flipsPixel masks column line = true ↔
      ∃ entry ∈ masks,
        entry.1 % 32 = line % 32 ∧
          entry.2.getMsbD (column % 64) = true := by
  induction masks with
  | nil =>
      simp [flipsPixel]
  | cons entry rest ih =>
      rcases List.pairwise_cons.mp h with ⟨hFirst, hRest⟩
      rw [flipsPixel]
      by_cases hLine : line % 32 = entry.1 % 32
      · have hNone :
            flipsPixel rest column line = false := by
          apply Bool.eq_false_iff.mpr
          intro hOn
          rcases (ih hRest).mp hOn with ⟨other, hMem, hOther, _⟩
          exact hFirst other hMem
            (hLine.symm.trans hOther.symm)
        rw [hNone, decide_eq_true hLine, Bool.true_and,
          Bool.xor_false]
        constructor
        · intro hOn
          exact ⟨entry, List.mem_cons_self, hLine.symm, hOn⟩
        · rintro ⟨other, hMem, hOther, hOn⟩
          rcases List.mem_cons.mp hMem with rfl | hLater
          · exact hOn
          · exact absurd (hLine.symm.trans hOther.symm)
              (hFirst other hLater)
      · rw [decide_eq_false hLine, Bool.false_and,
          Bool.false_xor, ih hRest]
        constructor
        · rintro ⟨other, hMem, hOther⟩
          exact ⟨other, List.mem_cons_of_mem _ hMem, hOther⟩
        · rintro ⟨other, hMem, hOther, hOn⟩
          rcases List.mem_cons.mp hMem with rfl | hLater
          · exact absurd hOther.symm hLine
          · exact ⟨other, hLater, hOther, hOn⟩

/- The rows of a sprite are for different lines. -/
theorem pairwise_masksFrom
    {x y : Nat}
    {bytes : List UInt8}
    (h : bytes.length ≤ 32) :
    (masksFrom x y bytes).Pairwise
      (fun first second => first.1 % 32 ≠ second.1 % 32) := by
  induction bytes generalizing y with
  | nil =>
      exact List.Pairwise.nil
  | cons byte rest ih =>
      rw [List.length_cons] at h
      apply List.Pairwise.cons
      · intro entry hEntry
        have hRange := mem_masksFrom hEntry
        dsimp only
        omega
      · exact ih (by omega)

/- Whether drawing a sprite flips a pixel. -/
def inks
    (x y : UInt8)
    (sprite : List UInt8)
    (column line : Nat) : Bool :=
  flipsPixel (stencil x y sprite) column line

/- Drawing a sprite flips what it inks. -/
theorem pixel_blit
    (f : Frame)
    (x y : UInt8)
    (sprite : List UInt8)
    (column line : Nat) :
    (f.blit x y sprite).pixel column line =
      (f.pixel column line ^^
        inks x y sprite column line) :=
  pixel_foldl_flip f _ column line

/- A sprite inks the pixels that its set bits land on. -/
theorem inks_eq_true_iff
    {x y : UInt8}
    {sprite : List UInt8}
    {column line : Nat} :
    inks x y sprite column line = true ↔
      Covers x y sprite column line := by
  have hLength : (sprite.take spriteLimit).length ≤ 32 :=
    (List.length_take_le _ _).trans (by decide)
  rw [covers_iff_mem_stencil]
  exact flipsPixel_eq_true_iff (pairwise_masksFrom hLength)

/- A sprite hits the pixels under it that are on. -/
theorem collides_eq_true_iff
    {f : Frame}
    {x y : UInt8}
    {sprite : List UInt8} :
    f.collides x y sprite = true ↔
      ∃ column line,
        Covers x y sprite column line ∧
          f.pixel column line = true := by
  unfold collides
  rw [List.any_eq_true]
  constructor
  · rintro ⟨entry, hMem, hMeets⟩
    rcases (bne_zero_iff_getMsbD _).mp hMeets with
      ⟨column, hOn⟩
    rw [BitVec.getMsbD_and, Bool.and_eq_true] at hOn
    have hColumn : column % 64 = column := by
      apply Nat.mod_eq_of_lt
      apply Classical.byContradiction
      intro hPast
      rw [BitVec.getMsbD_of_ge _ _ (by omega)] at hOn
      cases hOn.1
    refine ⟨column, entry.1, ?_, ?_⟩
    · apply covers_iff_mem_stencil.mpr
      refine ⟨entry, hMem, rfl, ?_⟩
      rw [hColumn]
      exact hOn.2
    · rw [pixel, hColumn]
      exact hOn.1
  · rintro ⟨column, line, hCovers, hOn⟩
    rcases covers_iff_mem_stencil.mp hCovers with
      ⟨entry, hMem, hLine, hColumn⟩
    have hRow : f.row entry.1 = f.row line := by
      rw [← row_mod, hLine, row_mod]
    refine ⟨entry, hMem, ?_⟩
    apply (bne_zero_iff_getMsbD _).mpr
    refine ⟨column % 64, ?_⟩
    rw [BitVec.getMsbD_and, hRow, hColumn, Bool.and_true]
    exact hOn

/-
  Whether a frame comes from drawing a sprite over another
  one: the pixels that the set bits of the sprite land on are
  flipped and no others, each by one bit alone, and the sprite
  hit something if one of them was on before.
-/
structure DrawnOver
    (f : Frame)
    (x y : UInt8)
    (sprite : List UInt8)
    (hit : Bool)
    (after : Frame) : Prop where
  flips :
    ∀ column line,
      after.pixel column line = !f.pixel column line ↔
        Covers x y sprite column line
  once :
    ∀ column line row bit otherRow otherBit,
      Lands x y sprite row bit column line →
        Lands x y sprite otherRow otherBit column line →
          row = otherRow ∧ bit = otherBit
  hits :
    hit = true ↔
      ∃ column line,
        Covers x y sprite column line ∧
          f.pixel column line = true

/- That is how a sprite is drawn. -/
theorem drawnOver_blit
    (f : Frame)
    (x y : UInt8)
    (sprite : List UInt8) :
    f.DrawnOver x y sprite (f.collides x y sprite)
      (f.blit x y sprite) where
  flips := by
    intro column line
    rw [← inks_eq_true_iff, pixel_blit]
    cases f.pixel column line with
    | true => simp
    | false => simp
  once := by
    intro column line row bit otherRow otherBit h hOther
    exact h.unique hOther
  hits := collides_eq_true_iff

end Frame

------------------------------------------------------------
-- Sprites In Memory
------------------------------------------------------------

namespace Machine

/-
  The rows of the sprite at the index: the bytes from there
  on, around the end of memory.
-/
def spriteRows
    (m : Machine)
    (rows : Nat) : List UInt8 :=
  (List.range rows).map
    (fun row =>
      m.memory.cells.get
        (Address.ofNat (m.processor.index.toNat + row)))

/- They are what is read there. -/
theorem readRange_index
    (m : Machine)
    (rows : Nat) :
    m.memory.readRange m.processor.index rows =
      m.spriteRows rows := by
  unfold Memory.readRange spriteRows
  apply List.map_congr_left
  intro row _
  exact m.memory.read_add m.processor.index row

/- They are drawn over the frame. -/
theorem frame_draw
    (m : Machine)
    (x y : Register)
    (rows : Nat) :
    (m.draw x y rows).frame =
      m.frame.blit (m.reg x) (m.reg y)
        (m.spriteRows rows) := by
  rw [← readRange_index]
  rfl

/- The flag tells whether they hit a pixel that was on. -/
theorem flag_draw
    (m : Machine)
    (x y : Register)
    (rows : Nat) :
    (m.draw x y rows).reg Register.flag =
      if m.frame.collides (m.reg x) (m.reg y)
          (m.spriteRows rows) then
        1
      else
        0 := by
  rw [← readRange_index]
  exact Processor.get_set_self _ _ _

/- No other register is changed. -/
theorem reg_draw_of_ne
    (m : Machine)
    (x y : Register)
    (rows : Nat)
    {z : Register}
    (h : z ≠ Register.flag) :
    (m.draw x y rows).reg z = m.reg z :=
  Processor.get_set_of_ne _ _ h.symm

/-
  Whether a machine comes from drawing the sprite at the index
  of another one, where two registers say: the frame is drawn
  over, the flag tells of a hit, and nothing else is changed.
-/
structure Draws
    (m : Machine)
    (x y : Register)
    (rows : Nat)
    (after : Machine) : Prop where
  frame :
    ∃ hit,
      m.frame.DrawnOver (m.reg x) (m.reg y)
          (m.spriteRows rows) hit after.frame ∧
        after.reg Register.flag = if hit then 1 else 0
  registers :
    ∀ z, z ≠ Register.flag → after.reg z = m.reg z
  others :
    after =
      { m with
        frame := after.frame
        processor :=
          { m.processor with v := after.processor.v } }

/- That is what the instruction does. -/
theorem draws_draw
    (m : Machine)
    (x y : Register)
    (rows : Nat) :
    m.Draws x y rows (m.draw x y rows) where
  frame := by
    rw [frame_draw]
    exact
      ⟨_, m.frame.drawnOver_blit _ _ _, m.flag_draw x y rows⟩
  registers := by
    intro z hNe
    exact m.reg_draw_of_ne x y rows hNe
  others := rfl

/-
  A sprite flips the pixels that its set bits land on, each
  once, and tells whether one of them was on. It does so also
  if it is drawn bit by bit, with every pixel looked at just
  before its flip. A word of class `D` draws the bytes at the
  index in this way, wherever its registers say, and changes
  the frame and the flag only.
-/
theorem sprites_flip_pixels :
    (∀ (f : Frame) (x y : UInt8) (sprite : List UInt8),
        f.blit? x y sprite =
            some
              (f.collides x y sprite, f.blit x y sprite) ∧
          f.DrawnOver x y sprite (f.collides x y sprite)
            (f.blit x y sprite)) ∧
      ∀ (m : Machine) (held : Bool) (x y : Register)
        (rows : Fin 16),
        Instruction.decode? (Word.ofPair 0xD x y rows.val) =
            some (.draw x y rows) ∧
          ∃ after,
            m.execute held (.draw x y rows) = .ok after ∧
              m.Draws x y rows.val after := by
  refine ⟨?_, ?_⟩
  · intro f x y sprite
    exact ⟨f.blit?_eq x y sprite, f.drawnOver_blit x y sprite⟩
  · intro m held x y rows
    refine ⟨Instruction.decode?_ofPair_draw x y rows, ?_⟩
    exact ⟨_, rfl, m.draws_draw x y rows.val⟩

end Machine

end ChipEight
