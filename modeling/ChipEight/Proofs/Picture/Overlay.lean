import ChipEight.Proofs.Picture.Sprite

/-
  Drawing over what was drawn.

  A sprite flips the pixels under it, whatever else there is.
  So drawing it again takes it away, and it does not matter
  in which order sprites are drawn.

  Key definitions include:
    * `ChipEight.Drawing`
    * `ChipEight.Frame.drawAll`
    * `ChipEight.Machine.goneTo`

  Main declarations:
    * `ChipEight.Frame.blit_blit`
    * `ChipEight.Frame.blit_right_comm`
    * `ChipEight.Frame.collides_blit_iff`
    * `ChipEight.Frame.drawAll_perm`
    * `ChipEight.Machine.drawings_cancel_and_commute`
-/

namespace ChipEight

------------------------------------------------------------
-- Sprites Over Sprites
------------------------------------------------------------

/- A sprite, and where it is drawn. -/
structure Drawing where
  x : UInt8
  y : UInt8
  sprite : List UInt8

namespace Frame

/- Draw sprites in turn. -/
def drawAll
    (f : Frame)
    (drawings : List Drawing) : Frame :=
  drawings.foldl (fun f d => f.blit d.x d.y d.sprite) f

/- Frames with the same pixels are the same. -/
theorem eq_of_pixel_eq
    {f g : Frame}
    (h :
      ∀ column line,
        f.pixel column line = g.pixel column line) :
    f = g := by
  apply eq_of_row_eq
  intro line
  apply BitVec.eq_of_getMsbD_eq
  intro column hColumn
  have hPixel := h column line
  rw [pixel, pixel, Nat.mod_eq_of_lt hColumn] at hPixel
  exact hPixel

/- A sprite that is drawn again is taken away. -/
theorem blit_blit
    (f : Frame)
    (x y : UInt8)
    (sprite : List UInt8) :
    (f.blit x y sprite).blit x y sprite = f := by
  apply eq_of_pixel_eq
  intro column line
  rw [pixel_blit, pixel_blit, Bool.xor_assoc, Bool.xor_self,
    Bool.xor_false]

/- Two sprites can be drawn in either order. -/
theorem blit_right_comm
    (f : Frame)
    (first second : Drawing) :
    (f.blit first.x first.y first.sprite).blit
        second.x second.y second.sprite =
      (f.blit second.x second.y second.sprite).blit
        first.x first.y first.sprite := by
  apply eq_of_pixel_eq
  intro column line
  rw [pixel_blit, pixel_blit, pixel_blit, pixel_blit,
    Bool.xor_right_comm]

/- So can any number of sprites. -/
theorem drawAll_perm
    (f : Frame)
    {first second : List Drawing}
    (h : first.Perm second) :
    f.drawAll first = f.drawAll second := by
  apply h.foldl_eq'
  intro d _ other _ g
  exact g.blit_right_comm d other

/-
  Where a sprite was drawn, drawing it again hits the pixels
  that were off before.
-/
theorem collides_blit_iff
    {f : Frame}
    {x y : UInt8}
    {sprite : List UInt8} :
    (f.blit x y sprite).collides x y sprite = true ↔
      ∃ column line,
        Covers x y sprite column line ∧
          f.pixel column line = false := by
  have hTurned :
      ∀ column line,
        Covers x y sprite column line →
          (f.blit x y sprite).pixel column line =
            !f.pixel column line := by
    intro column line hCovers
    rw [pixel_blit, inks_eq_true_iff.mpr hCovers,
      Bool.xor_true]
  rw [collides_eq_true_iff]
  constructor
  · rintro ⟨column, line, hCovers, hOn⟩
    rw [hTurned _ _ hCovers, Bool.not_eq_true'] at hOn
    exact ⟨column, line, hCovers, hOn⟩
  · rintro ⟨column, line, hCovers, hOff⟩
    refine ⟨column, line, hCovers, ?_⟩
    rw [hTurned _ _ hCovers, hOff]
    rfl

end Frame

------------------------------------------------------------
-- Drawing Twice In A Row
------------------------------------------------------------

namespace Machine

/- The machine with its counter somewhere else. -/
def goneTo
    (m : Machine)
    (pc : UInt16) : Machine :=
  { m with processor := { m.processor with pc := pc } }

/-
  A sprite that does not have its place in the flag register
  is drawn where it was before: what says where it is, and
  its bytes, outlast the drawing.
-/
theorem draw_goneTo_draw
    (m : Machine)
    {x y : Register}
    (hX : x ≠ Register.flag)
    (hY : y ≠ Register.flag)
    (rows : Nat)
    (pc : UInt16) :
    let again := ((m.draw x y rows).goneTo pc).draw x y rows
    again.frame = m.frame ∧
      again.reg Register.flag =
        if (m.frame.blit (m.reg x) (m.reg y)
              (m.spriteRows rows)).collides
            (m.reg x) (m.reg y) (m.spriteRows rows) then
          1
        else
          0 := by
  have hPlaceX :
      ((m.draw x y rows).goneTo pc).reg x = m.reg x :=
    m.reg_draw_of_ne x y rows hX
  have hPlaceY :
      ((m.draw x y rows).goneTo pc).reg y = m.reg y :=
    m.reg_draw_of_ne x y rows hY
  have hSprite :
      ((m.draw x y rows).goneTo pc).spriteRows rows =
        m.spriteRows rows :=
    rfl
  have hFrame :
      ((m.draw x y rows).goneTo pc).frame =
        m.frame.blit (m.reg x) (m.reg y)
          (m.spriteRows rows) :=
    m.frame_draw x y rows
  constructor
  · rw [frame_draw, hPlaceX, hPlaceY, hSprite, hFrame,
      Frame.blit_blit]
  · rw [flag_draw, hPlaceX, hPlaceY, hSprite, hFrame]

/-
  Sprites cancel and commute. A sprite that is drawn again at
  its place leaves the frame of before, and it then hits
  something if one of its set bits landed on a pixel that was
  off. Sprites that are drawn in another order leave the same
  frame. The same word of class `D` carried out twice, each
  time from wherever the counter points, leaves the frame of
  before and flags whether a pixel under its sprite was off,
  if its place is not read from the flag register.
-/
theorem drawings_cancel_and_commute :
    (∀ (f : Frame) (x y : UInt8) (sprite : List UInt8),
        let once := f.blit x y sprite
        once.blit x y sprite = f ∧
          (once.collides x y sprite = true ↔
            ∃ column line,
              Frame.Covers x y sprite column line ∧
                f.pixel column line = false)) ∧
      (∀ (f : Frame) (first second : List Drawing),
        first.Perm second →
          f.drawAll first = f.drawAll second) ∧
      ∀ (m : Machine) (x y : Register),
        x ≠ Register.flag →
          y ≠ Register.flag →
            ∀ (rows : Fin 16) (held again : Bool)
              (pc : UInt16),
              ∃ once twice hit,
                m.execute held (.draw x y rows) =
                    .ok once ∧
                  (once.goneTo pc).execute again
                      (.draw x y rows) =
                    .ok twice ∧
                  twice.frame = m.frame ∧
                  twice.reg Register.flag =
                    (if hit then 1 else 0) ∧
                  (hit = true ↔
                    ∃ column line,
                      Frame.Covers (m.reg x) (m.reg y)
                          (m.spriteRows rows.val)
                          column line ∧
                        m.frame.pixel column line =
                          false) := by
  refine ⟨?_, ?_, ?_⟩
  · intro f x y sprite
    exact ⟨f.blit_blit x y sprite, Frame.collides_blit_iff⟩
  · intro f first second hOrder
    exact f.drawAll_perm hOrder
  · intro m x y hX hY rows held again pc
    rcases m.draw_goneTo_draw hX hY rows.val pc with
      ⟨hFrame, hFlag⟩
    exact
      ⟨_, _, _, rfl, rfl, hFrame, hFlag,
        Frame.collides_blit_iff⟩

/-
  A glyph in the lower right corner is taken away by the word
  that drew it, which tells of a hit, and a bar through the
  corner can be drawn before a dot there or after it.
-/
theorem corner_glyph_cancels_and_corner_bar_commutes :
    let bar : Drawing := ⟨60, 31, [0xFF, 0x81]⟩
    let dot : Drawing := ⟨64, 32, [0x80]⟩
    let m := ((Machine.initial 7).setReg 0 62).setReg 1 30
    ([bar, dot].Perm [dot, bar] ∧
        (0 : Register) ≠ Register.flag ∧
        (1 : Register) ≠ Register.flag) ∧
      Frame.blank.drawAll [bar, dot] =
        Frame.blank.drawAll [dot, bar] ∧
      ∃ once twice,
        m.execute false (.draw 0 1 5) = .ok once ∧
          (once.goneTo 0x202).execute false (.draw 0 1 5) =
            .ok twice ∧
          twice.frame = Frame.blank ∧
          twice.reg Register.flag = 1 := by
  intro bar dot m
  have hOrder : [bar, dot].Perm [dot, bar] :=
    List.Perm.swap dot bar []
  have hX : (0 : Register) ≠ Register.flag := by
    decide
  have hY : (1 : Register) ≠ Register.flag := by
    decide
  rcases drawings_cancel_and_commute with
    ⟨_, hCommute, hTwice⟩
  rcases hTwice m 0 1 hX hY 5 false false 0x202 with
    ⟨once, twice, hit, hOnce, hAgain, hFrame, hFlag, hHit⟩
  have hLands :
      Frame.Lands (m.reg 0) (m.reg 1) (m.spriteRows 5)
        0 0 62 30 := by
    refine ⟨?_, ?_, ?_, ?_, ?_⟩
    · decide +kernel
    · decide +kernel
    · decide +kernel
    · decide +kernel
    · decide +kernel
  have hOff : m.frame.pixel 62 30 = false := by
    decide +kernel
  have hTrue : hit = true :=
    hHit.mpr ⟨62, 30, ⟨0, 0, hLands⟩, hOff⟩
  rw [hTrue] at hFlag
  exact
    ⟨⟨hOrder, hX, hY⟩, hCommute _ _ _ hOrder,
      once, twice, hOnce, hAgain, hFrame, hFlag⟩

end Machine

end ChipEight
