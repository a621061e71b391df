/-
  The two timers, which count down to zero and stay there.

  Key definitions include:
    * `ChipEight.Timers`
    * `ChipEight.Timers.tick`
    * `ChipEight.Timers.audible`
-/

namespace ChipEight

/- The delay timer and the sound timer. -/
structure Timers where
  delay : UInt8 := 0
  sound : UInt8 := 0
deriving DecidableEq

namespace Timers

/- One less, but zero stays zero. -/
def countDown (value : UInt8) : UInt8 :=
  if value = 0 then
    0
  else
    value - 1

/- Counting down is subtraction that stops at zero. -/
theorem toNat_countDown (value : UInt8) :
    (countDown value).toNat = value.toNat - 1 := by
  unfold countDown
  split
  · rename_i h
    subst h
    rfl
  · rename_i h
    have hPos : 1 ≤ value := by
      apply UInt8.le_iff_toNat_le.mpr
      have hNe : value.toNat ≠ 0 := by
        intro hZero
        apply h
        apply UInt8.toNat_inj.mp
        simpa using hZero
      exact Nat.one_le_iff_ne_zero.mpr hNe
    rw [UInt8.toNat_sub_of_le _ _ hPos]
    rfl

/- Count both timers down. -/
def tick (t : Timers) : Timers where
  delay := countDown t.delay
  sound := countDown t.sound

/- A tone is due while the sound timer has not run out. -/
def audible (t : Timers) : Bool :=
  t.sound != 0

end Timers

end ChipEight
