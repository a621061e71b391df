import ChipEight.Random.Block

/-
  Spreading a 64-bit seed over the key of the block function.

  A linear congruential sequence starts at the seed; every
  term gives one key word, by a permutation of its bits that
  ends in a turn whose width the term decides.

  Key definitions include:
    * `ChipEight.Random.seedStep`
    * `ChipEight.Random.seedWord`
    * `ChipEight.Random.keyOf`
-/

namespace ChipEight

namespace Random

/- The next term of the sequence. -/
def seedStep (s : UInt64) : UInt64 :=
  s * 6364136223846793005 + 11634580027462260723

/- The key word of a term. -/
def seedWord (s : UInt64) : UInt32 :=
  let folded := (((s >>> 18) ^^^ s) >>> 27).toUInt32
  let bits := (s >>> 59).toUInt32
  (folded >>> bits) ||| (folded <<< ((32 - bits) % 32))

/- The key of a seed, from the first eight terms. -/
def keyOf (seed : UInt64) : Key :=
  Vector.ofFn
    (fun i =>
      seedWord (Nat.repeat seedStep (i.val + 1) seed))

end Random

end ChipEight
