/-
  The keyed block function behind the random bytes: ChaCha
  with twelve rounds, a 64-bit block counter and no nonce.

  A block is sixteen words in a square of four by four. Its
  rows start as four constant words, the eight key words, the
  counter and zeros. A double round stirs the four columns
  and then the four diagonals; after six double rounds the
  start is added again, word by word.

  Key definitions include:
    * `ChipEight.Random.Key`
    * `ChipEight.Random.Block`
    * `ChipEight.Random.place`
    * `ChipEight.Random.quarterRound`
    * `ChipEight.Random.doubleRound`
    * `ChipEight.Random.blockAt`
-/

namespace ChipEight

namespace Random

------------------------------------------------------------
-- Words
------------------------------------------------------------

/- The key of the block function. -/
abbrev Key :=
  Vector UInt32 8

/- The words of a block, row after row. -/
abbrev Block :=
  Vector UInt32 16

/- Numbers that wrap around fall within a block. -/
theorem place_lt (n : Nat) : n % 16 < 16 := by
  omega

/- The place of a word in a block, which wraps around. -/
def place (n : Nat) : Fin 16 :=
  ⟨n % 16, place_lt n⟩

/- The bits of a word turned to the left, by 1 to 31. -/
def turnLeft
    (w : UInt32)
    (bits : UInt32) : UInt32 :=
  (w <<< bits) ||| (w >>> (32 - bits))

------------------------------------------------------------
-- Rounds
------------------------------------------------------------

/- Stir four words of a block, named by their places. -/
def quarterRound
    (s : Block)
    (i j k l : Nat) : Block :=
  let a := s.get (place i)
  let b := s.get (place j)
  let c := s.get (place k)
  let d := s.get (place l)
  let a := a + b
  let d := turnLeft (d ^^^ a) 16
  let c := c + d
  let b := turnLeft (b ^^^ c) 12
  let a := a + b
  let d := turnLeft (d ^^^ a) 8
  let c := c + d
  let b := turnLeft (b ^^^ c) 7
  let s := s.set (place i) a
  let s := s.set (place j) b
  let s := s.set (place k) c
  s.set (place l) d

/- Stir the columns and then the diagonals. -/
def doubleRound (s : Block) : Block :=
  let s := quarterRound s 0 4 8 12
  let s := quarterRound s 1 5 9 13
  let s := quarterRound s 2 6 10 14
  let s := quarterRound s 3 7 11 15
  let s := quarterRound s 0 5 10 15
  let s := quarterRound s 1 6 11 12
  let s := quarterRound s 2 7 8 13
  quarterRound s 3 4 9 14

/- Double rounds of the block function. -/
def doubleRounds : Nat :=
  6

------------------------------------------------------------
-- Blocks
------------------------------------------------------------

/- The words a block starts from. -/
def start
    (key : Key)
    (counter : UInt64) : Block :=
  #v[
    0x61707865, 0x3320646E, 0x79622D32, 0x6B206574,
    key[0], key[1], key[2], key[3],
    key[4], key[5], key[6], key[7],
    counter.toUInt32, (counter >>> 32).toUInt32, 0, 0]

/- The block of a counter. -/
def blockAt
    (key : Key)
    (counter : UInt64) : Block :=
  let first := start key counter
  let last := Nat.repeat doubleRound doubleRounds first
  first.zipWith (fun a b => a + b) last

end Random

end ChipEight
