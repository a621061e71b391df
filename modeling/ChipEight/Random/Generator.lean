import ChipEight.Random.Seed

/-
  The random bytes of a machine.

  The stream of a key is a fixed sequence: the low bytes of
  the words of the key's blocks, block after block. A
  generator is a place in such a stream.

  Key definitions include:
    * `ChipEight.Random.streamWord`
    * `ChipEight.Random.streamByte`
    * `ChipEight.Generator`
    * `ChipEight.Generator.ofSeed`
    * `ChipEight.Generator.peek`
    * `ChipEight.Generator.skip`
-/

namespace ChipEight

------------------------------------------------------------
-- Streams
------------------------------------------------------------

namespace Random

/- The word at a place of the stream of a key. -/
def streamWord
    (key : Key)
    (n : Nat) : UInt32 :=
  (blockAt key (UInt64.ofNat (n / 16))).get (place n)

/- The byte at a place of the stream of a key. -/
def streamByte
    (key : Key)
    (n : Nat) : UInt8 :=
  (streamWord key n).toUInt8

end Random

------------------------------------------------------------
-- Generators
------------------------------------------------------------

/- A key, and how many bytes of its stream are used up. -/
structure Generator where
  key : Random.Key
  drawn : Nat
deriving DecidableEq

namespace Generator

/- The stream of a seed from its start. -/
def ofSeed (seed : UInt64) : Generator where
  key := Random.keyOf seed
  drawn := 0

/- The next byte, without taking it. -/
def peek (g : Generator) : UInt8 :=
  Random.streamByte g.key g.drawn

/- The generator behind its next byte. -/
def skip (g : Generator) : Generator :=
  { g with drawn := g.drawn + 1 }

end Generator

end ChipEight
