import ChipEight.Frame.Basic
import ChipEight.Memory
import ChipEight.Processor
import ChipEight.Random.Generator
import ChipEight.Timers

/-
  The whole state that programs work on.

  Key definitions include:
    * `ChipEight.Machine`
    * `ChipEight.Machine.initial`
    * `ChipEight.Machine.reseed`
    * `ChipEight.Machine.takeRandom`
    * `ChipEight.Machine.fetch`
-/

namespace ChipEight

/- The parts of a machine. -/
structure Machine where
  processor : Processor
  memory : Memory
  timers : Timers
  frame : Frame
  generator : Generator
deriving DecidableEq

namespace Machine

/- A machine that has just been switched on. -/
def initial (seed : UInt64) : Machine where
  processor := Processor.initial
  memory := Memory.initial
  timers := { delay := 0, sound := 0 }
  frame := Frame.blank
  generator := Generator.ofSeed seed

/- Start the random bytes of a seed from their beginning. -/
def reseed
    (m : Machine)
    (seed : UInt64) : Machine :=
  { m with generator := Generator.ofSeed seed }

/- Take the next random byte. -/
def takeRandom (m : Machine) : UInt8 × Machine :=
  (m.generator.peek,
    { m with generator := m.generator.skip })

/- The word that the program counter points at. -/
def fetch (m : Machine) : UInt16 :=
  m.memory.readWord m.processor.pc

end Machine

end ChipEight
