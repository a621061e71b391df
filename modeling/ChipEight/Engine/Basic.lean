import ChipEight.Engine.Clock
import ChipEight.Listing
import ChipEight.Machine.Basic
import ChipEight.Snapshot

/-
  The engine: a machine with what drives it.

  Key definitions include:
    * `ChipEight.Mode`
    * `ChipEight.Rates`
    * `ChipEight.Rates.standard`
    * `ChipEight.Engine`
    * `ChipEight.Engine.initial`
    * `ChipEight.Engine.listing`
-/

namespace ChipEight

------------------------------------------------------------
-- Parts
------------------------------------------------------------

/- Whether instructions run. -/
inductive Mode where
  /- Instructions run. -/
  | running
  /- A key press is awaited, to be stored in a register. -/
  | awaitingKey (x : Register)
  /- Nothing runs any more. -/
  | halted
deriving DecidableEq

/- How many instructions and timer counts make a second. -/
structure Rates where
  cycles : Nat
  ticks : Nat
deriving DecidableEq

/- The rates of an engine that is given none. -/
def Rates.standard : Rates where
  cycles := 700
  ticks := 60

/-
  A machine, the clocks that drive it, whether it runs, how
  long the loaded program is, whether the tone sounds, and
  what was found when a fault stopped it.
-/
structure Engine where
  machine : Machine
  clocks : Clocks
  mode : Mode
  programSize : Nat
  toneOn : Bool
  crashReport : Option Snapshot
deriving DecidableEq

namespace Engine

------------------------------------------------------------
-- Construction And Views
------------------------------------------------------------

/- An engine that has just been switched on. -/
def initial
    (rates : Rates)
    (seed : UInt64) : Engine where
  machine := Machine.initial seed
  clocks :=
    { cycles := Clock.ofRate rates.cycles
      ticks := Clock.ofRate rates.ticks }
  mode := .running
  programSize := 0
  toneOn := false
  crashReport := none

/- The rates that the engine was built with. -/
def rates (e : Engine) : Rates where
  cycles := e.clocks.cycles.rate
  ticks := e.clocks.ticks.rate

/- Whether nothing runs any more. -/
def isHalted (e : Engine) : Bool :=
  e.mode == .halted

/- The listing of the loaded program. -/
def listing (e : Engine) : List Line :=
  e.machine.memory.disassemble e.programSize

end Engine

end ChipEight
