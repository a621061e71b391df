import ChipEight.Engine.Advance

/-
  The engines that can come up.

  An engine is switched on with any rates and any source of
  random bytes. Then it is given commands, in any order, and
  at every command it may find any controls at all: nothing
  is assumed about what they answer, nor that they are the
  ones of the command before.

  Key definitions include:
    * `ChipEight.Engine.switchedOn`
    * `ChipEight.Command`
    * `ChipEight.Session.obey`
    * `ChipEight.Engine.Reachable`
-/

namespace ChipEight

------------------------------------------------------------
-- Switching On
------------------------------------------------------------

/- An engine as it starts with a source of random bytes. -/
def Engine.switchedOn
    (rates : Rates)
    (generator : Generator) : Engine :=
  { Engine.initial rates 0 with
    machine :=
      { Machine.initial 0 with generator := generator } }

/- An engine can be switched on with a seed. -/
theorem Engine.switchedOn_ofSeed
    (rates : Rates)
    (seed : UInt64) :
    Engine.switchedOn rates (Generator.ofSeed seed) =
      Engine.initial rates seed :=
  rfl

------------------------------------------------------------
-- Commands
------------------------------------------------------------

/- What an engine can be told to do. -/
inductive Command where
  /- Load a program. -/
  | load (program : List UInt8)
  /- Make one step. -/
  | step
  /- Count the timers down. -/
  | tick
  /- Let nanoseconds pass. -/
  | advance (elapsed : Nat)
  /- Stop for good. -/
  | halt
  /- Start the random bytes of a seed. -/
  | reseed (seed : UInt64)
deriving DecidableEq

namespace Session

variable {κ : Type} [Controls κ]

/- Do what a command says. -/
def obey
    (s : Session κ) : Command → Session κ × Option Fault
  | .load program => s.load program
  | .step => s.step
  | .tick => (s.tick, none)
  | .advance elapsed => s.advance elapsed
  | .halt => (s.halt, none)
  | .reseed seed => (s.reseed seed, none)

end Session

------------------------------------------------------------
-- Reachable Engines
------------------------------------------------------------

/- Whether commands lead to an engine. -/
inductive Engine.Reachable : Engine → Prop where
  /- No command was given yet. -/
  | switchedOn
      (rates : Rates)
      (generator : Generator) :
      Reachable (Engine.switchedOn rates generator)
  /- A command was obeyed, with controls of any kind. -/
  | obey
      {κ : Type}
      [Controls κ]
      (s : Session κ)
      (command : Command) :
      Reachable s.engine →
        Reachable (s.obey command).1.engine

end ChipEight
