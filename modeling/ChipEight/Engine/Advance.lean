import ChipEight.Engine.Step

/-
  Letting time pass for an engine.

  The clocks collect the time and then everything that is due
  is done in the order it fell due, until nothing is due any
  more or the engine has halted. Time that is left over stays
  with the clocks.

  Key definitions include:
    * `ChipEight.Session.longestLapse`
    * `ChipEight.Session.catchUp`
    * `ChipEight.Session.advance`
-/

namespace ChipEight

namespace Session

variable {κ : Type} [Controls κ]

/- The most time that is caught up on at once: 250 ms. -/
def longestLapse : Nat :=
  250000000

/- Do what is due on the clocks and leave them behind. -/
def catchUp
    (s : Session κ)
    (clocks : Clocks) : Session κ × Option Fault :=
  if s.engine.isHalted then
    (s.setClocks clocks, none)
  else
    match _hDue : clocks.next? with
    | none => (s.setClocks clocks, none)
    | some (.tick, later) => s.tick.catchUp later
    | some (.cycle, later) =>
        match s.step with
        | (s, none) => s.catchUp later
        | (s, some fault) => (s.setClocks later, some fault)
termination_by clocks.backlog
decreasing_by
  all_goals exact Clocks.backlog_next?_lt _hDue

/- Let nanoseconds pass; a halted engine does nothing. -/
def advance
    (s : Session κ)
    (elapsed : Nat) : Session κ × Option Fault :=
  if s.engine.isHalted then
    (s, none)
  else
    s.catchUp
      (s.engine.clocks.collect (min elapsed longestLapse))

end Session

end ChipEight
