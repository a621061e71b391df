import ChipEight.Console.Controls

/-
  Controls that answer from a script laid down beforehand.

  Key definitions include:
    * `ChipEight.Script`
-/

namespace ChipEight

/-
  The keys that are held all along, the presses in the order
  they are taken, and after how many questions the player
  wants to quit, if ever.
-/
structure Script where
  held : List UInt8
  presses : List (Option UInt8)
  quitAfter : Option Nat

namespace Script

/- Take the next press of the script. -/
def takePress (s : Script) : Option UInt8 × Script :=
  match s.presses with
  | [] => (none, s)
  | press :: rest => (press, { s with presses := rest })

/- Answer whether the player wants to quit. -/
def wantsQuit (s : Script) : Bool × Script :=
  match s.quitAfter with
  | none => (false, s)
  | some 0 => (true, s)
  | some (n + 1) => (false, { s with quitAfter := some n })

end Script

instance : Controls Script where
  isHeld s key := (s.held.contains key, s)
  takePress := Script.takePress
  wantsQuit := Script.wantsQuit

end ChipEight
