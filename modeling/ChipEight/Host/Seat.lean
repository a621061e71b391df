import ChipEight.Console.Keypad
import ChipEight.Host.Key

/-
  The player's seat: the keypad and the key that makes time
  run faster, both worked from the host's keyboard.

  Key definitions include:
    * `ChipEight.HostEvent`
    * `ChipEight.Seat`
    * `ChipEight.Seat.handle`
    * `ChipEight.Seat.pace`
-/

namespace ChipEight

------------------------------------------------------------
-- Events
------------------------------------------------------------

/- What the host tells about its window and keyboard. -/
inductive HostEvent where
  /- The window is to be closed. -/
  | quit
  /- A key went down, which the host may be unable to name. -/
  | keyDown (key : Option HostKey)
  /- A key went up, which the host may be unable to name. -/
  | keyUp (key : Option HostKey)
  /- Anything else. -/
  | other
deriving DecidableEq

------------------------------------------------------------
-- Seats
------------------------------------------------------------

/- The keypad, and whether time is to run faster. -/
structure Seat where
  keypad : Keypad
  fastForward : Bool
deriving DecidableEq

namespace Seat

/- Nothing is pressed. -/
def initial : Seat where
  keypad := Keypad.initial
  fastForward := false

/- How much faster time runs. -/
def pace (s : Seat) : Nat :=
  if s.fastForward then
    4
  else
    1

/- A host key goes down. -/
def keyDown
    (s : Seat)
    (key : HostKey) : Seat :=
  match key.keypadKey? with
  | some k => { s with keypad := s.keypad.press k }
  | none =>
      match key with
      | .space => { s with fastForward := true }
      | .escape => { s with keypad := s.keypad.quit }
      | _ => s

/- A host key goes up. -/
def keyUp
    (s : Seat)
    (key : HostKey) : Seat :=
  match key.keypadKey? with
  | some k => { s with keypad := s.keypad.release k }
  | none =>
      match key with
      | .space => { s with fastForward := false }
      | _ => s

/- Take note of an event. -/
def handle
    (s : Seat) : HostEvent → Seat
  | .quit => { s with keypad := s.keypad.quit }
  | .keyDown (some key) => s.keyDown key
  | .keyUp (some key) => s.keyUp key
  | _ => s

end Seat

instance : Controls Seat where
  isHeld s key := (s.keypad.isHeld key, s)
  takePress s :=
    let (press, keypad) := s.keypad.takePress
    (press, { s with keypad := keypad })
  wantsQuit s := (s.keypad.quitting, s)

end ChipEight
