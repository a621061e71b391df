import ChipEight.Console.Controls

/-
  The hexadecimal keypad: sixteen keys that are held or not,
  the latest press that was not taken yet, and a wish to quit
  that stays once it was made.

  Presses and releases of keys that the keypad does not have
  are ignored.

  Key definitions include:
    * `ChipEight.Keypad`
    * `ChipEight.Keypad.initial`
    * `ChipEight.Keypad.press`
    * `ChipEight.Keypad.release`
    * `ChipEight.Keypad.quit`
    * `ChipEight.Keypad.isHeld`
    * `ChipEight.Keypad.takePress`
-/

namespace ChipEight

------------------------------------------------------------
-- State
------------------------------------------------------------

/- The keys, the latest press and the wish to quit. -/
structure Keypad where
  held : Vector Bool 16
  lastPress : Option UInt8
  quitting : Bool
deriving DecidableEq

namespace Keypad

/- The number of keys. -/
def keyCount : Nat :=
  16

/- No key is held and nothing was pressed. -/
def initial : Keypad where
  held := Vector.replicate 16 false
  lastPress := none
  quitting := false

------------------------------------------------------------
-- The Player's Side
------------------------------------------------------------

/- Press a key. -/
def press
    (k : Keypad)
    (key : UInt8) : Keypad :=
  if h : key.toNat < 16 then
    { k with
      held := k.held.set key.toNat true h
      lastPress := some key }
  else
    k

/- Let a key go; its press may still be taken. -/
def release
    (k : Keypad)
    (key : UInt8) : Keypad :=
  if h : key.toNat < 16 then
    { k with held := k.held.set key.toNat false h }
  else
    k

/- Ask to quit. -/
def quit (k : Keypad) : Keypad :=
  { k with quitting := true }

------------------------------------------------------------
-- The Machine's Side
------------------------------------------------------------

/- Whether a key is held. -/
def isHeld
    (k : Keypad)
    (key : UInt8) : Bool :=
  k.held.getD key.toNat false

/- Take the latest press. -/
def takePress (k : Keypad) : Option UInt8 × Keypad :=
  (k.lastPress, { k with lastPress := none })

end Keypad

instance : Controls Keypad where
  isHeld k key := (k.isHeld key, k)
  takePress k := k.takePress
  wantsQuit k := (k.quitting, k)

end ChipEight
