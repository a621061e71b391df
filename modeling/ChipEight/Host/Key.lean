/-
  The keys of the host's keyboard, and the keypad laid over
  its left four columns:

    1 2 3 C        1 2 3 4
    4 5 6 D   is   Q W E R
    7 8 9 E        A S D F
    A 0 B F        Z X C V

  Key definitions include:
    * `ChipEight.HostKey`
    * `ChipEight.HostKey.layout`
    * `ChipEight.HostKey.keypadKey?`
-/

namespace ChipEight

/- A key of the host's keyboard. -/
inductive HostKey where
  /- A letter key, named by its capital letter. -/
  | letter (name : Char)
  /- A digit key of the main block. -/
  | digit (value : Nat)
  | space
  | escape
  /- Any other key. -/
  | other (name : String)
deriving DecidableEq

namespace HostKey

/- The host's keys for the keypad keys `0` to `F`. -/
def layout : List HostKey :=
  [.letter 'X', .digit 1, .digit 2, .digit 3,
    .letter 'Q', .letter 'W', .letter 'E', .letter 'A',
    .letter 'S', .letter 'D', .letter 'Z', .letter 'C',
    .digit 4, .letter 'R', .letter 'F', .letter 'V']

/- The keypad key that lies under a host key, if any. -/
def keypadKey? (key : HostKey) : Option UInt8 :=
  (layout.idxOf? key).map UInt8.ofNat

end HostKey

end ChipEight
