/-
  The controls of a console, as the running machine sees
  them: it asks questions, and an answer may change what is
  answered later.

  Key definitions include:
    * `ChipEight.Controls`
-/

namespace ChipEight

/- What answers the questions of a running machine. -/
class Controls (κ : Type) where
  /- Whether a key is held now. -/
  isHeld : κ → UInt8 → Bool × κ
  /- The latest key press that was not taken yet, if any. -/
  takePress : κ → Option UInt8 × κ
  /- Whether the player wants to quit. -/
  wantsQuit : κ → Bool × κ

end ChipEight
