import ChipEight.Frame.Basic

/-
  What passes between a running machine and the console
  around it.

  Key definitions include:
    * `ChipEight.Exchange`
-/

namespace ChipEight

/- A question with its answer, or something told. -/
inductive Exchange where
  /- Whether the player wants to quit. -/
  | quitAsked (answer : Bool)
  /- Whether a key is held. -/
  | keyAsked (key : UInt8) (answer : Bool)
  /- The latest press that was not taken yet. -/
  | pressTaken (answer : Option UInt8)
  /- A picture to be shown. -/
  | frameShown (frame : Frame)
  /- The tone begins. -/
  | toneStarted
  /- The tone ends. -/
  | toneStopped
deriving DecidableEq

end ChipEight
