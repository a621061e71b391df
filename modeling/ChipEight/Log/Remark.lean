import ChipEight.Log.Record
import ChipEight.Machine.Execute

/-
  What the log tells about an instruction that asks for
  something the machine does not do.

  Key definitions include:
    * `ChipEight.refusals`
    * `ChipEight.Machine.remarks`
-/

namespace ChipEight

/- The records of the writes that hit the font sheet. -/
def refusals
    (writes : List (UInt16 × UInt8)) : List Record :=
  (writes.filter (fun w => Memory.isProtected w.1)).map
    (fun w => .writeIgnored w.2 (Memory.cellOf w.1))

/- The records of an instruction, in order. -/
def Machine.remarks
    (m : Machine)
    (instruction : Instruction) : List Record :=
  match instruction with
  | .hostRoutine target => [.hostRoutineIgnored target]
  | other => refusals (m.memoryWrites other)

end ChipEight
