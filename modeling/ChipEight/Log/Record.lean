import ChipEight.Fault
import ChipEight.Listing
import ChipEight.Log.Level
import ChipEight.Snapshot

/-
  The records of the log: what happened, how much it matters,
  where it belongs and how it is worded.

  Key definitions include:
    * `ChipEight.Record`
    * `ChipEight.Record.level`
    * `ChipEight.Record.target`
    * `ChipEight.Record.message`
-/

namespace ChipEight

/- Something that the log can tell. -/
inductive Record where
  /- A program was loaded. -/
  | programLoaded (size : Nat)
  /- The machine stopped for good at an address. -/
  | halted (pc : UInt16)
  /- The player asked to quit. -/
  | quitRequested
  /- The console is closed. -/
  | closing
  /- A key press ended a wait. -/
  | keyStored (key : UInt8) (x : Register)
  /- The machine began to wait for a key press. -/
  | keyAwaited (x : Register)
  /- A routine of the host processor was ignored. -/
  | hostRoutineIgnored (target : Address)
  /- A word is about to be carried out. -/
  | executing (line : Line)
  /- A write into the font sheet was ignored. -/
  | writeIgnored (value : UInt8) (address : Address)
  /- A fault, and the machine it was met by. -/
  | faulted (fault : Fault) (report : Snapshot)
  /- A picture could not be shown. -/
  | frameLost (reason : String)
deriving DecidableEq

namespace Record

/- How much a record matters. -/
def level : Record → Level
  | .programLoaded _ => .info
  | .halted _ => .info
  | .quitRequested => .info
  | .closing => .info
  | .keyStored _ _ => .debug
  | .keyAwaited _ => .debug
  | .hostRoutineIgnored _ => .debug
  | .executing _ => .trace
  | .writeIgnored _ _ => .warn
  | .faulted _ _ => .error
  | .frameLost _ => .error

/- The part of the program that a record comes from. -/
def target : Record → String
  | .closing => "chipvm::run"
  | .hostRoutineIgnored _ => "chipvm::operations"
  | .writeIgnored _ _ => "chipvm::memory"
  | .frameLost _ => "chipvm_display"
  | _ => "chipvm::chip8"

/- The wording of a record. -/
def message : Record → String
  | .programLoaded size =>
      "loaded " ++ toString size ++ " byte rom"
  | .halted pc =>
      "halted at " ++ hexMarked 3 pc.toNat
  | .quitRequested =>
      "quit requested"
  | .closing =>
      "exiting"
  | .keyStored key x =>
      "key " ++ hex 1 key.toNat ++ " stored in " ++
        Register.name x
  | .keyAwaited x =>
      "waiting for a key for " ++ Register.name x
  | .hostRoutineIgnored target =>
      "ignoring SYS " ++ Address.operand target
  | .executing line =>
      line.text
  | .writeIgnored value address =>
      "ignoring write of " ++ byteOperand value ++
        " into font table at " ++ Address.operand address
  | .faulted fault report =>
      fault.message ++ "\n" ++ report.text
  | .frameLost reason =>
      "unable to render frame: " ++ reason

end Record

end ChipEight
