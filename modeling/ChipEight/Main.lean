import ChipEight.Program.Launch

/-
  The program as a process.

  It has neither a window nor a keyboard: pictures are drawn
  but not seen and no key is ever pressed. Time is the real
  time, and what the log tells goes to the error output as
  soon as it is told.

  Key definitions include:
    * `ChipEight.readReason`
    * `ChipEight.playLive`
    * `main`
-/

namespace ChipEight

------------------------------------------------------------
-- Files
------------------------------------------------------------

/- What the system calls a failure with a number. -/
def systemReason (code : Nat) : String :=
  let wording :=
    match code with
    | 2 => "No such file or directory"
    | 13 => "Permission denied"
    | 20 => "Not a directory"
    | 21 => "Is a directory"
    | 36 => "File name too long"
    | _ => "Input/output error"
  wording ++ " (os error " ++ toString code ++ ")"

/-
  The number of a failure, which may come with its sign
  turned around.
-/
def failureCode (code : UInt32) : Nat :=
  if code < 0x80000000 then
    code.toNat
  else
    (0 - code).toNat

/- Why a file could not be read. -/
def readReason : IO.Error → String
  | .noFileOrDirectory _ code _ =>
      systemReason (failureCode code)
  | .inappropriateType _ code _ =>
      systemReason (failureCode code)
  | .permissionDenied _ code _ =>
      systemReason (failureCode code)
  | .invalidArgument _ code _ =>
      systemReason (failureCode code)
  | other => toString other

/- The bytes of a file, or why it could not be read. -/
def readProgram
    (path : String) : IO (Except String (List UInt8)) := do
  try
    let bytes ← IO.FS.readBinFile path
    return .ok bytes.toList
  catch e =>
    return .error (readReason e)

/- A seed that nobody can foretell. -/
def freshSeed : IO UInt64 := do
  let bytes ← IO.getRandomBytes 8
  return UInt64.ofNat
    (bytes.toList.foldl (fun n b => n * 256 + b.toNat) 0)

------------------------------------------------------------
-- Playing
------------------------------------------------------------

/- Write lines to the error output. -/
def tell (lines : List String) : IO Unit :=
  lines.forM (fun line => IO.eprintln line)

/- Write what the log tells, and forget what is past. -/
def tellLog
    (filter : LogFilter)
    (s : Show) : IO Show := do
  tell (filter.written s.session.log.toList)
  let session := { s.session with exchanges := #[], log := #[] }
  return { s with session := session }

/-
  Play turns as time passes. The clock of the show started at a
  reading of the real one, and each turn brings it up to date.
-/
partial def playLive
    (filter : LogFilter)
    (started : Nat)
    (s : Show) : IO (Show × Ending) := do
  if s.session.engine.isHalted then
    let s ← tellLog filter s.close
    return (s, .closed)
  let now ← IO.monoNanosNow
  let (s, fault) :=
    s.turn { nanos := now - started - s.watch.now, events := [] }
  let s ← tellLog filter s
  match fault with
  | some fault => return (s, .faulted fault)
  | none =>
      IO.sleep 1
      playLive filter started s

/- Carry out what was launched; the result is the exit code. -/
def carryOut
    (filter : LogFilter) : Launch → IO UInt32
  | .stopped outcome => do
      tell outcome.errors
      outcome.output.forM (fun line => IO.println line)
      return outcome.exitCode.toUInt32
  | .ready engine scale written => do
      tell written
      let now ← IO.monoNanosNow
      let opened := Show.opening engine scale 0 none
      let (s, ending) ← playLive filter now opened
      tell (closingLines s.session.engine ending)
      return ending.exitCode.toUInt32

end ChipEight

open ChipEight in
/- Run the program with the arguments of its command line. -/
def main (args : List String) : IO UInt32 := do
  let setting ← IO.getEnv "RUST_LOG"
  let (filter, warnings) :=
    LogFilter.parse
      (setting.getD LogFilter.standardSetting)
  tell warnings
  match Arguments.parse args with
  | .error refused =>
      carryOut filter (.stopped refused.outcome)
  | .ok arguments =>
      let file ← readProgram arguments.path
      let entropy ← freshSeed
      carryOut filter (launch filter arguments entropy file)
