import ChipEight.Host.Show
import ChipEight.Log.Filter
import ChipEight.Program.Arguments

/-
  The program from its command line to its last line.

  What can be said before the show begins is said by
  `launch`: it stops with an outcome, or hands over an engine
  with its program loaded. What a show leaves to be said is
  said by `closingLines`.

  Key definitions include:
    * `ChipEight.Outcome`
    * `ChipEight.Launch`
    * `ChipEight.launch`
    * `ChipEight.closingLines`
    * `ChipEight.wholeRun`
-/

namespace ChipEight

------------------------------------------------------------
-- Outcomes
------------------------------------------------------------

/- The exit code, and what is written to both outputs. -/
structure Outcome where
  exitCode : UInt8
  output : List String
  errors : List String
deriving DecidableEq

/-
  The lines that are told about a failure and its cause. A
  file name may bring several lines into a failure.
-/
def failureLines
    (failure : String)
    (cause : Option String) : List String :=
  let told := ("Error: " ++ failure).splitOn "\n"
  match cause with
  | none => told
  | some text => told ++ ["", "Caused by:", "    " ++ text]

/- How the program is used. -/
def usage : List String :=
  ["Runs a Chip-8 rom in an SDL2 window",
    "",
    "Usage: chipvm [OPTIONS] <ROM>",
    "",
    "Arguments:",
    "  <ROM>  Path to the rom file",
    "",
    "Options:",
    "      --clock-hz <CLOCK_HZ>" ++
      "  Instructions executed per second [default: 700]",
    "      --scale <SCALE>      " ++
      "  Size of each Chip-8 pixel on screen [default: 10]",
    "      --seed <SEED>        " ++
      "  Seed for the random number generator, " ++
      "for reproducible runs",
    "      --disassemble        " ++
      "  Print a listing of the rom instead of running it",
    "  -h, --help               " ++
      "  Print help",
    "  -V, --version            " ++
      "  Print version"]

/- What is told about a command line that is refused. -/
def UsageError.reason : UsageError → String
  | .fileMissing => "a rom is required but not named"
  | .unknown => "an argument is not known"
  | .badValue => "a value is no number in its range"
  | .noValue => "an argument lacks its value"
  | .repeated => "an argument is given more than once"
  | .extraValue => "an argument takes no value"
  | .help => "help is asked for"
  | .version => "the version is asked for"

/- The outcome of a command line that is not carried out. -/
def UsageError.outcome : UsageError → Outcome
  | .help =>
      { exitCode := 0, output := usage, errors := [] }
  | .version =>
      { exitCode := 0
        output := ["chipvm_runner 0.1.0"]
        errors := [] }
  | refused =>
      { exitCode := 2
        output := []
        errors := ["error: " ++ refused.reason, ""] ++ usage }

------------------------------------------------------------
-- Before The Show
------------------------------------------------------------

/-
  An outcome, or an engine and the size of its pixels, with
  what was written about it so far.
-/
inductive Launch where
  | stopped (outcome : Outcome)
  | ready (engine : Engine) (scale : UInt32)
      (errors : List String)

/- Load a program, and list it or hand it over. -/
def launchProgram
    (filter : LogFilter)
    (arguments : Arguments)
    (entropy : UInt64)
    (program : List UInt8) : Launch :=
  let engine :=
    Engine.initial
      { Rates.standard with cycles := arguments.rate }
      (arguments.seed.getD entropy)
  let (s, fault) :=
    (Session.initial engine Seat.initial).load program
  let written := filter.written s.log.toList
  match fault with
  | some fault =>
      .stopped
        { exitCode := 1
          output := []
          errors :=
            written ++
              failureLines
                ("unable to load rom " ++ arguments.path)
                (some fault.message) }
  | none =>
      if arguments.listOnly then
        .stopped
          { exitCode := 0
            output := s.engine.listing.map Line.text
            errors := written }
      else
        .ready s.engine arguments.scale written

/-
  Start with arguments whose program file was read, or could
  not be read for a reason.
-/
def launch
    (filter : LogFilter)
    (arguments : Arguments)
    (entropy : UInt64)
    (file : Except String (List UInt8)) : Launch :=
  match file with
  | .error reason =>
      .stopped
        { exitCode := 1
          output := []
          errors :=
            failureLines
              ("unable to read rom " ++ arguments.path)
              (some reason) }
  | .ok program =>
      launchProgram filter arguments entropy program

------------------------------------------------------------
-- After The Show
------------------------------------------------------------

/- What is written when a show has ended. -/
def closingLines
    (engine : Engine)
    (ending : Ending) : List String :=
  match ending.error? with
  | none => []
  | some failure =>
      let report :=
        match ending, engine.crashReport with
        | .faulted _, some report => report.lines
        | _, _ => []
      report ++ failureLines failure none

/- The exit code of a show. -/
def Ending.exitCode (ending : Ending) : UInt8 :=
  if ending.error?.isSome then
    1
  else
    0

/- The outcome of the program for the turns of its show. -/
def wholeRun
    (filter : LogFilter)
    (turns : List Turn) : Launch → Outcome
  | .stopped outcome => outcome
  | .ready engine scale written =>
      let (s, ending) :=
        Show.run engine scale 0 none turns
      { exitCode := ending.exitCode
        output := []
        errors :=
          written ++ filter.written s.session.log.toList ++
            closingLines s.session.engine ending }

end ChipEight
