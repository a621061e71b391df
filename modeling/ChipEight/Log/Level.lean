/-
  How much a log record matters.

  Key definitions include:
    * `ChipEight.Level`
    * `ChipEight.Level.rank`
    * `ChipEight.Level.name`
    * `ChipEight.Level.covers`
-/

namespace ChipEight

/- The levels of log records, the gravest first. -/
inductive Level where
  | error
  | warn
  | info
  | debug
  | trace
deriving DecidableEq

namespace Level

/- The place of a level, from one for the gravest. -/
def rank : Level → Nat
  | .error => 1
  | .warn => 2
  | .info => 3
  | .debug => 4
  | .trace => 5

/- The name of a level. -/
def name : Level → String
  | .error => "ERROR"
  | .warn => "WARN"
  | .info => "INFO"
  | .debug => "DEBUG"
  | .trace => "TRACE"

/- All levels, the gravest first. -/
def all : List Level :=
  [.error, .warn, .info, .debug, .trace]

/- Whether a log kept up to a level keeps another one. -/
def covers (limit level : Level) : Bool :=
  level.rank ≤ limit.rank

end Level

end ChipEight
