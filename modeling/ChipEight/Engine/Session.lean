import ChipEight.Console.Controls
import ChipEight.Console.Exchange
import ChipEight.Engine.Basic
import ChipEight.Log.Record

/-
  A session: an engine at work with its controls, and all
  that has passed between it and the console and the log.

  Key definitions include:
    * `ChipEight.Session`
    * `ChipEight.Session.initial`
    * `ChipEight.Session.note`
    * `ChipEight.Session.exchange`
    * `ChipEight.Session.askQuit`
    * `ChipEight.Session.askKey`
    * `ChipEight.Session.takePress`
    * `ChipEight.Session.halt`
    * `ChipEight.Session.crash`
    * `ChipEight.Session.load`
    * `ChipEight.Session.reseed`
-/

namespace ChipEight

------------------------------------------------------------
-- Sessions
------------------------------------------------------------

/-
  An engine, its controls, the exchanges with the console and
  the records of the log, the oldest first.
-/
structure Session (κ : Type) where
  engine : Engine
  controls : κ
  exchanges : Array Exchange
  log : Array Record

namespace Session

variable {κ : Type}

/- An engine with nothing said or told yet. -/
def initial
    (engine : Engine)
    (controls : κ) : Session κ where
  engine := engine
  controls := controls
  exchanges := #[]
  log := #[]

/- Write a record into the log. -/
def note
    (s : Session κ)
    (record : Record) : Session κ :=
  { s with log := s.log.push record }

/- Write records into the log, in order. -/
def noteAll
    (s : Session κ)
    (records : List Record) : Session κ :=
  records.foldl note s

/- Remember what passed between engine and console. -/
def exchange
    (s : Session κ)
    (e : Exchange) : Session κ :=
  { s with exchanges := s.exchanges.push e }

/- Change the machine. -/
def setMachine
    (s : Session κ)
    (m : Machine) : Session κ :=
  { s with engine := { s.engine with machine := m } }

/- Change the mode. -/
def setMode
    (s : Session κ)
    (mode : Mode) : Session κ :=
  { s with engine := { s.engine with mode := mode } }

/- Change the clocks. -/
def setClocks
    (s : Session κ)
    (clocks : Clocks) : Session κ :=
  { s with engine := { s.engine with clocks := clocks } }

/- A record leaves the engine alone. -/
@[simp]
theorem engine_note
    (s : Session κ)
    (record : Record) :
    (s.note record).engine = s.engine :=
  rfl

/- A record is added at the end of the log. -/
@[simp]
theorem log_note
    (s : Session κ)
    (record : Record) :
    (s.note record).log = s.log.push record :=
  rfl

/- A record is no exchange. -/
@[simp]
theorem exchanges_note
    (s : Session κ)
    (record : Record) :
    (s.note record).exchanges = s.exchanges :=
  rfl

/- Records are added at the end of the log, in order. -/
theorem log_noteAll
    (s : Session κ)
    (records : List Record) :
    (s.noteAll records).log.toList =
      s.log.toList ++ records := by
  induction records generalizing s with
  | nil =>
      simp [noteAll]
  | cons record rest ih =>
      change ((s.note record).noteAll rest).log.toList = _
      rw [ih]
      simp

/- Records leave the engine alone. -/
@[simp]
theorem engine_noteAll
    (s : Session κ)
    (records : List Record) :
    (s.noteAll records).engine = s.engine := by
  induction records generalizing s with
  | nil =>
      rfl
  | cons record rest ih =>
      change ((s.note record).noteAll rest).engine = _
      rw [ih]
      simp

/- An exchange leaves the engine alone. -/
@[simp]
theorem engine_exchange
    (s : Session κ)
    (e : Exchange) :
    (s.exchange e).engine = s.engine :=
  rfl

/- An exchange is added behind the earlier ones. -/
@[simp]
theorem exchanges_exchange
    (s : Session κ)
    (e : Exchange) :
    (s.exchange e).exchanges = s.exchanges.push e :=
  rfl

/- An exchange is no record. -/
@[simp]
theorem log_exchange
    (s : Session κ)
    (e : Exchange) :
    (s.exchange e).log = s.log :=
  rfl

------------------------------------------------------------
-- Questions
------------------------------------------------------------

variable [Controls κ]

/- Ask whether the player wants to quit. -/
def askQuit (s : Session κ) : Bool × Session κ :=
  let (answer, controls) := Controls.wantsQuit s.controls
  (answer,
    { s with controls := controls }.exchange
      (.quitAsked answer))

/- Ask whether a key is held, if one is named. -/
def askKey
    (s : Session κ) : Option UInt8 → Bool × Session κ
  | none => (false, s)
  | some key =>
      let (answer, controls) :=
        Controls.isHeld s.controls key
      (answer,
        { s with controls := controls }.exchange
          (.keyAsked key answer))

/- Take the latest key press. -/
def takePress
    (s : Session κ) : Option UInt8 × Session κ :=
  let (answer, controls) := Controls.takePress s.controls
  (answer,
    { s with controls := controls }.exchange
      (.pressTaken answer))

omit [Controls κ]

/- Let the tone follow the sound timer. -/
def followTone (s : Session κ) : Session κ :=
  let audible := s.engine.machine.timers.audible
  if audible = s.engine.toneOn then
    s
  else
    { s with
      engine := { s.engine with toneOn := audible } }.exchange
        (if audible then .toneStarted else .toneStopped)

------------------------------------------------------------
-- Halting
------------------------------------------------------------

/- Stop for good, unless this has happened before. -/
def halt (s : Session κ) : Session κ :=
  if s.engine.isHalted then
    s
  else
    (s.note (.halted s.engine.machine.processor.pc)).setMode
      .halted

/- Report a fault and stop for good. -/
def crash
    (s : Session κ)
    (fault : Fault) : Session κ :=
  let report := s.engine.machine.snapshot
  let s := s.note (.faulted fault report)
  { s with
    engine :=
      { s.engine with crashReport := some report } }.halt

------------------------------------------------------------
-- Preparation
------------------------------------------------------------

/-
  Load a program, or crash if it does not fit. The mode stays
  as it is: a machine that has halted does not run again.
-/
def load
    (s : Session κ)
    (program : List UInt8) : Session κ × Option Fault :=
  let m := s.engine.machine
  match m.memory.loadProgram program with
  | .error fault => (s.crash fault, some fault)
  | .ok memory =>
      let s := s.setMachine { m with memory := memory }
      ({ s with
        engine :=
          { s.engine with programSize := program.length } }.note
            (.programLoaded program.length),
        none)

/- Start the random bytes of a seed from their beginning. -/
def reseed
    (s : Session κ)
    (seed : UInt64) : Session κ :=
  s.setMachine (s.engine.machine.reseed seed)

end Session

end ChipEight
