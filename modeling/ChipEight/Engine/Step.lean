import ChipEight.Engine.Session
import ChipEight.Log.Remark
import ChipEight.Machine.Execute

/-
  One step of an engine, and one count of its timers.

  A step asks first whether the player wants to quit. Then it
  takes a key press if one is awaited, or else carries one
  instruction out. An instruction that cannot be carried out
  leaves the machine as it was and halts it.

  Key definitions include:
    * `ChipEight.Session.receiveKey`
    * `ChipEight.Session.attend`
    * `ChipEight.Session.perform`
    * `ChipEight.Session.runWord`
    * `ChipEight.Session.step`
    * `ChipEight.Session.tick`
-/

namespace ChipEight

namespace Session

variable {κ : Type} [Controls κ]

------------------------------------------------------------
-- Waiting
------------------------------------------------------------

/-
  Take a key press, if there is one, and store the key by its
  low four bits.
-/
def receiveKey
    (s : Session κ)
    (x : Register) : Session κ :=
  let (press, s) := s.takePress
  match press with
  | none => s
  | some key =>
      ((s.note (.keyStored key x)).setMachine
        (s.engine.machine.setReg x (key &&& 0xF))).setMode
          .running

------------------------------------------------------------
-- Instructions
------------------------------------------------------------

/-
  Do what is to be done after an instruction. A wait begins
  by forgetting the presses made before it.
-/
def attend
    (s : Session κ) : Aftermath → Session κ
  | .goOn => s
  | .showFrame => s.exchange (.frameShown s.engine.machine.frame)
  | .awaitKey x =>
      let (_, s) := s.takePress
      (s.note (.keyAwaited x)).setMode (.awaitingKey x)

/- Carry out an instruction that lies at the counter. -/
def perform
    (s : Session κ)
    (instruction : Instruction) :
    Session κ × Option Fault :=
  let m := s.engine.machine
  let (held, s) := s.askKey (m.keyAsked? instruction)
  match m.passWord.execute held instruction with
  | .error fault => (s.crash fault, some fault)
  | .ok after =>
      let s := s.noteAll (m.remarks instruction)
      let s := s.setMachine after
      let s := s.attend instruction.aftermath
      (s.followTone, none)

/- Carry out the word that the counter points at. -/
def runWord (s : Session κ) : Session κ × Option Fault :=
  let address := s.engine.machine.processor.pc
  let word := s.engine.machine.fetch
  match Instruction.decode? word with
  | none =>
      let fault := Fault.undefinedWord word address
      (s.crash fault, some fault)
  | some instruction =>
      let line := { address := address, word := word }
      (s.note (.executing line)).perform instruction

------------------------------------------------------------
-- Steps And Ticks
------------------------------------------------------------

/- One step; a halted engine does nothing. -/
def step (s : Session κ) : Session κ × Option Fault :=
  match s.engine.mode with
  | .halted => (s, none)
  | mode =>
      let (quit, s) := s.askQuit
      if quit then
        ((s.note .quitRequested).halt, none)
      else
        match mode with
        | .awaitingKey x => (s.receiveKey x, none)
        | _ => s.runWord

omit [Controls κ]

/- Count the timers down; a halted engine does nothing. -/
def tick (s : Session κ) : Session κ :=
  if s.engine.isHalted then
    s
  else
    let m := s.engine.machine
    (s.setMachine
      { m with timers := m.timers.tick }).followTone

end Session

end ChipEight
