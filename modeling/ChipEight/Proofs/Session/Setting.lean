import ChipEight.Proofs.Session.Run
import ChipEight.Proofs.Session.Telling

/-
  A session does the same in any setting.

  A setting is what surrounds an engine at work: controls that
  stand for the controls it has, and a talk and a log from
  before. Controls are only ever asked questions, and talk and
  log are only ever added to. So what a session does, says and
  tells is the same in every setting in which the questions
  are answered alike.

  Key definitions include:
    * `ChipEight.Setting`
    * `ChipEight.Session.placed`

  Main declarations:
    * `ChipEight.Session.placed_initial`
    * `ChipEight.Session.step_placed`
    * `ChipEight.Session.tick_placed`
    * `ChipEight.Session.advance_placed`
    * `ChipEight.Session.deedsOf_advance_placed`
    * `ChipEight.Session.toldOf_advance_placed`
-/

namespace ChipEight

------------------------------------------------------------
-- Settings
------------------------------------------------------------

/-
  Controls seen as other controls that answer alike, and a
  talk and a log from before.
-/
structure Setting
    (κ κ' : Type)
    [Controls κ]
    [Controls κ'] where
  view : κ → κ'
  talk : Array Exchange
  records : Array Record
  isHeld_view :
    ∀ controls key,
      Controls.isHeld (view controls) key =
        ((Controls.isHeld controls key).1,
          view (Controls.isHeld controls key).2)
  takePress_view :
    ∀ controls,
      Controls.takePress (view controls) =
        ((Controls.takePress controls).1,
          view (Controls.takePress controls).2)
  wantsQuit_view :
    ∀ controls,
      Controls.wantsQuit (view controls) =
        ((Controls.wantsQuit controls).1,
          view (Controls.wantsQuit controls).2)

/- The same controls, with a talk and a log from before. -/
def Setting.behind
    (κ : Type)
    [Controls κ]
    (talk : Array Exchange)
    (records : Array Record) : Setting κ κ where
  view controls := controls
  talk := talk
  records := records
  isHeld_view _ _ := rfl
  takePress_view _ := rfl
  wantsQuit_view _ := rfl

namespace Session

variable {κ κ' : Type} [Controls κ] [Controls κ']

/- A session in a setting. -/
def placed
    (s : Session κ)
    (p : Setting κ κ') : Session κ' where
  engine := s.engine
  controls := p.view s.controls
  exchanges := p.talk ++ s.exchanges
  log := p.records ++ s.log

/- A session stands in the setting of its own past. -/
theorem placed_initial (s : Session κ) :
    (Session.initial s.engine s.controls).placed
        (.behind κ s.exchanges s.log) =
      s := by
  simp [placed, initial, Setting.behind]

variable (s : Session κ) (p : Setting κ κ')

/- The engine is the same in every setting. -/
@[simp]
theorem engine_placed :
    (s.placed p).engine = s.engine :=
  rfl

------------------------------------------------------------
-- Parts Of A Step
------------------------------------------------------------

/- A record is added in every setting. -/
theorem note_placed (record : Record) :
    (s.placed p).note record = (s.note record).placed p := by
  simp [placed, note]

/- So are records, in order. -/
theorem noteAll_placed (records : List Record) :
    (s.placed p).noteAll records =
      (s.noteAll records).placed p := by
  induction records generalizing s with
  | nil =>
      rfl
  | cons record rest ih =>
      change ((s.placed p).note record).noteAll rest = _
      rw [note_placed, ih]
      rfl

/- An exchange is added in every setting. -/
theorem exchange_placed (e : Exchange) :
    (s.placed p).exchange e = (s.exchange e).placed p := by
  simp [placed, exchange]

/- The machine is changed alike. -/
theorem setMachine_placed (m : Machine) :
    (s.placed p).setMachine m = (s.setMachine m).placed p :=
  rfl

/- The mode is changed alike. -/
theorem setMode_placed (mode : Mode) :
    (s.placed p).setMode mode = (s.setMode mode).placed p :=
  rfl

/- The clocks are changed alike. -/
theorem setClocks_placed (clocks : Clocks) :
    (s.placed p).setClocks clocks =
      (s.setClocks clocks).placed p :=
  rfl

/- The tone follows the sound timer in every setting. -/
theorem followTone_placed :
    (s.placed p).followTone = s.followTone.placed p := by
  by_cases h :
      s.engine.machine.timers.audible = s.engine.toneOn
  · have hLater :
        (s.placed p).engine.machine.timers.audible =
          (s.placed p).engine.toneOn :=
      h
    rw [followTone_of_same h, followTone_of_same hLater]
  · have hLater :
        (s.placed p).engine.machine.timers.audible ≠
          (s.placed p).engine.toneOn :=
      h
    rw [followTone_of_change h, followTone_of_change hLater]
    exact exchange_placed
      { s with
        engine :=
          { s.engine with
            toneOn := s.engine.machine.timers.audible } }
      p _

/- Halting is the same in every setting. -/
theorem halt_placed :
    (s.placed p).halt = s.halt.placed p := by
  unfold halt
  rw [engine_placed]
  split
  · rfl
  · rw [note_placed, setMode_placed]

/- So is a crash. -/
theorem crash_placed (fault : Fault) :
    (s.placed p).crash fault =
      (s.crash fault).placed p := by
  unfold crash
  simp only [engine_placed, note_placed]
  exact halt_placed
    { s.note (.faulted fault s.engine.machine.snapshot) with
      engine :=
        { s.engine with
          crashReport := some s.engine.machine.snapshot } }
    p

/- The wish to quit is found out alike. -/
theorem askQuit_placed :
    (s.placed p).askQuit =
      (s.askQuit.1, s.askQuit.2.placed p) := by
  simp [askQuit, placed, p.wantsQuit_view, exchange]

/- A press is taken alike. -/
theorem takePress_placed :
    (s.placed p).takePress =
      (s.takePress.1, s.takePress.2.placed p) := by
  simp [takePress, placed, p.takePress_view, exchange]

/- A key is asked about alike. -/
theorem askKey_placed (key : Option UInt8) :
    (s.placed p).askKey key =
      ((s.askKey key).1, (s.askKey key).2.placed p) := by
  cases key with
  | none => rfl
  | some key =>
      simp [askKey, placed, p.isHeld_view, exchange]

/- A key is received alike. -/
theorem receiveKey_placed (x : Register) :
    (s.placed p).receiveKey x =
      (s.receiveKey x).placed p := by
  unfold receiveKey
  rw [takePress_placed]
  rcases s.takePress with ⟨press, t⟩
  cases press with
  | none => rfl
  | some key =>
      simp only [note_placed, setMachine_placed,
        setMode_placed]
      rfl

/- What follows an instruction is done alike. -/
theorem attend_placed (aftermath : Aftermath) :
    (s.placed p).attend aftermath =
      (s.attend aftermath).placed p := by
  cases aftermath with
  | goOn => rfl
  | showFrame => exact s.exchange_placed p _
  | awaitKey x =>
      simp only [attend, takePress_placed, note_placed,
        setMode_placed]

/- An instruction is carried out alike. -/
theorem perform_placed (instruction : Instruction) :
    (s.placed p).perform instruction =
      ((s.perform instruction).1.placed p,
        (s.perform instruction).2) := by
  unfold perform
  simp only [engine_placed, askKey_placed]
  rcases s.askKey
      (s.engine.machine.keyAsked? instruction) with
    ⟨held, t⟩
  simp only
  cases s.engine.machine.passWord.execute held
      instruction with
  | error fault =>
      simp only [crash_placed]
  | ok after =>
      simp only [noteAll_placed, setMachine_placed,
        attend_placed, followTone_placed]

/- A word is carried out alike. -/
theorem runWord_placed :
    (s.placed p).runWord =
      (s.runWord.1.placed p, s.runWord.2) := by
  unfold runWord
  simp only [engine_placed]
  cases Instruction.decode? s.engine.machine.fetch with
  | none =>
      simp only [crash_placed]
  | some instruction =>
      simp only [note_placed, perform_placed]

------------------------------------------------------------
-- Steps And Ticks
------------------------------------------------------------

/- A step is the same in every setting. -/
theorem step_placed :
    (s.placed p).step = (s.step.1.placed p, s.step.2) := by
  unfold step
  rw [engine_placed, askQuit_placed]
  rcases s.askQuit with ⟨quit, t⟩
  cases s.engine.mode with
  | halted =>
      rfl
  | running =>
      simp only
      split
      · rw [note_placed, halt_placed]
      · exact t.runWord_placed p
  | awaitingKey x =>
      simp only
      split
      · rw [note_placed, halt_placed]
      · rw [receiveKey_placed]

/- So is a tick. -/
theorem tick_placed :
    (s.placed p).tick = s.tick.placed p := by
  unfold tick
  rw [engine_placed]
  split
  · rfl
  · exact followTone_placed
      (s.setMachine
        { s.engine.machine with
          timers := s.engine.machine.timers.tick })
      p

/- So is what a step carries out. -/
theorem deed?_placed :
    (s.placed p).deed? = s.deed? := by
  unfold deed?
  rw [step_placed]
  simp [placed, p.wantsQuit_view]

------------------------------------------------------------
-- Time
------------------------------------------------------------

/- So is a beat. -/
theorem make_placed (beat : Beat) :
    (s.placed p).make beat =
      ((s.make beat).1.placed p, (s.make beat).2) := by
  cases beat with
  | cycle => exact s.step_placed p
  | tick => rw [make, make, tick_placed]

/- So is what beats carry out. -/
theorem deedsAmong_placed (beats : List Beat) :
    (s.placed p).deedsAmong beats = s.deedsAmong beats := by
  induction beats generalizing s with
  | nil =>
      rfl
  | cons beat rest ih =>
      rw [deedsAmong, deedsAmong, make_placed, ih]
      cases beat with
      | cycle => rw [deedOf?, deedOf?, deed?_placed]
      | tick => rfl

/- An engine catches up alike; the induction is on beats. -/
theorem catchUp_placed (clocks : Clocks) :
    (s.placed p).catchUp clocks =
      ((s.catchUp clocks).1.placed p,
        (s.catchUp clocks).2) := by
  induction clocks using Clocks.due.induct generalizing s with
  | case1 clocks hNext =>
      cases h : s.engine.isHalted with
      | true =>
          rw [catchUp_of_halted h,
            catchUp_of_halted (s := s.placed p) h,
            setClocks_placed]
      | false =>
          rw [catchUp_of_none h hNext,
            catchUp_of_none (s := s.placed p) h hNext,
            setClocks_placed]
  | case2 clocks beat later hNext ih =>
      cases h : s.engine.isHalted with
      | true =>
          rw [catchUp_of_halted h,
            catchUp_of_halted (s := s.placed p) h,
            setClocks_placed]
      | false =>
          rw [catchUp_of_some h hNext,
            catchUp_of_some (s := s.placed p) h hNext,
            make_placed]
          cases (s.make beat).2 with
          | none => exact ih (s.make beat).1
          | some fault => rfl

/- Time passes alike in every setting. -/
theorem advance_placed (elapsed : Nat) :
    (s.placed p).advance elapsed =
      ((s.advance elapsed).1.placed p,
        (s.advance elapsed).2) := by
  unfold advance
  rw [engine_placed]
  split
  · rfl
  · exact s.catchUp_placed p _

/- So it carries out the same. -/
theorem deedsOf_advance_placed (elapsed : Nat) :
    (s.placed p).deedsOf (.advance elapsed) =
      s.deedsOf (.advance elapsed) :=
  s.deedsAmong_placed p _

/- And it tells the log the same. -/
theorem toldOf_advance_placed (elapsed : Nat) :
    (s.placed p).toldOf (.advance elapsed) =
      s.toldOf (.advance elapsed) := by
  have hLog (t : Session κ) :
      (t.placed p).log.toList =
        p.records.toList ++ t.log.toList :=
    Array.toList_append
  have hPlaced := (s.placed p).log_advance elapsed
  rw [advance_placed, hLog, hLog, log_advance,
    List.append_assoc] at hPlaced
  exact
    (List.append_cancel_left
      (List.append_cancel_left hPlaced)).symm

end Session

end ChipEight
