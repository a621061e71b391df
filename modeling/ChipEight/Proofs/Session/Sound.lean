import ChipEight.Proofs.Machine.Sound
import ChipEight.Proofs.Schedule.Beats
import ChipEight.Proofs.Session.Reachable

/-
  What holds of an engine at all times.

  Besides a machine with all in place, an engine awaits keys
  for registers that exist, has no program longer than the
  memory for it, and keeps a crash report only once it has
  halted.

  Key definitions include:
    * `ChipEight.Engine.Sound`

  Main declarations:
    * `ChipEight.Session.sound_step`
    * `ChipEight.Session.sound_advance`
    * `ChipEight.Session.sound_obey`
    * `ChipEight.Engine.Reachable.sound`
-/

namespace ChipEight

------------------------------------------------------------
-- Sound Engines
------------------------------------------------------------

/- Whether all is in place in an engine. -/
structure Engine.Sound (e : Engine) : Prop where
  machine : e.machine.Sound
  awaited : ∀ x, e.mode = .awaitingKey x → x.val ≤ 15
  programSize : e.programSize ≤ 3584
  crashReport : e.crashReport.isSome → e.isHalted = true

namespace Engine

/- An engine starts with all in place. -/
theorem sound_switchedOn
    (rates : Rates)
    (generator : Generator) :
    (switchedOn rates generator).Sound where
  machine := (Machine.sound_initial 0).setGenerator generator
  awaited := by
    intro x hMode
    cases hMode
  programSize := Nat.zero_le _
  crashReport := by
    intro hReport
    cases hReport

/- A register that is awaited exists. -/
theorem awaited_le
    {e : Engine}
    (x : Register)
    (_ : e.mode = .awaitingKey x) :
    x.val ≤ 15 :=
  Nat.le_of_lt_succ x.isLt

namespace Sound

variable {e after : Engine}

/- Only a halted engine has a crash report. -/
theorem crashReport_eq_none
    (h : e.Sound)
    (hNot : e.isHalted = false) :
    e.crashReport = none := by
  cases hReport : e.crashReport with
  | none => rfl
  | some report =>
      have hHalted := h.crashReport (by rw [hReport]; rfl)
      rw [hNot] at hHalted
      cases hHalted

/-
  An engine that has not halted can go on with any sound
  machine, in any mode.
-/
theorem goOn
    (h : e.Sound)
    (hNot : e.isHalted = false)
    (hMachine : after.machine.Sound)
    (hSize : after.programSize = e.programSize)
    (hReport : after.crashReport = e.crashReport) :
    after.Sound where
  machine := hMachine
  awaited := awaited_le
  programSize := by
    rw [hSize]
    exact h.programSize
  crashReport := by
    rw [hReport, h.crashReport_eq_none hNot]
    intro hSome
    cases hSome

/- An engine can halt, with a crash report or without. -/
theorem stop
    (h : e.Sound)
    (hMachine : after.machine = e.machine)
    (hSize : after.programSize = e.programSize)
    (hHalted : after.isHalted = true) :
    after.Sound where
  machine := by
    rw [hMachine]
    exact h.machine
  awaited := awaited_le
  programSize := by
    rw [hSize]
    exact h.programSize
  crashReport := by
    intro _
    exact hHalted

end Sound

end Engine

namespace Session

variable {κ : Type} {s : Session κ}

------------------------------------------------------------
-- Stopping And Preparation
------------------------------------------------------------

/- Halting leaves all in place. -/
theorem sound_halt (h : s.engine.Sound) :
    s.halt.engine.Sound := by
  rw [engine_halt]
  exact h.stop rfl rfl rfl

/- So does a crash. -/
theorem sound_crash
    (h : s.engine.Sound)
    (fault : Fault) :
    (s.crash fault).engine.Sound := by
  rw [engine_crash]
  exact h.stop rfl rfl rfl

/- So does loading, whether the program fits or not. -/
theorem sound_load
    (h : s.engine.Sound)
    (program : List UInt8) :
    (s.load program).1.engine.Sound := by
  cases hLoad :
      s.engine.machine.memory.loadProgram program with
  | error fault =>
      rw [load_of_error hLoad]
      exact sound_crash h fault
  | ok memory =>
      have hFont := h.machine.font.loadProgram hLoad
      rw [load_of_ok hLoad]
      exact
        { machine := h.machine.setMemory hFont
          awaited := h.awaited
          programSize :=
            Memory.length_le_of_loadProgram hLoad
          crashReport := h.crashReport }

/- So do other random bytes. -/
theorem sound_reseed
    (h : s.engine.Sound)
    (seed : UInt64) :
    (s.reseed seed).engine.Sound where
  machine := h.machine.setGenerator _
  awaited := h.awaited
  programSize := h.programSize
  crashReport := h.crashReport

------------------------------------------------------------
-- Ticks
------------------------------------------------------------

/- The tone is of no matter. -/
theorem sound_followTone (h : s.engine.Sound) :
    s.followTone.engine.Sound := by
  rw [engine_followTone]
  exact
    { machine := h.machine
      awaited := h.awaited
      programSize := h.programSize
      crashReport := h.crashReport }

/- Counting timers down leaves all in place. -/
theorem sound_tick (h : s.engine.Sound) :
    s.tick.engine.Sound := by
  cases hHalted : s.engine.isHalted with
  | true =>
      rw [tick_of_halted hHalted]
      exact h
  | false =>
      rw [tick_of_not_halted hHalted]
      exact sound_followTone
        (h.goOn hHalted (h.machine.setTimers _) rfl rfl)

------------------------------------------------------------
-- Steps
------------------------------------------------------------

variable [Controls κ]

/- A key that is received goes to a register. -/
theorem sound_receiveKey
    (h : s.engine.Sound)
    (hNot : s.engine.isHalted = false)
    (x : Register) :
    (s.receiveKey x).engine.Sound := by
  cases hPress : s.takePress.1 with
  | none =>
      rw [receiveKey_of_none hPress]
      exact h
  | some key =>
      rw [receiveKey_of_some hPress]
      exact h.goOn hNot (h.machine.setReg _ _) rfl rfl

/- An instruction leaves all in place, or halts the engine. -/
theorem sound_perform
    (h : s.engine.Sound)
    (hNot : s.engine.isHalted = false)
    (instruction : Instruction) :
    (s.perform instruction).1.engine.Sound := by
  cases hRun : s.attempt instruction with
  | error fault =>
      rw [perform_of_error hRun]
      apply sound_crash
      rw [engine_askFor]
      exact h
  | ok after =>
      have hAfter := h.machine.passWord.execute hRun
      rw [perform_of_ok hRun]
      apply sound_followTone
      rw [engine_attend]
      apply h.goOn hNot hAfter
      · simp [setMachine]
      · simp [setMachine]

/- So does a word, whether it names an instruction or not. -/
theorem sound_runWord
    (h : s.engine.Sound)
    (hNot : s.engine.isHalted = false) :
    s.runWord.1.engine.Sound := by
  cases hWord :
      Instruction.decode? s.engine.machine.fetch with
  | none =>
      rw [runWord_of_none hWord]
      exact sound_crash h _
  | some instruction =>
      rw [runWord_of_some hWord]
      refine sound_perform ?_ ?_ instruction
      · exact h
      · exact hNot

/- So does a step, in every mode. -/
theorem sound_step (h : s.engine.Sound) :
    s.step.1.engine.Sound := by
  rcases s.step_cases with
    ⟨_, hStep⟩ | ⟨_, _, hStep⟩ | ⟨x, hMode, _, hStep⟩ |
      ⟨hMode, _, hStep⟩
  · rw [hStep]
    exact h
  · rw [hStep]
    exact sound_halt h
  · rw [hStep]
    refine sound_receiveKey ?_ ?_ x
    · exact h
    · simp [Engine.isHalted, hMode]
  · rw [hStep]
    refine sound_runWord ?_ ?_
    · exact h
    · simp [Engine.isHalted, hMode]

------------------------------------------------------------
-- Time
------------------------------------------------------------

/- A beat leaves all in place. -/
theorem sound_make
    (h : s.engine.Sound)
    (beat : Beat) :
    (s.make beat).1.engine.Sound := by
  cases beat with
  | cycle => exact sound_step h
  | tick => exact sound_tick h

/- Beats leave all in place. -/
theorem sound_makeAll
    (h : s.engine.Sound)
    (beats : List Beat) :
    (s.makeAll beats).1.engine.Sound := by
  induction beats generalizing s with
  | nil =>
      exact h
  | cons beat rest ih =>
      rw [makeAll_cons]
      exact ih (sound_make h beat)

/- Clocks are of no matter. -/
omit [Controls κ] in
theorem SameButClocks.sound
    {t : Session κ}
    (hSame : s.SameButClocks t)
    (h : t.engine.Sound) :
    s.engine.Sound := by
  have hBack : t.setClocks s.engine.clocks = s := hSame.symm
  rw [← hBack]
  exact
    { machine := h.machine
      awaited := h.awaited
      programSize := h.programSize
      crashReport := h.crashReport }

/- Time that passes leaves all in place. -/
theorem sound_advance
    (h : s.engine.Sound)
    (elapsed : Nat) :
    (s.advance elapsed).1.engine.Sound :=
  (s.makesDue_advance elapsed).session.sound
    (sound_makeAll h _)

/- Every command leaves all in place. -/
theorem sound_obey
    (h : s.engine.Sound)
    (command : Command) :
    (s.obey command).1.engine.Sound := by
  cases command with
  | load program => exact sound_load h program
  | step => exact sound_step h
  | tick => exact sound_tick h
  | advance elapsed => exact sound_advance h elapsed
  | halt => exact sound_halt h
  | reseed seed => exact sound_reseed h seed

end Session

/- Every reachable engine has all in place. -/
theorem Engine.Reachable.sound
    {e : Engine}
    (h : e.Reachable) :
    e.Sound := by
  induction h with
  | switchedOn rates generator =>
      exact Engine.sound_switchedOn rates generator
  | obey s command _ ih =>
      exact Session.sound_obey ih command

end ChipEight
