import ChipEight.Proofs.Session.Conduct

/-
  Steps and ticks have nothing to do with the clocks: they
  neither read what the clocks hold nor change it.

  Main declarations:
    * `ChipEight.Session.step_setClocks`
    * `ChipEight.Session.tick_setClocks`
    * `ChipEight.Session.clocks_step`
    * `ChipEight.Session.clocks_tick`
-/

namespace ChipEight

namespace Session

variable {κ : Type}

------------------------------------------------------------
-- Setting Clocks
------------------------------------------------------------

/- Clocks that are set twice are as set last. -/
@[simp]
theorem setClocks_setClocks
    (s : Session κ)
    (first second : Clocks) :
    (s.setClocks first).setClocks second =
      s.setClocks second :=
  rfl

/- Setting the clocks to what they are changes nothing. -/
@[simp]
theorem setClocks_self (s : Session κ) :
    s.setClocks s.engine.clocks = s :=
  rfl

/- The clocks are as they were set. -/
@[simp]
theorem clocks_setClocks
    (s : Session κ)
    (clocks : Clocks) :
    (s.setClocks clocks).engine.clocks = clocks :=
  rfl

/- Setting the clocks halts nothing and revives nothing. -/
@[simp]
theorem isHalted_setClocks
    (s : Session κ)
    (clocks : Clocks) :
    (s.setClocks clocks).engine.isHalted =
      s.engine.isHalted :=
  rfl

/- Setting the clocks leaves the machine alone. -/
@[simp]
theorem machine_setClocks
    (s : Session κ)
    (clocks : Clocks) :
    (s.setClocks clocks).engine.machine = s.engine.machine :=
  rfl

------------------------------------------------------------
-- Parts Of A Step
------------------------------------------------------------

/- Records do not depend on the clocks. -/
theorem noteAll_setClocks
    (s : Session κ)
    (clocks : Clocks)
    (records : List Record) :
    (s.setClocks clocks).noteAll records =
      (s.noteAll records).setClocks clocks := by
  induction records generalizing s with
  | nil =>
      rfl
  | cons record rest ih =>
      exact ih (s.note record)

/- Halting does not depend on the clocks. -/
theorem halt_setClocks
    (s : Session κ)
    (clocks : Clocks) :
    (s.setClocks clocks).halt = s.halt.setClocks clocks := by
  unfold halt
  rw [isHalted_setClocks]
  split
  · rfl
  · rfl

/- A crash does not depend on the clocks. -/
theorem crash_setClocks
    (s : Session κ)
    (clocks : Clocks)
    (fault : Fault) :
    (s.setClocks clocks).crash fault =
      (s.crash fault).setClocks clocks := by
  unfold crash
  exact halt_setClocks
    { s.note (.faulted fault s.engine.machine.snapshot) with
      engine :=
        { s.engine with
          crashReport := some s.engine.machine.snapshot } }
    clocks

/- The tone does not depend on the clocks. -/
theorem followTone_setClocks
    (s : Session κ)
    (clocks : Clocks) :
    (s.setClocks clocks).followTone =
      s.followTone.setClocks clocks := by
  by_cases h :
      s.engine.machine.timers.audible = s.engine.toneOn
  · have hLater :
        (s.setClocks clocks).engine.machine.timers.audible =
          (s.setClocks clocks).engine.toneOn :=
      h
    rw [followTone_of_same h, followTone_of_same hLater]
  · have hLater :
        (s.setClocks clocks).engine.machine.timers.audible ≠
          (s.setClocks clocks).engine.toneOn :=
      h
    rw [followTone_of_change h, followTone_of_change hLater]
    rfl

/- A tick does not depend on the clocks. -/
theorem tick_setClocks
    (s : Session κ)
    (clocks : Clocks) :
    (s.setClocks clocks).tick = s.tick.setClocks clocks := by
  unfold tick
  rw [isHalted_setClocks]
  split
  · rfl
  · exact followTone_setClocks
      (s.setMachine
        { s.engine.machine with
          timers := s.engine.machine.timers.tick })
      clocks

variable [Controls κ]

/- The key asked about does not depend on the clocks. -/
theorem askKey_setClocks
    (s : Session κ)
    (clocks : Clocks)
    (key : Option UInt8) :
    (s.setClocks clocks).askKey key =
      ((s.askKey key).1, (s.askKey key).2.setClocks clocks) := by
  cases key with
  | none => rfl
  | some key => rfl

/- Receiving a key does not depend on the clocks. -/
theorem receiveKey_setClocks
    (s : Session κ)
    (clocks : Clocks)
    (x : Register) :
    (s.setClocks clocks).receiveKey x =
      (s.receiveKey x).setClocks clocks := by
  have hPress :
      (s.setClocks clocks).takePress =
        (s.takePress.1, s.takePress.2.setClocks clocks) :=
    rfl
  unfold receiveKey
  rw [hPress]
  rcases s.takePress with ⟨press, t⟩
  cases press with
  | none => rfl
  | some key => rfl

/- What follows an instruction does not depend on clocks. -/
theorem attend_setClocks
    (s : Session κ)
    (clocks : Clocks)
    (aftermath : Aftermath) :
    (s.setClocks clocks).attend aftermath =
      (s.attend aftermath).setClocks clocks := by
  cases aftermath with
  | goOn => rfl
  | showFrame => rfl
  | awaitKey x => rfl

/- An instruction does not depend on the clocks. -/
theorem perform_setClocks
    (s : Session κ)
    (clocks : Clocks)
    (instruction : Instruction) :
    (s.setClocks clocks).perform instruction =
      ((s.perform instruction).1.setClocks clocks,
        (s.perform instruction).2) := by
  unfold perform
  simp only [machine_setClocks, askKey_setClocks]
  rcases s.askKey
      (s.engine.machine.keyAsked? instruction) with
    ⟨held, t⟩
  simp only
  cases s.engine.machine.passWord.execute held
      instruction with
  | error fault =>
      simp only [crash_setClocks]
  | ok after =>
      simp only [noteAll_setClocks]
      have hAttend :=
        attend_setClocks
          ((t.noteAll
            (s.engine.machine.remarks instruction)).setMachine
              after)
          clocks instruction.aftermath
      have hTone :=
        followTone_setClocks
          (((t.noteAll
            (s.engine.machine.remarks instruction)).setMachine
              after).attend instruction.aftermath)
          clocks
      rw [← hTone, ← hAttend]
      rfl

/- A word does not depend on the clocks. -/
theorem runWord_setClocks
    (s : Session κ)
    (clocks : Clocks) :
    (s.setClocks clocks).runWord =
      (s.runWord.1.setClocks clocks, s.runWord.2) := by
  unfold runWord
  simp only [machine_setClocks]
  cases Instruction.decode? s.engine.machine.fetch with
  | none =>
      simp only [crash_setClocks]
  | some instruction =>
      exact perform_setClocks
        (s.note
          (.executing
            { address := s.engine.machine.processor.pc
              word := s.engine.machine.fetch }))
        clocks instruction

------------------------------------------------------------
-- Steps And Ticks
------------------------------------------------------------

/- A step does not depend on the clocks. -/
theorem step_setClocks
    (s : Session κ)
    (clocks : Clocks) :
    (s.setClocks clocks).step =
      (s.step.1.setClocks clocks, s.step.2) := by
  have hMode :
      (s.setClocks clocks).engine.mode = s.engine.mode :=
    rfl
  have hQuit :
      (s.setClocks clocks).askQuit =
        (s.askQuit.1, s.askQuit.2.setClocks clocks) :=
    rfl
  unfold step
  rw [hMode, hQuit]
  rcases s.askQuit with ⟨quit, t⟩
  cases s.engine.mode with
  | halted =>
      rfl
  | running =>
      simp only
      split
      · have hHalt :=
          halt_setClocks (t.note .quitRequested) clocks
        rw [← hHalt]
        rfl
      · exact runWord_setClocks t clocks
  | awaitingKey x =>
      simp only
      split
      · have hHalt :=
          halt_setClocks (t.note .quitRequested) clocks
        rw [← hHalt]
        rfl
      · rw [receiveKey_setClocks]

/- A step leaves the clocks alone. -/
@[simp]
theorem clocks_step (s : Session κ) :
    s.step.1.engine.clocks = s.engine.clocks := by
  have h := step_setClocks s s.engine.clocks
  rw [setClocks_self] at h
  rw [h, clocks_setClocks]

/- A tick leaves the clocks alone. -/
omit [Controls κ] in
@[simp]
theorem clocks_tick (s : Session κ) :
    s.tick.engine.clocks = s.engine.clocks := by
  have h := tick_setClocks s s.engine.clocks
  rw [setClocks_self] at h
  rw [h, clocks_setClocks]

end Session

end ChipEight
