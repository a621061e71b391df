import ChipEight.Proofs.Schedule.Beats
import ChipEight.Proofs.Session.Reachable

/-
  What an engine tells the log.

  The log is only ever added to, and what an operation adds
  depends on the engine and its controls alone. A step tells
  of a wish to quit, of a key that it stores, or of the word
  it is about to carry out and then of whatever comes of it.

  Key definitions include:
    * `ChipEight.Record.isAside`
    * `ChipEight.Engine.parting`
    * `ChipEight.Engine.complaint`
    * `ChipEight.Session.told`
    * `ChipEight.Session.decoded?`
    * `ChipEight.Session.toldAmong`
    * `ChipEight.Session.toldOf`

  Main declarations:
    * `ChipEight.Session.log_step`
    * `ChipEight.Session.told_of_decoded`
    * `ChipEight.Session.log_makeAll`
    * `ChipEight.Session.log_obey`
-/

namespace ChipEight

------------------------------------------------------------
-- Records Of Engines
------------------------------------------------------------

/-
  Whether an engine tells a record besides the words that it
  carries out. What the host tells is no such record.
-/
def Record.isAside : Record → Bool
  | .executing _ => false
  | .closing => false
  | .frameLost _ => false
  | _ => true

namespace Engine

/- What the log is told when an engine is to halt. -/
def parting (e : Engine) : List Record :=
  if e.isHalted then
    []
  else
    [.halted e.machine.processor.pc]

/- What the log is told of a fault. -/
def complaint
    (e : Engine)
    (fault : Fault) : List Record :=
  .faulted fault e.machine.snapshot :: e.parting

/- The word at the program counter, as a line. -/
def line (e : Engine) : Line where
  address := e.machine.processor.pc
  word := e.machine.fetch

/- Halting is told aside. -/
theorem isAside_of_mem_parting
    {e : Engine}
    {record : Record}
    (h : record ∈ e.parting) :
    record.isAside = true := by
  unfold parting at h
  split at h
  · cases h
  · cases List.mem_singleton.mp h
    rfl

/- So is a fault. -/
theorem isAside_of_mem_complaint
    {e : Engine}
    {fault : Fault}
    {record : Record}
    (h : record ∈ e.complaint fault) :
    record.isAside = true := by
  rcases List.mem_cons.mp h with rfl | hParting
  · rfl
  · exact isAside_of_mem_parting hParting

end Engine

/- What is told in passing, to warn or to debug, is aside. -/
theorem Record.isAside_of_level
    {record : Record}
    (h : record.level = .warn ∨ record.level = .debug) :
    record.isAside = true := by
  cases record with
  | executing line => simp [level] at h
  | closing => simp [level] at h
  | frameLost reason => simp [level] at h
  | _ => rfl

/- Writes that are ignored are told in passing. -/
theorem level_of_mem_refusals
    {writes : List (UInt16 × UInt8)}
    {record : Record}
    (h : record ∈ refusals writes) :
    record.level = .warn ∨ record.level = .debug := by
  rcases List.mem_map.mp h with ⟨write, _, rfl⟩
  exact Or.inl rfl

/- So is what an instruction remarks. -/
theorem Machine.level_of_mem_remarks
    {m : Machine}
    {instruction : Instruction}
    {record : Record}
    (h : record ∈ m.remarks instruction) :
    record.level = .warn ∨ record.level = .debug := by
  cases instruction with
  | hostRoutine target =>
      cases List.mem_singleton.mp h
      exact Or.inr rfl
  | _ => exact level_of_mem_refusals h

namespace Aftermath

/- What the log is told after an instruction. -/
def told : Aftermath → List Record
  | .awaitKey x => [.keyAwaited x]
  | _ => []

/- This, too, is told in passing. -/
theorem level_of_mem_told
    {aftermath : Aftermath}
    {record : Record}
    (h : record ∈ aftermath.told) :
    record.level = .warn ∨ record.level = .debug := by
  cases aftermath with
  | goOn => cases h
  | showFrame => cases h
  | awaitKey x =>
      cases List.mem_singleton.mp h
      exact Or.inr rfl

end Aftermath

namespace Session

variable {κ : Type}

------------------------------------------------------------
-- Parts Of A Step
------------------------------------------------------------

/- An engine that is to halt tells of it once. -/
theorem log_halt (s : Session κ) :
    s.halt.log.toList =
      s.log.toList ++ s.engine.parting := by
  cases h : s.engine.isHalted with
  | true =>
      rw [halt_of_halted h, Engine.parting, if_pos h,
        List.append_nil]
  | false =>
      have hNot : ¬ s.engine.isHalted = true := by
        simp [h]
      rw [halt_of_not_halted h, Engine.parting, if_neg hNot]
      exact Array.toList_push

/- A crash tells of its fault. -/
theorem log_crash
    (s : Session κ)
    (fault : Fault) :
    (s.crash fault).log.toList =
      s.log.toList ++ s.engine.complaint fault := by
  unfold crash
  rw [log_halt, log_note, Array.toList_push,
    List.append_assoc]
  rfl

/- Following the sound timer is not told to the log. -/
@[simp]
theorem log_followTone (s : Session κ) :
    s.followTone.log = s.log := by
  by_cases h :
      s.engine.machine.timers.audible = s.engine.toneOn
  · rw [followTone_of_same h]
  · rw [followTone_of_change h]

/- Nor is a tick. -/
@[simp]
theorem log_tick (s : Session κ) :
    s.tick.log = s.log := by
  cases h : s.engine.isHalted with
  | true => rw [tick_of_halted h]
  | false =>
      rw [tick_of_not_halted h, log_followTone]
      rfl

variable [Controls κ]

/- Nor is a question about a key. -/
@[simp]
theorem log_askFor
    (s : Session κ)
    (instruction : Instruction) :
    (s.askFor instruction).2.log = s.log := by
  unfold askFor
  cases s.engine.machine.keyAsked? instruction with
  | none => rfl
  | some key => rfl

/- A wait that begins is told. -/
theorem log_attend
    (s : Session κ)
    (aftermath : Aftermath) :
    (s.attend aftermath).log.toList =
      s.log.toList ++ aftermath.told := by
  cases aftermath with
  | goOn => exact (List.append_nil _).symm
  | showFrame => exact (List.append_nil _).symm
  | awaitKey x => exact Array.toList_push

/- What is told of an instruction that is carried out. -/
def toldBy
    (s : Session κ)
    (instruction : Instruction) : List Record :=
  match s.attempt instruction with
  | .error fault => s.engine.complaint fault
  | .ok _ =>
      s.engine.machine.remarks instruction ++
        instruction.aftermath.told

/- What comes of an instruction is no matter of the log. -/
theorem attempt_note
    (s : Session κ)
    (record : Record)
    (instruction : Instruction) :
    (s.note record).attempt instruction =
      s.attempt instruction := by
  unfold attempt askFor
  rw [engine_note]
  cases s.engine.machine.keyAsked? instruction with
  | none => rfl
  | some key => rfl

/- Nor is what is told of it. -/
theorem toldBy_note
    (s : Session κ)
    (record : Record)
    (instruction : Instruction) :
    (s.note record).toldBy instruction =
      s.toldBy instruction := by
  rw [toldBy, attempt_note]
  rfl

/- It is told aside. -/
theorem isAside_of_mem_toldBy
    {s : Session κ}
    {instruction : Instruction}
    {record : Record}
    (h : record ∈ s.toldBy instruction) :
    record.isAside = true := by
  unfold toldBy at h
  split at h
  · exact Engine.isAside_of_mem_complaint h
  · apply Record.isAside_of_level
    rcases List.mem_append.mp h with hRemark | hTold
    · exact Machine.level_of_mem_remarks hRemark
    · exact Aftermath.level_of_mem_told hTold

/- It is all that the log is told. -/
theorem log_perform
    (s : Session κ)
    (instruction : Instruction) :
    (s.perform instruction).1.log.toList =
      s.log.toList ++ s.toldBy instruction := by
  unfold toldBy
  cases hRun : s.attempt instruction with
  | error fault =>
      rw [perform_of_error hRun, log_crash, log_askFor,
        engine_askFor]
  | ok after =>
      rw [perform_of_ok hRun, log_followTone, log_attend]
      change
        ((s.askFor instruction).2.noteAll _).log.toList ++ _ =
          _
      rw [log_noteAll, log_askFor, List.append_assoc]

/- What is told of a word that is carried out. -/
def toldInWord (s : Session κ) : List Record :=
  match Instruction.decode? s.engine.machine.fetch with
  | none =>
      s.engine.complaint
        (.undefinedWord s.engine.machine.fetch
          s.engine.machine.processor.pc)
  | some instruction =>
      .executing s.engine.line :: s.toldBy instruction

/- It is all that the log is told. -/
theorem log_runWord (s : Session κ) :
    s.runWord.1.log.toList =
      s.log.toList ++ s.toldInWord := by
  unfold toldInWord
  cases hWord :
      Instruction.decode? s.engine.machine.fetch with
  | none =>
      rw [runWord_of_none hWord, log_crash]
  | some instruction =>
      rw [runWord_of_some hWord, log_perform, log_note,
        toldBy_note, Array.toList_push, List.append_assoc]
      rfl

------------------------------------------------------------
-- Steps And Beats
------------------------------------------------------------

/- What a step tells the log. -/
def told (s : Session κ) : List Record :=
  match s.engine.mode with
  | .halted => []
  | mode =>
      if s.askQuit.1 then
        .quitRequested :: s.engine.parting
      else
        match mode with
        | .awaitingKey x =>
            (s.askQuit.2.takePress.1.map
              (fun key => .keyStored key x)).toList
        | _ => s.askQuit.2.toldInWord

/- A halted engine tells nothing. -/
theorem told_of_halted
    {s : Session κ}
    (h : s.engine.isHalted = true) :
    s.told = [] := by
  rw [told, Engine.isHalted_iff.mp h]

/- A wish to quit is told, and that the engine halts. -/
theorem told_of_quit
    {s : Session κ}
    (h : s.engine.isHalted = false)
    (hQuit : s.askQuit.1 = true) :
    s.told = .quitRequested :: s.engine.parting := by
  have hMode := Engine.isHalted_eq_false_iff.mp h
  unfold told
  cases hCase : s.engine.mode with
  | running => exact if_pos hQuit
  | awaitingKey x => exact if_pos hQuit
  | halted => exact absurd hCase hMode

/- A key that ends a wait is told. -/
theorem told_of_awaiting
    {s : Session κ}
    {x : Register}
    (h : s.engine.mode = .awaitingKey x)
    (hQuit : s.askQuit.1 = false) :
    s.told =
      (s.askQuit.2.takePress.1.map
        (fun key => .keyStored key x)).toList := by
  simp only [told, h, hQuit, Bool.false_eq_true, if_false]

/- A running engine tells of its word. -/
theorem told_of_running
    {s : Session κ}
    (h : s.engine.mode = .running)
    (hQuit : s.askQuit.1 = false) :
    s.told = s.askQuit.2.toldInWord := by
  simp only [told, h, hQuit, Bool.false_eq_true, if_false]

/- This is all that a step tells the log. -/
theorem log_step (s : Session κ) :
    s.step.1.log.toList = s.log.toList ++ s.told := by
  have hAsk : s.askQuit.2.log = s.log := rfl
  rcases s.step_cases with
    ⟨hHalted, hStep⟩ | ⟨hNot, hQuit, hStep⟩ |
      ⟨x, hMode, hQuit, hStep⟩ | ⟨hMode, hQuit, hStep⟩
  · rw [hStep, told_of_halted hHalted, List.append_nil]
  · rw [hStep, told_of_quit hNot hQuit, log_halt, log_note,
      hAsk, Array.toList_push, List.append_assoc]
    rfl
  · rw [hStep, told_of_awaiting hMode hQuit]
    cases hPress : s.askQuit.2.takePress.1 with
    | none =>
        rw [receiveKey_of_none hPress]
        exact (List.append_nil _).symm
    | some key =>
        rw [receiveKey_of_some hPress]
        exact Array.toList_push
  · rw [hStep, told_of_running hMode hQuit, log_runWord,
      hAsk]

/-
  The instruction that a step decodes, if any: the engine
  runs, the player does not quit and the word names one.
-/
def decoded? (s : Session κ) : Option Instruction :=
  if s.engine.mode = .running ∧
      (Controls.wantsQuit s.controls).1 = false then
    Instruction.decode? s.engine.machine.fetch
  else
    none

/- A step decodes its word if nothing else is to be done. -/
theorem decoded?_eq_some_iff
    {s : Session κ}
    {instruction : Instruction} :
    s.decoded? = some instruction ↔
      s.engine.mode = .running ∧
        (Controls.wantsQuit s.controls).1 = false ∧
        Instruction.decode? s.engine.machine.fetch =
          some instruction := by
  rw [decoded?, Option.ite_none_right_eq_some, and_assoc]

/- A word that is decoded is told, and then asides. -/
theorem told_of_decoded
    {s : Session κ}
    {instruction : Instruction}
    (h : s.decoded? = some instruction) :
    s.told =
      .executing s.engine.line ::
        s.askQuit.2.toldBy instruction := by
  rcases decoded?_eq_some_iff.mp h with ⟨hMode, hQuit, hWord⟩
  rw [told_of_running hMode hQuit, toldInWord, engine_askQuit,
    hWord]

/- Without such a word, only asides are told. -/
theorem isAside_of_mem_told
    {s : Session κ}
    {record : Record}
    (hNone : s.decoded? = none)
    (h : record ∈ s.told) :
    record.isAside = true := by
  rcases s.step_cases with
    ⟨hHalted, _⟩ | ⟨hNot, hQuit, _⟩ | ⟨x, hMode, hQuit, _⟩ |
      ⟨hMode, hQuit, _⟩
  · rw [told_of_halted hHalted] at h
    cases h
  · rw [told_of_quit hNot hQuit] at h
    rcases List.mem_cons.mp h with rfl | hParting
    · rfl
    · exact Engine.isAside_of_mem_parting hParting
  · rw [told_of_awaiting hMode hQuit] at h
    rcases Option.map_eq_some_iff.mp
        (Option.mem_toList.mp h) with
      ⟨key, _, rfl⟩
    rfl
  · have hWord :
        Instruction.decode? s.engine.machine.fetch = none :=
      (if_pos ⟨hMode, hQuit⟩).symm.trans hNone
    rw [told_of_running hMode hQuit, toldInWord,
      engine_askQuit, hWord] at h
    exact Engine.isAside_of_mem_complaint h

/- What a beat tells the log. -/
def toldIn
    (s : Session κ) : Beat → List Record
  | .cycle => s.told
  | .tick => []

/- What beats tell the log that are made in turn. -/
def toldAmong
    (s : Session κ) : List Beat → List Record
  | [] => []
  | beat :: rest =>
      s.toldIn beat ++ (s.make beat).1.toldAmong rest

/- A beat tells no more. -/
theorem log_make
    (s : Session κ)
    (beat : Beat) :
    (s.make beat).1.log.toList =
      s.log.toList ++ s.toldIn beat := by
  cases beat with
  | cycle => exact s.log_step
  | tick =>
      rw [make, log_tick]
      exact (List.append_nil _).symm

/- Nor do beats that are made in turn. -/
theorem log_makeAll
    (s : Session κ)
    (beats : List Beat) :
    (s.makeAll beats).1.log.toList =
      s.log.toList ++ s.toldAmong beats := by
  induction beats generalizing s with
  | nil => exact (List.append_nil _).symm
  | cons beat rest ih =>
      rw [makeAll_cons, ih, log_make, toldAmong,
        List.append_assoc]

/- Beats tell nothing behind the one that halts the engine. -/
theorem toldAmong_untilHalted
    (s : Session κ)
    (beats : List Beat) :
    s.toldAmong (s.untilHalted beats) =
      s.toldAmong beats := by
  have hLog := s.log_makeAll beats
  rw [← makeAll_untilHalted, log_makeAll] at hLog
  exact List.append_cancel_left hLog

/- What beats tell are words and asides. -/
theorem isAside_or_of_mem_toldAmong
    {s : Session κ}
    {beats : List Beat}
    {record : Record}
    (h : record ∈ s.toldAmong beats) :
    record.isAside = true ∨
      ∃ line, record = .executing line := by
  induction beats generalizing s with
  | nil => cases h
  | cons beat rest ih =>
      rcases List.mem_append.mp h with hBeat | hRest
      · cases beat with
        | tick => cases hBeat
        | cycle =>
            change record ∈ s.told at hBeat
            cases hWord : s.decoded? with
            | none =>
                exact Or.inl (isAside_of_mem_told hWord hBeat)
            | some instruction =>
                rw [told_of_decoded hWord] at hBeat
                rcases List.mem_cons.mp hBeat with
                  hFirst | hAside
                · exact Or.inr ⟨_, hFirst⟩
                · exact
                    Or.inl (isAside_of_mem_toldBy hAside)
      · exact ih hRest

------------------------------------------------------------
-- Commands
------------------------------------------------------------

/- What a command tells the log. -/
def toldOf
    (s : Session κ) : Command → List Record
  | .load program =>
      match s.engine.machine.memory.loadProgram program with
      | .error fault => s.engine.complaint fault
      | .ok _ => [.programLoaded program.length]
  | .step => s.told
  | .tick => []
  | .advance elapsed =>
      s.toldAmong
        (s.engine.clocks.collect
          (min elapsed longestLapse)).due
  | .halt => s.engine.parting
  | .reseed _ => []

/- Clocks are no part of the log. -/
omit [Controls κ] in
theorem SameButClocks.log_eq
    {s t : Session κ}
    (h : s.SameButClocks t) :
    s.log = t.log := by
  rw [← h]
  rfl

/- While time passes, the log is told of the beats due. -/
theorem log_advance
    (s : Session κ)
    (elapsed : Nat) :
    (s.advance elapsed).1.log.toList =
      s.log.toList ++ s.toldOf (.advance elapsed) := by
  rw [(s.makesDue_advance elapsed).session.log_eq]
  exact s.log_makeAll _

/- A command tells no more. -/
theorem log_obey
    (s : Session κ)
    (command : Command) :
    (s.obey command).1.log.toList =
      s.log.toList ++ s.toldOf command := by
  cases command with
  | load program =>
      change (s.load program).1.log.toList = _
      cases hLoad :
          s.engine.machine.memory.loadProgram program with
      | error fault =>
          rw [load_of_error hLoad, log_crash, toldOf, hLoad]
      | ok memory =>
          rw [load_of_ok hLoad, toldOf, hLoad]
          exact Array.toList_push
  | step => exact s.log_step
  | tick =>
      change s.tick.log.toList = _
      rw [log_tick]
      exact (List.append_nil _).symm
  | advance elapsed => exact s.log_advance elapsed
  | halt => exact s.log_halt
  | reseed seed => exact (List.append_nil _).symm

end Session

end ChipEight
