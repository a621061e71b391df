import ChipEight.Proofs.Machine.Listing
import ChipEight.Proofs.Session.Moves
import ChipEight.Proofs.Session.Sound
import ChipEight.Proofs.Session.Telling

/-
  The trace of a run.

  A step writes a record into the trace if it decodes a word,
  before it carries the word out, and no other record of an
  engine belongs there. So the trace is the list of all words
  that were carried out or faulted, each as a listing of the
  program would have shown it just then.

  Key definitions include:
    * `ChipEight.tracesOf`
    * `ChipEight.Session.announced?`
    * `ChipEight.Session.announcing`
    * `ChipEight.Session.stepsOf`
    * `ChipEight.Session.stepsAlong`
    * `ChipEight.Session.Announces`

  Main declarations:
    * `ChipEight.Session.tracesOf_told`
    * `ChipEight.Session.tracesOf_toldOf`
    * `ChipEight.Session.tracesOf_followAll`
    * `ChipEight.Session.announces_of_sound`
-/

namespace ChipEight

------------------------------------------------------------
-- Traces
------------------------------------------------------------

/- The records of a log that belong to its trace. -/
def tracesOf (log : List Record) : List Record :=
  log.filter (fun record => record.level = .trace)

/- A trace is found in parts. -/
theorem tracesOf_append (first second : List Record) :
    tracesOf (first ++ second) =
      tracesOf first ++ tracesOf second :=
  List.filter_append first second

/- What is told aside is no part of a trace. -/
theorem tracesOf_of_isAside
    {log : List Record}
    (h : ∀ record ∈ log, record.isAside = true) :
    tracesOf log = [] := by
  apply List.filter_eq_nil_iff.mpr
  intro record hMem
  have hAside := h record hMem
  cases record with
  | executing line => cases hAside
  | _ => simp [Record.level]

/- A word that is told is, and comes before what follows. -/
theorem tracesOf_executing
    (line : Line)
    (log : List Record) :
    tracesOf (.executing line :: log) =
      .executing line :: tracesOf log :=
  rfl

namespace Session

variable {κ : Type} [Controls κ]

------------------------------------------------------------
-- Steps
------------------------------------------------------------

/- The record that a step writes into the trace, if any. -/
def announced? (s : Session κ) : Option Record :=
  s.decoded?.map (fun _ => .executing s.engine.line)

/- The session in which a decoded word is carried out. -/
def announcing (s : Session κ) : Session κ :=
  s.askQuit.2.note (.executing s.engine.line)

/- A step carries out the word it has announced. -/
theorem step_of_decoded
    {s : Session κ}
    {instruction : Instruction}
    (h : s.decoded? = some instruction) :
    s.step = s.announcing.perform instruction := by
  rcases decoded?_eq_some_iff.mp h with ⟨hMode, hQuit, hWord⟩
  rw [step_of_running hMode hQuit]
  exact runWord_of_some hWord

/- What comes of the word is no part of the trace. -/
theorem tracesOf_toldBy
    (s : Session κ)
    (instruction : Instruction) :
    tracesOf (s.toldBy instruction) = [] := by
  apply tracesOf_of_isAside
  intro record hMem
  exact isAside_of_mem_toldBy hMem

/- A step traces what it announces, and no more. -/
theorem tracesOf_told (s : Session κ) :
    tracesOf s.told = s.announced?.toList := by
  unfold announced?
  cases hWord : s.decoded? with
  | none =>
      apply tracesOf_of_isAside
      intro record hMem
      exact isAside_of_mem_told hWord hMem
  | some instruction =>
      rw [told_of_decoded hWord, tracesOf_executing,
        tracesOf_toldBy]
      rfl

------------------------------------------------------------
-- Steps Of A Run
------------------------------------------------------------

/- The sessions in which beats take their steps. -/
def stepsAmong
    (s : Session κ) : List Beat → List (Session κ)
  | [] => []
  | .cycle :: rest => s :: s.step.1.stepsAmong rest
  | .tick :: rest => s.tick.stepsAmong rest

/-
  The sessions in which a command takes steps. Time that
  passes makes none once the engine has halted.
-/
def stepsOf
    (s : Session κ) : Command → List (Session κ)
  | .step => [s]
  | .advance elapsed =>
      s.stepsAmong
        (s.untilHalted
          (s.engine.clocks.collect
            (min elapsed longestLapse)).due)
  | _ => []

/- The sessions in which moves take steps, made in turn. -/
def stepsAlong
    (s : Session κ) : List (Move κ) → List (Session κ)
  | [] => []
  | m :: rest =>
      (s.worked m.hand).stepsOf m.command ++
        (s.follow m).1.stepsAlong rest

/- What steps announce is found step by step. -/
theorem filterMap_announced?_cons
    (s : Session κ)
    (rest : List (Session κ)) :
    (s :: rest).filterMap announced? =
      s.announced?.toList ++ rest.filterMap announced? := by
  cases h : s.announced? with
  | none => exact List.filterMap_cons_none h
  | some record => exact List.filterMap_cons_some h

/- Beats trace what their steps announce. -/
theorem tracesOf_toldAmong
    (s : Session κ)
    (beats : List Beat) :
    tracesOf (s.toldAmong beats) =
      (s.stepsAmong beats).filterMap announced? := by
  induction beats generalizing s with
  | nil => rfl
  | cons beat rest ih =>
      rw [toldAmong, tracesOf_append, ih]
      cases beat with
      | tick => rfl
      | cycle =>
          rw [toldIn, tracesOf_told, stepsAmong,
            filterMap_announced?_cons]
          rfl

/- So does every command. -/
theorem tracesOf_toldOf
    (s : Session κ)
    (command : Command) :
    tracesOf (s.toldOf command) =
      (s.stepsOf command).filterMap announced? := by
  cases command with
  | load program =>
      rw [toldOf]
      cases s.engine.machine.memory.loadProgram program with
      | error fault =>
          apply tracesOf_of_isAside
          intro record hMem
          exact Engine.isAside_of_mem_complaint hMem
      | ok memory => rfl
  | step =>
      rw [toldOf, tracesOf_told, stepsOf,
        filterMap_announced?_cons]
      exact (List.append_nil _).symm
  | tick => rfl
  | advance elapsed =>
      rw [toldOf, ← toldAmong_untilHalted,
        tracesOf_toldAmong]
      rfl
  | halt =>
      apply tracesOf_of_isAside
      intro record hMem
      exact Engine.isAside_of_mem_parting hMem
  | reseed seed => rfl

/- So do moves that are made in turn. -/
theorem tracesOf_followAll
    (s : Session κ)
    (moves : List (Move κ)) :
    tracesOf (s.followAll moves).1.log.toList =
      tracesOf s.log.toList ++
        (s.stepsAlong moves).filterMap announced? := by
  induction moves generalizing s with
  | nil => exact (List.append_nil _).symm
  | cons m rest ih =>
      rw [followAll_cons, ih, follow, log_obey,
        tracesOf_append, tracesOf_toldOf, stepsAlong,
        List.filterMap_append, List.append_assoc]
      rfl

------------------------------------------------------------
-- Sound Engines
------------------------------------------------------------

/- Beats take their steps in sound engines. -/
theorem sound_of_mem_stepsAmong
    {s t : Session κ}
    (h : s.engine.Sound)
    {beats : List Beat}
    (hMem : t ∈ s.stepsAmong beats) :
    t.engine.Sound := by
  induction beats generalizing s with
  | nil => cases hMem
  | cons beat rest ih =>
      cases beat with
      | tick => exact ih (sound_tick h) hMem
      | cycle =>
          rcases List.mem_cons.mp hMem with rfl | hRest
          · exact h
          · exact ih (sound_step h) hRest

/- So do commands. -/
theorem sound_of_mem_stepsOf
    {s t : Session κ}
    (h : s.engine.Sound)
    {command : Command}
    (hMem : t ∈ s.stepsOf command) :
    t.engine.Sound := by
  cases command with
  | step =>
      cases List.mem_singleton.mp hMem
      exact h
  | advance elapsed => exact sound_of_mem_stepsAmong h hMem
  | _ => cases hMem

/- So do moves that are made in turn. -/
theorem sound_of_mem_stepsAlong
    {s t : Session κ}
    (h : s.engine.Sound)
    {moves : List (Move κ)}
    (hMem : t ∈ s.stepsAlong moves) :
    t.engine.Sound := by
  induction moves generalizing s with
  | nil => cases hMem
  | cons m rest ih =>
      have hWorked : (s.worked m.hand).engine.Sound := h
      rcases List.mem_append.mp hMem with hFirst | hRest
      · exact sound_of_mem_stepsOf hWorked hFirst
      · exact ih (sound_obey hWorked m.command) hRest

------------------------------------------------------------
-- Listings
------------------------------------------------------------

/-
  Where the counter points at a line of the listing, that line
  is the word there. Both read memory as it is then, so it
  does not matter if the program has changed itself.
-/
theorem listing_at_counter
    {e : Engine}
    (h : e.Sound)
    {k : Nat}
    (hCounter :
      e.machine.processor.pc.toNat = 0x200 + 2 * k)
    (hInside : 2 * k < e.programSize) :
    e.listing[k]? = some e.line := by
  have hMod : (0x200 + 2 * k) % 4096 = 0x200 + 2 * k := by
    apply Nat.mod_eq_of_lt
    have hSize := h.programSize
    omega
  have hAddress :
      UInt16.ofNat ((Memory.programStart + 2 * k) % 4096) =
        e.machine.processor.pc := by
    rw [Memory.programStart, hMod, ← hCounter,
      UInt16.ofNat_toNat]
  rw [Engine.listing, Memory.getElem?_disassemble _ hInside,
    hAddress]
  rfl

/-
  What the trace has to do with a step. A step that halts for
  a quit, has to do with a key, meets a word without meaning
  or is one of a halted engine is silent. Any other step notes
  its word first of all, and what follows is told aside.
-/
structure Announces (s : Session κ) : Prop where
  silent :
    s.engine.isHalted = true ∨
        (Controls.wantsQuit s.controls).1 = true ∨
        (∃ x, s.engine.mode = .awaitingKey x) ∨
        Instruction.decode? s.engine.machine.fetch = none →
      s.announced? = none ∧
        ∃ rest,
          s.step.1.log.toList = s.log.toList ++ rest ∧
            tracesOf rest = []
  first :
    ∀ instruction,
      s.engine.mode = .running →
        (Controls.wantsQuit s.controls).1 = false →
          Instruction.decode? s.engine.machine.fetch =
              some instruction →
            s.announced? =
                some (.executing s.engine.line) ∧
              s.announcing.engine = s.engine ∧
              s.announcing.log =
                s.log.push (.executing s.engine.line) ∧
              s.step = s.announcing.perform instruction ∧
              ∃ rest,
                s.step.1.log.toList =
                    s.announcing.log.toList ++ rest ∧
                  tracesOf rest = []
  text :
    ∀ instruction,
      Instruction.decode? s.engine.machine.fetch =
          some instruction →
        s.engine.line.instruction? = some instruction ∧
          (Record.executing s.engine.line).message =
            s.engine.line.text ∧
          s.engine.line.text =
            hex 3 s.engine.machine.processor.pc.toNat ++
              ": " ++
              hex 4 s.engine.machine.fetch.toNat ++
              "  " ++
              instruction.mnemonic
  listed :
    ∀ k,
      s.engine.machine.processor.pc.toNat = 0x200 + 2 * k →
        2 * k < s.engine.programSize →
          s.engine.listing[k]? = some s.engine.line

/- A step of a silent kind decodes nothing. -/
theorem decoded?_eq_none
    {s : Session κ}
    (h :
      s.engine.isHalted = true ∨
        (Controls.wantsQuit s.controls).1 = true ∨
        (∃ x, s.engine.mode = .awaitingKey x) ∨
        Instruction.decode? s.engine.machine.fetch = none) :
    s.decoded? = none := by
  cases hWord : s.decoded? with
  | none => rfl
  | some instruction =>
      rcases decoded?_eq_some_iff.mp hWord with
        ⟨hMode, hQuit, hSome⟩
      rcases h with hHalted | hWants | ⟨x, hAwaiting⟩ | hNone
      · rw [Engine.isHalted_iff.mp hHalted] at hMode
        cases hMode
      · rw [hQuit] at hWants
        cases hWants
      · rw [hAwaiting] at hMode
        cases hMode
      · rw [hSome] at hNone
        cases hNone

/- This is how every step of a sound engine is traced. -/
theorem announces_of_sound
    {s : Session κ}
    (h : s.engine.Sound) :
    s.Announces where
  silent := by
    intro hSilent
    have hNone := decoded?_eq_none hSilent
    refine ⟨?_, s.told, s.log_step, ?_⟩
    · rw [announced?, hNone]
      rfl
    · rw [tracesOf_told, announced?, hNone]
      rfl
  first := by
    intro instruction hMode hQuit hWord
    have hDecoded :=
      decoded?_eq_some_iff.mpr ⟨hMode, hQuit, hWord⟩
    have hStep := step_of_decoded hDecoded
    refine
      ⟨?_, rfl, rfl, hStep,
        s.announcing.toldBy instruction, ?_, ?_⟩
    · rw [announced?, hDecoded]
      rfl
    · rw [hStep, log_perform]
    · exact s.announcing.tracesOf_toldBy instruction
  text := by
    intro instruction hWord
    have hMeaning :
        s.engine.line.instruction? = some instruction :=
      hWord
    refine ⟨hMeaning, rfl, ?_⟩
    rw [Line.text, Line.statement, hMeaning]
    rfl
  listed := by
    intro k hCounter hInside
    exact listing_at_counter h hCounter hInside

end Session

end ChipEight
