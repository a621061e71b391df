import ChipEight.Proofs.Schedule.Beats
import ChipEight.Proofs.Session.Outcome
import ChipEight.Proofs.Session.Reachable

/-
  Runs of an engine, with all that it said and did.

  A run remembers everything that was exchanged with the
  console since the engine was switched on, and every word
  that was carried out. What the console has to do with is
  the picture, the timers and the tone alone, so a property
  of these, of the talk and of the deeds holds throughout if
  it survives questions, instructions and ticks.

  Key definitions include:
    * `ChipEight.Face`
    * `ChipEight.Session.deedsOf`
    * `ChipEight.Engine.Run`
    * `ChipEight.Kept`

  Main declarations:
    * `ChipEight.Engine.Run.makeAll`
    * `ChipEight.Kept.outcome`
    * `ChipEight.Kept.run`
-/

namespace ChipEight

------------------------------------------------------------
-- Faces
------------------------------------------------------------

/- What the console has to do with of an engine. -/
structure Face where
  frame : Frame
  timers : Timers
  toneOn : Bool

/- The face of an engine. -/
def Engine.face (e : Engine) : Face where
  frame := e.machine.frame
  timers := e.machine.timers
  toneOn := e.toneOn

/- The face of a machine whose tone is as it should be. -/
def Machine.face (m : Machine) : Face where
  frame := m.frame
  timers := m.timers
  toneOn := m.timers.audible

/- Whether an exchange was a question. -/
def Exchange.isQuestion : Exchange → Bool
  | .quitAsked _ => true
  | .keyAsked _ _ => true
  | .pressTaken _ => true
  | _ => false

/- Instructions ask questions only. -/
theorem Machine.isQuestion_of_mem_asks
    {m : Machine}
    {instruction : Instruction}
    {held : Bool}
    {x : Exchange}
    (h : x ∈ m.asks instruction held) :
    x.isQuestion = true := by
  unfold asks at h
  cases hKey : m.keyAsked? instruction with
  | none =>
      rw [hKey] at h
      cases h
  | some key =>
      rw [hKey] at h
      cases List.mem_singleton.mp h
      rfl

namespace Session

variable {κ : Type}

/- Halting does not change the face. -/
theorem face_halt (s : Session κ) :
    s.halt.engine.face = s.engine.face := by
  rw [engine_halt]
  rfl

/- Loading does not change the face, even if it faults. -/
theorem face_load
    (s : Session κ)
    (program : List UInt8) :
    (s.load program).1.engine.face = s.engine.face ∧
      (s.load program).1.exchanges = s.exchanges := by
  cases hLoad :
      s.engine.machine.memory.loadProgram program with
  | error fault =>
      rw [load_of_error hLoad]
      constructor
      · rw [engine_crash]
        rfl
      · exact exchanges_crash s fault
  | ok memory =>
      rw [load_of_ok hLoad]
      exact ⟨rfl, rfl⟩

/- Clocks are no part of a face, nor of what was said. -/
theorem SameButClocks.face_eq
    {s t : Session κ}
    (h : s.SameButClocks t) :
    s.engine.face = t.engine.face ∧
      s.exchanges = t.exchanges := by
  rw [← h]
  exact ⟨rfl, rfl⟩

------------------------------------------------------------
-- Deeds
------------------------------------------------------------

variable [Controls κ]

/- What a beat carries out, if anything. -/
def deedOf?
    (s : Session κ) : Beat → Option Deed
  | .cycle => s.deed?
  | .tick => none

/- What beats carry out that are made in turn. -/
def deedsAmong
    (s : Session κ) : List Beat → List Deed
  | [] => []
  | beat :: rest =>
      (s.deedOf? beat).toList ++
        (s.make beat).1.deedsAmong rest

/- What a command carries out. -/
def deedsOf
    (s : Session κ) : Command → List Deed
  | .step => s.deed?.toList
  | .advance elapsed =>
      s.deedsAmong
        (s.engine.clocks.collect
          (min elapsed longestLapse)).due
  | _ => []

end Session

------------------------------------------------------------
-- Runs
------------------------------------------------------------

/-
  Whether commands lead to an engine, with all that was
  exchanged and carried out on the way. As many kinds of
  controls may take part as there are commands.
-/
inductive Engine.Run :
    Engine → List Exchange → List Deed → Prop where
  /- No command was given yet. -/
  | switchedOn
      (rates : Rates)
      (generator : Generator) :
      Run (Engine.switchedOn rates generator) [] []
  /- A command was obeyed, with controls of any kind. -/
  | obey
      {κ : Type}
      [Controls κ]
      (s : Session κ)
      (command : Command)
      {deeds : List Deed} :
      Run s.engine s.exchanges.toList deeds →
        Run (s.obey command).1.engine
          (s.obey command).1.exchanges.toList
          (deeds ++ s.deedsOf command)

/- A run starts with nothing said and nothing done. -/
theorem Engine.Run.initial
    {κ : Type}
    (rates : Rates)
    (generator : Generator)
    (controls : κ) :
    let s :=
      Session.initial
        (Engine.switchedOn rates generator) controls
    s.engine.Run s.exchanges.toList [] :=
  .switchedOn rates generator

/- Beats that are made in turn are commands of a run. -/
theorem Engine.Run.makeAll
    {κ : Type}
    [Controls κ]
    {s : Session κ}
    {deeds : List Deed}
    (h : s.engine.Run s.exchanges.toList deeds)
    (beats : List Beat) :
    (s.makeAll beats).1.engine.Run
      (s.makeAll beats).1.exchanges.toList
      (deeds ++ s.deedsAmong beats) := by
  induction beats generalizing s deeds with
  | nil =>
      rw [Session.deedsAmong, List.append_nil]
      exact h
  | cons beat rest ih =>
      rw [Session.makeAll_cons, Session.deedsAmong,
        ← List.append_assoc]
      apply ih
      cases beat with
      | cycle => exact .obey s .step h
      | tick => exact .obey s .tick h

------------------------------------------------------------
-- Properties Of Runs
------------------------------------------------------------

/-
  What is to be shown of a property of the face, the talk and
  the deeds: that it holds at the start, and that questions,
  instructions and ticks keep it.
-/
structure Kept
    (holds : Face → List Exchange → List Deed → Prop) :
    Prop where
  start :
    holds (Machine.initial 0).face [] []
  asks
    {face : Face}
    {talk asked : List Exchange}
    {deeds : List Deed} :
    holds face talk deeds →
      (∀ x ∈ asked, x.isQuestion = true) →
        holds face (talk ++ asked) deeds
  carries
    {e : Engine}
    {instruction : Instruction}
    {held : Bool}
    {after : Machine}
    {talk : List Exchange}
    {deeds : List Deed}
    (press : Option UInt8) :
    Instruction.decode? e.machine.fetch =
        some instruction →
      e.machine.passWord.execute held instruction =
          .ok after →
        holds e.face talk deeds →
          holds after.face
            (talk ++
              (instruction.aftermath.tells after press ++
                toneSwitch e.toneOn after.timers.audible))
            (deeds ++
              [{ word := e.machine.fetch
                 after := after }])
  ticks
    {e : Engine}
    {talk : List Exchange}
    {deeds : List Deed} :
    holds e.face talk deeds →
      let timers := e.machine.timers.tick
      holds { e.machine with timers := timers }.face
        (talk ++ toneSwitch e.toneOn timers.audible)
        deeds

namespace Kept

variable {holds : Face → List Exchange → List Deed → Prop}
variable (hKept : Kept holds)
include hKept

/- Whatever course a step takes, the property is kept. -/
theorem outcome
    {e left : Engine}
    {talk new : List Exchange}
    {deeds : List Deed}
    {deed : Option Deed}
    {fault : Option Fault}
    (h : holds e.face talk deeds)
    (hOutcome : e.Outcome left new deed fault) :
    holds left.face (talk ++ new)
      (deeds ++ deed.toList) := by
  cases hOutcome with
  | halted hMode =>
      rw [List.append_nil, Option.toList_none,
        List.append_nil]
      exact h
  | quit hMode =>
      rw [Option.toList_none, List.append_nil]
      exact hKept.asks h (by simp [Exchange.isQuestion])
  | waits x hMode =>
      rw [Option.toList_none, List.append_nil]
      exact hKept.asks h (by simp [Exchange.isQuestion])
  | receives x key hMode =>
      rw [Option.toList_none, List.append_nil]
      exact hKept.asks h (by simp [Exchange.isQuestion])
  | faults met hMode =>
      rw [Option.toList_none, List.append_nil]
      exact hKept.asks h (by simp [Exchange.isQuestion])
  | carries instruction held press after hMode hWord hRun =>
      have hAsked :
          holds e.face
            (talk ++
              (.quitAsked false ::
                e.machine.asks instruction held))
            deeds := by
        apply hKept.asks h
        intro x hMem
        rcases List.mem_cons.mp hMem with rfl | hMem
        · rfl
        · exact Machine.isQuestion_of_mem_asks hMem
      have hCarried :=
        hKept.carries press hWord hRun hAsked
      rw [List.append_assoc, List.cons_append,
        ← List.append_assoc (e.machine.asks _ _)] at hCarried
      exact hCarried

variable {κ : Type} [Controls κ]
variable {s : Session κ} {deeds : List Deed}

/- A beat keeps the property. -/
theorem make
    (h : holds s.engine.face s.exchanges.toList deeds)
    (beat : Beat) :
    holds (s.make beat).1.engine.face
      (s.make beat).1.exchanges.toList
      (deeds ++ (s.deedOf? beat).toList) := by
  cases beat with
  | cycle =>
      rcases s.outcome_step with
        ⟨talk, hExchanges, hOutcome⟩
      change holds s.step.1.engine.face
        s.step.1.exchanges.toList (deeds ++ s.deed?.toList)
      rw [hExchanges]
      exact hKept.outcome h hOutcome
  | tick =>
      change holds s.tick.engine.face
        s.tick.exchanges.toList (deeds ++ [])
      rw [List.append_nil]
      cases hHalted : s.engine.isHalted with
      | true =>
          rw [Session.tick_of_halted hHalted]
          exact h
      | false =>
          rcases Session.exchanges_tick hHalted with
            ⟨hEngine, hExchanges⟩
          rw [hEngine, hExchanges]
          exact hKept.ticks h

/- Beats that are made in turn keep the property. -/
theorem makeAll
    (h : holds s.engine.face s.exchanges.toList deeds)
    (beats : List Beat) :
    holds (s.makeAll beats).1.engine.face
      (s.makeAll beats).1.exchanges.toList
      (deeds ++ s.deedsAmong beats) := by
  induction beats generalizing s deeds with
  | nil =>
      rw [Session.deedsAmong, List.append_nil]
      exact h
  | cons beat rest ih =>
      rw [Session.makeAll_cons, Session.deedsAmong,
        ← List.append_assoc]
      exact ih (hKept.make h beat)

/- Time that passes keeps the property. -/
theorem advance
    (h : holds s.engine.face s.exchanges.toList deeds)
    (elapsed : Nat) :
    holds (s.advance elapsed).1.engine.face
      (s.advance elapsed).1.exchanges.toList
      (deeds ++ s.deedsOf (.advance elapsed)) := by
  rcases (s.makesDue_advance elapsed).session.face_eq with
    ⟨hFace, hExchanges⟩
  rw [hFace, hExchanges]
  exact hKept.makeAll h _

/- Every command keeps the property. -/
theorem obey
    (h : holds s.engine.face s.exchanges.toList deeds)
    (command : Command) :
    holds (s.obey command).1.engine.face
      (s.obey command).1.exchanges.toList
      (deeds ++ s.deedsOf command) := by
  cases command with
  | load program =>
      rcases s.face_load program with ⟨hFace, hExchanges⟩
      change holds (s.load program).1.engine.face
        (s.load program).1.exchanges.toList (deeds ++ [])
      rw [hFace, hExchanges, List.append_nil]
      exact h
  | step => exact hKept.make h .cycle
  | tick => exact hKept.make h .tick
  | advance elapsed => exact hKept.advance h elapsed
  | halt =>
      change holds s.halt.engine.face
        s.halt.exchanges.toList (deeds ++ [])
      rw [s.face_halt, s.exchanges_halt, List.append_nil]
      exact h
  | reseed seed =>
      change holds s.engine.face s.exchanges.toList
        (deeds ++ [])
      rw [List.append_nil]
      exact h

omit [Controls κ] in
/- The property holds at the end of every run. -/
theorem run
    {e : Engine}
    {talk : List Exchange}
    (h : e.Run talk deeds) :
    holds e.face talk deeds := by
  induction h with
  | switchedOn rates generator => exact hKept.start
  | obey s command _ ih => exact hKept.obey ih command

end Kept

end ChipEight
