import ChipEight.Host.Show
import ChipEight.Proofs.Console.Picture
import ChipEight.Proofs.Schedule.Reading
import ChipEight.Proofs.Session.Atomicity
import Mathlib.Data.List.Induction

/-
  Turns of a show, one after another.

  A turn lets time pass for the engine once, and the rest of
  it does not reach the engine. What the engine shows meanwhile
  waits for the end of the turn, where the window is brought up
  to date, so that between turns no picture waits.

  Turns are played until the engine has halted or a step
  faults; what comes behind that is never looked at.

  Key definitions include:
    * `ChipEight.Show.entered`
    * `ChipEight.Show.elapsed`
    * `ChipEight.Show.dueIn`
    * `ChipEight.Show.saidIn`
    * `ChipEight.Show.advanced`
    * `ChipEight.Show.deeds`
    * `ChipEight.Show.StepFaults`

  Main declarations:
    * `ChipEight.Stopwatch.read_pass`
    * `ChipEight.foldl_stage`
    * `ChipEight.Show.turn_eq`
    * `ChipEight.Show.staged_play`
    * `ChipEight.Show.play_append`
    * `ChipEight.Show.period?_play`
    * `ChipEight.Show.play_eq_faulted_iff`
    * `ChipEight.Show.error?_play_eq_some_iff`
-/

namespace ChipEight

------------------------------------------------------------
-- Clock Readings
------------------------------------------------------------

namespace Stopwatch

/- A reading has all the time that has passed since another. -/
theorem read_pass
    (w : Stopwatch)
    (nanos : Nat) :
    (w.pass nanos).read.1 = w.now - w.lastRead + nanos :=
  Nat.sub_add_comm w.lastRead_le

/- So it has at least what passed just now. -/
theorem nanos_le_read_pass
    (w : Stopwatch)
    (nanos : Nat) :
    nanos ≤ (w.pass nanos).read.1 := by
  rw [read_pass]
  exact Nat.le_add_left _ _

end Stopwatch

------------------------------------------------------------
-- Pictures That Wait
------------------------------------------------------------

/- What was exchanged since comes behind what was before. -/
theorem Session.exchangedSince_eq
    {κ : Type}
    {s early : Session κ}
    {talk : List Exchange}
    (h :
      s.exchanges.toList = early.exchanges.toList ++ talk) :
    s.exchangedSince early = talk := by
  rw [exchangedSince, h]
  exact List.drop_left

/- Of all pictures that are shown, the last one waits. -/
theorem foldl_stage
    (talk : List Exchange)
    (staged : Option Frame) :
    talk.foldl Exchange.stage staged =
      (picturesOf talk).getLast?.or staged := by
  induction talk using List.reverseRecOn with
  | nil => rfl
  | append_singleton rest e ih =>
      rw [List.foldl_append, ih, picturesOf_append,
        List.getLast?_append]
      cases e with
      | _ => rfl

namespace Show

/- Once the window is brought up to date, no picture waits. -/
@[simp]
theorem staged_flush
    (s : Show)
    (failure : Option RenderFailure) :
    (s.flush failure).staged = none := by
  unfold flush
  split
  · rename_i hStaged
    exact hStaged
  · simp only
    split
    · rfl
    · rfl

/- This changes the log of a session only. -/
theorem session_flush
    (s : Show)
    (failure : Option RenderFailure) :
    (s.flush failure).session =
      { s.session with
        log := (s.flush failure).session.log } := by
  unfold flush
  split
  · rfl
  · simp only
    split
    · rfl
    · rfl

/- The rows of textures are padded as before. -/
@[simp]
theorem padding_flush
    (s : Show)
    (failure : Option RenderFailure) :
    (s.flush failure).padding = s.padding := by
  unfold flush
  split
  · rfl
  · simp only
    split
    · rfl
    · rfl

/- It takes no time. -/
@[simp]
theorem watch_flush
    (s : Show)
    (failure : Option RenderFailure) :
    (s.flush failure).watch = s.watch := by
  unfold flush
  split
  · rfl
  · simp only
    split
    · rfl
    · rfl

/- With no picture that waits, all stays as it is. -/
theorem flush_of_unstaged
    {s : Show}
    (h : s.staged = none)
    (failure : Option RenderFailure) :
    s.flush failure = s := by
  rw [flush, h]

------------------------------------------------------------
-- Parts Of A Turn
------------------------------------------------------------

/- The session once the events of a turn are handled. -/
def entered
    (s : Show)
    (t : Turn) : Session Seat :=
  { s.session with controls := s.seated t.events }

/-
  The time that a turn lets pass: by how much the clock shows
  more than when it was read last, at the pace of the seat.
-/
def elapsed
    (s : Show)
    (t : Turn) : Nat :=
  (s.watch.pass t.nanos).read.1 * (s.seated t.events).pace

/- The beats that are due in a turn. -/
def dueIn
    (s : Show)
    (t : Turn) : List Beat :=
  (s.session.engine.clocks.collect
    (min (s.elapsed t) Session.longestLapse)).due

/- What is exchanged while the time of a turn passes. -/
def saidIn
    (s : Show)
    (t : Turn) : List Exchange :=
  ((s.entered t).advance (s.elapsed t)).1.exchangedSince
    (s.entered t)

/-
  The show once the time of a turn has passed: its clock was
  read, and the last picture that was shown waits.
-/
def advanced
    (s : Show)
    (t : Turn) : Show :=
  { s with
    session := ((s.entered t).advance (s.elapsed t)).1
    staged := (s.saidIn t).foldl Exchange.stage s.staged
    watch := (s.watch.pass t.nanos).read.2 }

/-
  A turn lets its time pass, and if no step faults meanwhile,
  it brings the window up to date and sleeps.
-/
theorem turn_eq
    (s : Show)
    (t : Turn) :
    s.turn t =
      match ((s.entered t).advance (s.elapsed t)).2 with
      | some fault => (s.advanced t, some fault)
      | none =>
          (((s.advanced t).flush t.failure).sleep, none) :=
  rfl

/- A turn faults as the time does that passes in it. -/
theorem fault_turn
    (s : Show)
    (t : Turn) :
    (s.turn t).2 =
      ((s.entered t).advance (s.elapsed t)).2 := by
  rw [turn_eq]
  split
  · rename_i fault hFault
    exact hFault.symm
  · rename_i hFault
    exact hFault.symm

/- A turn that faults ends once its time has passed. -/
theorem turn_of_some
    {s : Show}
    {t : Turn}
    {fault : Fault}
    (h : (s.turn t).2 = some fault) :
    (s.turn t).1 = s.advanced t := by
  rw [fault_turn] at h
  rw [turn_eq, h]

/- Any other turn brings the window up to date and sleeps. -/
theorem turn_of_none
    {s : Show}
    {t : Turn}
    (h : (s.turn t).2 = none) :
    (s.turn t).1 = ((s.advanced t).flush t.failure).sleep := by
  rw [fault_turn] at h
  rw [turn_eq, h]

/- A turn that does not fault leaves no picture waiting. -/
theorem staged_turn
    {s : Show}
    {t : Turn}
    (h : (s.turn t).2 = none) :
    (s.turn t).1.staged = none := by
  rw [turn_of_none h]
  exact staged_flush _ _

/- Its session is as time has left it, but for the log. -/
theorem session_turn
    {s : Show}
    {t : Turn}
    (h : (s.turn t).2 = none) :
    (s.turn t).1.session =
      { (s.advanced t).session with
        log := (s.turn t).1.session.log } := by
  rw [turn_of_none h]
  exact session_flush _ _

/- The engine after a turn is as time has left it. -/
theorem engine_turn
    {s : Show}
    {t : Turn}
    (h : (s.turn t).2 = none) :
    (s.turn t).1.session.engine =
      (s.advanced t).session.engine := by
  rw [session_turn h]

/- So are the controls. -/
theorem controls_turn
    {s : Show}
    {t : Turn}
    (h : (s.turn t).2 = none) :
    (s.turn t).1.session.controls =
      (s.advanced t).session.controls := by
  rw [session_turn h]

/- And so are the exchanges. -/
theorem exchanges_turn
    {s : Show}
    {t : Turn}
    (h : (s.turn t).2 = none) :
    (s.turn t).1.session.exchanges =
      (s.advanced t).session.exchanges := by
  rw [session_turn h]

/- A turn that does not halt the engine settles its clocks. -/
theorem clocks_turn
    {s : Show}
    {t : Turn}
    (h : (s.turn t).2 = none)
    (hNot :
      (s.turn t).1.session.engine.isHalted = false) :
    (s.turn t).1.session.engine.clocks =
      (s.session.engine.clocks.collect
        (min (s.elapsed t) Session.longestLapse)).settled := by
  rw [engine_turn h] at hNot ⊢
  have hDue :=
    (s.entered t).makesDue_advance (s.elapsed t)
  exact hDue.clocks hNot

------------------------------------------------------------
-- Plays
------------------------------------------------------------

variable {s later : Show} {t : Turn}

/- An engine that has halted ends a play. -/
theorem play_of_halted
    (h : s.session.engine.isHalted = true)
    (turns : List Turn) :
    s.play turns = (s.close, .closed) := by
  unfold play
  rw [if_pos h]

/- Any other engine waits for turns. -/
theorem play_nil
    (h : ¬ s.session.engine.isHalted = true) :
    s.play [] = (s, .unfinished) := by
  rw [play, if_neg h]

/- A turn that faults ends a play. -/
theorem play_of_fault
    {fault : Fault}
    (h : ¬ s.session.engine.isHalted = true)
    (hTurn : s.turn t = (later, some fault))
    (rest : List Turn) :
    s.play (t :: rest) = (later, .faulted fault) := by
  rw [play, if_neg h, hTurn]

/- After any other turn the play goes on. -/
theorem play_of_none
    (h : ¬ s.session.engine.isHalted = true)
    (hTurn : s.turn t = (later, none))
    (rest : List Turn) :
    s.play (t :: rest) = later.play rest := by
  rw [play, if_neg h, hTurn]

/-
  A play that is over has not looked at the turns behind its
  end, and one that is not goes on with them.
-/
theorem play_append
    (s : Show)
    (first second : List Turn) :
    s.play (first ++ second) =
      if (s.play first).2 = .unfinished then
        (s.play first).1.play second
      else
        s.play first := by
  fun_induction Show.play s first with
  | case1 first s hHalted =>
      rw [play_of_halted hHalted]
      rfl
  | case2 s hNot => rfl
  | case3 s hNot t rest later fault hTurn =>
      rw [List.cons_append, play_of_fault hNot hTurn]
      rfl
  | case4 s hNot t rest later hTurn ih =>
      rw [List.cons_append, play_of_none hNot hTurn]
      exact ih

/- A play that is unfinished did not start halted. -/
theorem not_halted_of_play
    {turns : List Turn}
    (h : (s.play turns).2 = .unfinished) :
    s.session.engine.isHalted = false := by
  rw [← Bool.not_eq_true]
  intro hHalted
  rw [play_of_halted hHalted] at h
  cases h

/- Turns leave the periods of the clocks as they are. -/
theorem period?_play
    {turns : List Turn}
    (h : (s.play turns).2 = .unfinished)
    (beat : Beat) :
    ((s.play turns).1.session.engine.clocks.of
        beat).period? =
      (s.session.engine.clocks.of beat).period? := by
  fun_induction Show.play s turns with
  | case1 turns s hHalted => cases h
  | case2 s hNot => rfl
  | case3 s hNot t rest later fault hTurn => cases h
  | case4 s hNot t rest later hTurn ih =>
      have hFault : (s.turn t).2 = none := by
        rw [hTurn]
      have hLater := not_halted_of_play h
      have hClocks := clocks_turn hFault
      rw [hTurn] at hClocks
      rw [ih h, hClocks hLater, Clocks.period?_settled,
        Clocks.of_collect, Clock.period?_collect]

/- A play that is unfinished has not halted. -/
theorem not_halted_of_unfinished
    {turns : List Turn}
    (h : (s.play turns).2 = .unfinished) :
    ¬ (s.play turns).1.session.engine.isHalted = true := by
  fun_induction Show.play s turns with
  | case1 turns s hHalted => cases h
  | case2 s hNot => exact hNot
  | case3 s hNot t rest later fault hTurn => cases h
  | case4 s hNot t rest later hTurn ih => exact ih h

/- The turn after one that does not fault finds none waiting. -/
theorem staged_of_turn
    (hTurn : s.turn t = (later, none)) :
    later.staged = none := by
  have hFault : (s.turn t).2 = none := by
    rw [hTurn]
  have hStaged := staged_turn hFault
  rw [hTurn] at hStaged
  exact hStaged

/- As long as a play goes on, no picture waits between turns. -/
theorem staged_play
    {turns : List Turn}
    (hStaged : s.staged = none)
    (h : (s.play turns).2 = .unfinished) :
    (s.play turns).1.staged = none := by
  fun_induction Show.play s turns with
  | case1 turns s hHalted => cases h
  | case2 s hNot => exact hStaged
  | case3 s hNot t rest later fault hTurn => cases h
  | case4 s hNot t rest later hTurn ih =>
      exact ih (staged_of_turn hTurn) h

/- What is carried out in the turns that are played. -/
def deeds
    (s : Show)
    (turns : List Turn) : List Deed :=
  if s.session.engine.isHalted then
    []
  else
    match turns with
    | [] => []
    | t :: rest =>
        (s.entered t).deedsOf (.advance (s.elapsed t)) ++
          match s.turn t with
          | (_, some _) => []
          | (later, none) => later.deeds rest

------------------------------------------------------------
-- Faults
------------------------------------------------------------

/-
  Whether a step meets a fault in one of the turns: behind
  turns that leave the play unfinished, and in its turn behind
  beats that meet no fault.
-/
def StepFaults
    (s : Show)
    (turns : List Turn)
    (fault : Fault) : Prop :=
  ∃ early t late,
    turns = early ++ t :: late ∧
      (s.play early).2 = .unfinished ∧
      let before := (s.play early).1
      ∃ made,
        (made ++ [.cycle]) <+: before.dueIn t ∧
          ((before.entered t).makeAll made).2 = [] ∧
          ((before.entered t).makeAll made).1.step.2 =
            some fault

/- A turn faults if and only if one of its steps does. -/
theorem fault_turn_eq_some_iff
    {fault : Fault} :
    (s.turn t).2 = some fault ↔
      ∃ made,
        (made ++ [.cycle]) <+: s.dueIn t ∧
          ((s.entered t).makeAll made).2 = [] ∧
          ((s.entered t).makeAll made).1.step.2 =
            some fault := by
  rw [fault_turn]
  exact Session.advance_eq_fault_iff

/- A play that ends with a fault has a step that faults. -/
theorem stepFaults_of_play
    {turns : List Turn}
    {fault : Fault}
    (h : (s.play turns).2 = .faulted fault) :
    s.StepFaults turns fault := by
  fun_induction Show.play s turns with
  | case1 turns s hHalted => cases h
  | case2 s hNot => cases h
  | case3 s hNot t rest later met hTurn =>
      cases h
      have hFault : (s.turn t).2 = some fault := by
        rw [hTurn]
      refine ⟨[], t, rest, rfl, ?_, ?_⟩
      · rw [play_nil hNot]
      · rw [play_nil hNot]
        exact fault_turn_eq_some_iff.mp hFault
  | case4 s hNot t rest later hTurn ih =>
      rcases ih h with
        ⟨early, u, late, hTurns, hPlay, hMade⟩
      refine ⟨t :: early, u, late, ?_, ?_, ?_⟩
      · rw [hTurns, List.cons_append]
      · rw [play_of_none hNot hTurn]
        exact hPlay
      · rw [play_of_none hNot hTurn]
        exact hMade

/- A play ends with a fault if and only if a step faults. -/
theorem play_eq_faulted_iff
    {turns : List Turn}
    {fault : Fault} :
    (s.play turns).2 = .faulted fault ↔
      s.StepFaults turns fault := by
  constructor
  · exact stepFaults_of_play
  · rintro ⟨early, t, late, rfl, hPlay, hMade⟩
    let before := (s.play early).1
    have hFault : (before.turn t).2 = some fault :=
      fault_turn_eq_some_iff.mpr hMade
    have hTurn :
        before.turn t = ((before.turn t).1, some fault) :=
      Prod.ext rfl hFault
    rw [play_append, if_pos hPlay,
      play_of_fault (not_halted_of_unfinished hPlay) hTurn]

/- A play has its window open. -/
theorem play_ne_notOpened
    (s : Show)
    (turns : List Turn)
    (failure : OpenFailure) :
    (s.play turns).2 ≠ .notOpened failure := by
  fun_induction Show.play s turns with
  | case1 turns s hHalted =>
      intro hEnd
      cases hEnd
  | case2 s hNot =>
      intro hEnd
      cases hEnd
  | case3 s hNot t rest later fault hTurn =>
      intro hEnd
      cases hEnd
  | case4 s hNot t rest later hTurn ih => exact ih

/-
  A play is told to have failed if and only if a step faults,
  and what is told is the message of the fault.
-/
theorem error?_play_eq_some_iff
    {turns : List Turn}
    {text : String} :
    (s.play turns).2.error? = some text ↔
      ∃ fault,
        s.StepFaults turns fault ∧ fault.message = text := by
  simp only [← play_eq_faulted_iff]
  have hOpened := s.play_ne_notOpened turns
  generalize (s.play turns).2 = ending at hOpened ⊢
  cases ending with
  | closed => simp [Ending.error?]
  | faulted fault => simp [Ending.error?]
  | notOpened failure => exact absurd rfl (hOpened failure)
  | unfinished => simp [Ending.error?]

end Show

end ChipEight
