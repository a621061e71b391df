import ChipEight.Proofs.Host.Account
import ChipEight.Proofs.Session.Trace

/-
  The trace is the history of all words.

  Whatever an engine is told to do, and whether a show plays
  it or not, the trace has one record for every step that
  decoded a word, in the order of the steps. The host adds
  records of its own, but none that belongs to the trace.

  Key definitions include:
    * `ChipEight.Show.stepsIn`
    * `ChipEight.Show.stepsAlong`

  Main declarations:
    * `ChipEight.Show.tracesOf_turn`
    * `ChipEight.Show.tracesOf_play`
    * `ChipEight.Session.trace_is_history`
-/

namespace ChipEight

namespace Show

------------------------------------------------------------
-- Turns
------------------------------------------------------------

/- The sessions in which a turn takes its steps. -/
def stepsIn
    (s : Show)
    (t : Turn) : List (Session Seat) :=
  (s.entered t).stepsOf (.advance (s.elapsed t))

/- A picture that is not shown is no part of the trace. -/
theorem tracesOf_lostIn
    (s : Show)
    (t : Turn) :
    tracesOf (s.lostIn t) = [] := by
  apply List.filter_eq_nil_iff.mpr
  intro record hMem
  rcases eq_frameLost_of_mem_lostIn hMem with ⟨f, _, rfl⟩
  simp [Record.level]

/- A turn traces what its steps announce. -/
theorem tracesOf_turn
    {s : Show}
    (hStaged : s.staged = none)
    (t : Turn) :
    tracesOf (s.turn t).1.session.log.toList =
      tracesOf s.session.log.toList ++
        (s.stepsIn t).filterMap Session.announced? := by
  have hTold :
      tracesOf (s.toldIn t) =
        (s.stepsIn t).filterMap Session.announced? :=
    Session.tracesOf_toldOf _ _
  cases hFault : (s.turn t).2 with
  | some fault =>
      rw [turn_of_some hFault, log_advanced, tracesOf_append,
        hTold]
  | none =>
      rw [log_turn hStaged hFault, tracesOf_append, tracesOf_append,
        hTold, tracesOf_lostIn, List.append_nil]

/- A turn leaves all in place. -/
theorem sound_turn
    {s : Show}
    (h : s.session.engine.Sound)
    (t : Turn) :
    (s.turn t).1.session.engine.Sound := by
  have hEntered : (s.entered t).engine.Sound := h
  have hTime := Session.sound_advance hEntered (s.elapsed t)
  cases hFault : (s.turn t).2 with
  | some fault =>
      rw [turn_of_some hFault]
      exact hTime
  | none =>
      rw [engine_turn hFault]
      exact hTime

------------------------------------------------------------
-- Plays
------------------------------------------------------------

/- The sessions in which the turns that are played step. -/
def stepsAlong
    (s : Show)
    (turns : List Turn) : List (Session Seat) :=
  if s.session.engine.isHalted then
    []
  else
    match turns with
    | [] => []
    | t :: rest =>
        s.stepsIn t ++
          match s.turn t with
          | (_, some _) => []
          | (later, none) => later.stepsAlong rest

/- Closing the window is no part of the trace. -/
theorem tracesOf_close (s : Show) :
    tracesOf s.close.session.log.toList =
      tracesOf s.session.log.toList := by
  change tracesOf (s.session.log.push .closing).toList = _
  rw [Array.toList_push, tracesOf_append]
  exact List.append_nil _

/-
  A play traces what its steps announce; the induction is on
  the turns.
-/
theorem tracesOf_play
    {s : Show}
    (hStaged : s.staged = none)
    (turns : List Turn) :
    tracesOf (s.play turns).1.session.log.toList =
      tracesOf s.session.log.toList ++
        (s.stepsAlong turns).filterMap
          Session.announced? := by
  fun_induction Show.play s turns with
  | case1 turns s hHalted =>
      rw [tracesOf_close, stepsAlong.eq_def, if_pos hHalted]
      exact (List.append_nil _).symm
  | case2 s hNot =>
      rw [stepsAlong, if_neg hNot]
      exact (List.append_nil _).symm
  | case3 s hNot t rest later fault hTurn =>
      have hTrace := tracesOf_turn hStaged t
      rw [hTurn] at hTrace
      rw [stepsAlong, if_neg hNot, hTurn, List.append_nil]
      exact hTrace
  | case4 s hNot t rest later hTurn ih =>
      have hTrace := tracesOf_turn hStaged t
      have hRest := ih (staged_of_turn hTurn)
      rw [hTurn] at hTrace
      rw [stepsAlong, if_neg hNot, hTurn, hRest, hTrace,
        List.filterMap_append, List.append_assoc]

/- A play takes its steps in sound engines. -/
theorem sound_of_mem_stepsAlong
    {s : Show}
    (h : s.session.engine.Sound)
    {turns : List Turn}
    {u : Session Seat}
    (hMem : u ∈ s.stepsAlong turns) :
    u.engine.Sound := by
  have hTurnSteps (s : Show) (t : Turn)
      (hSound : s.session.engine.Sound)
      (hIn : u ∈ s.stepsIn t) :
      u.engine.Sound :=
    Session.sound_of_mem_stepsOf (s := s.entered t) hSound hIn
  fun_induction Show.play s turns with
  | case1 turns s hHalted =>
      rw [stepsAlong.eq_def, if_pos hHalted] at hMem
      cases hMem
  | case2 s hNot =>
      rw [stepsAlong, if_neg hNot] at hMem
      cases hMem
  | case3 s hNot t rest later fault hTurn =>
      rw [stepsAlong, if_neg hNot, hTurn,
        List.append_nil] at hMem
      exact hTurnSteps s t h hMem
  | case4 s hNot t rest later hTurn ih =>
      have hLater := sound_turn h t
      rw [hTurn] at hLater
      rw [stepsAlong, if_neg hNot, hTurn] at hMem
      rcases List.mem_append.mp hMem with hFirst | hRest
      · exact hTurnSteps s t h hFirst
      · exact ih hLater hRest

end Show

------------------------------------------------------------
-- Whole Runs
------------------------------------------------------------

namespace Session

/-
  From any engine that can come up, whether commands are given
  to it with anything done to its controls in between, or a
  show plays it: the trace that is written has one record for
  every step that decodes a word, in the order of the steps.
  Every step that does so notes the word before it takes
  effect, as the line that a listing of the program has for it
  just then, and every other step adds nothing to the trace.
-/
theorem trace_is_history
    {κ : Type}
    [Controls κ]
    {s : Session κ}
    (h : s.engine.Reachable) :
    (∀ moves,
        let steps := s.stepsAlong moves
        tracesOf (s.followAll moves).1.log.toList =
            tracesOf s.log.toList ++
              steps.filterMap announced? ∧
          ∀ t ∈ steps, t.Announces) ∧
      ∀ scale padding turns,
        let start := Show.opening s.engine scale padding none
        let steps := start.stepsAlong turns
        let result :=
          Show.run s.engine scale padding none turns
        tracesOf result.1.session.log.toList =
            steps.filterMap announced? ∧
          ∀ t ∈ steps, t.Announces := by
  refine ⟨?_, ?_⟩
  · intro moves steps
    refine ⟨s.tracesOf_followAll moves, ?_⟩
    intro t hMem
    exact
      announces_of_sound
        (sound_of_mem_stepsAlong h.sound hMem)
  · intro scale padding turns start steps result
    refine ⟨Show.tracesOf_play rfl turns, ?_⟩
    intro t hMem
    have hStart : start.session.engine.Sound := h.sound
    exact
      announces_of_sound
        (Show.sound_of_mem_stepsAlong hStart hMem)

/-
  A program that changes the word behind it before it gets
  there: the trace has the word as it is carried out, not as
  it was loaded.
-/
theorem trace_of_changed_word :
    let s :=
      ((Session.initial
        (Engine.switchedOn ⟨100, 60⟩ (Generator.ofSeed 7))
        Keypad.initial).load
          [0xA2, 0x06, 0x60, 0x65, 0xF0, 0x55,
            0x60, 0x01]).1
    let moves : List (Move Keypad) :=
      List.replicate 4 { hand := id, command := .step }
    s.engine.Reachable ∧
      s.engine.listing[3]? =
        some { address := 0x206, word := 0x6001 } ∧
      tracesOf (s.followAll moves).1.log.toList =
        [.executing { address := 0x200, word := 0xA206 },
          .executing { address := 0x202, word := 0x6065 },
          .executing { address := 0x204, word := 0xF055 },
          .executing { address := 0x206, word := 0x6501 }] ∧
      ∀ t ∈ s.stepsAlong moves, t.Announces := by
  intro s moves
  have hReachable : s.engine.Reachable :=
    .obey _ (.load _) (.switchedOn _ _)
  rcases (trace_is_history hReachable).1 moves with
    ⟨hTrace, hSteps⟩
  refine ⟨hReachable, ?_, ?_, hSteps⟩
  · decide +kernel
  · rw [hTrace]
    decide +kernel

end Session

end ChipEight
