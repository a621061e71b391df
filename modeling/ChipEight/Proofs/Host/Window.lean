import ChipEight.Proofs.Host.Account
import ChipEight.Proofs.Picture.Texture

/-
  The window follows the machine.

  A turn brings one picture into the window, the one there is
  when its time has passed, and it does so only if some word
  of the turn drew. As a turn that draws nothing leaves the
  picture as it is, the window never falls behind.

  A picture is brought as a texture, in which the colours of
  every pixel have their place.

  Key definitions include:
    * `ChipEight.ScreenCall.copied?`
    * `ChipEight.copiesOf`
    * `ChipEight.Show.UpToDate`

  Main declarations:
    * `ChipEight.Show.callsIn_of_smooth`
    * `ChipEight.Show.UpToDate.turn`
    * `ChipEight.Show.UpToDate.play`
    * `ChipEight.Show.window_follows_machine`
-/

namespace ChipEight

------------------------------------------------------------
-- Copies
------------------------------------------------------------

/- The bytes that a call paints into the window, if any. -/
def ScreenCall.copied? : ScreenCall → Option (List UInt8)
  | .copyTexture bytes => some bytes
  | _ => none

/- The bytes that were painted into the window, in order. -/
def copiesOf (calls : List ScreenCall) : List (List UInt8) :=
  calls.filterMap ScreenCall.copied?

/- Copies are collected in parts. -/
theorem copiesOf_append (first second : List ScreenCall) :
    copiesOf (first ++ second) =
      copiesOf first ++ copiesOf second :=
  List.filterMap_append

namespace Show

variable {s : Show} {t : Turn} {turns : List Turn}

------------------------------------------------------------
-- Turns Without Failures
------------------------------------------------------------

/- The rows of textures are padded alike in all turns. -/
theorem padding_play (s : Show) (turns : List Turn) :
    (s.play turns).1.padding = s.padding := by
  fun_induction Show.play s turns with
  | case1 turns s hHalted => rfl
  | case2 s hNot => rfl
  | case3 s hNot t rest later fault hTurn =>
      have hPadding := s.padding_turn t
      rw [hTurn] at hPadding
      exact hPadding
  | case4 s hNot t rest later hTurn ih =>
      have hPadding := s.padding_turn t
      rw [hTurn] at hPadding
      exact ih.trans hPadding

/-
  Unless something fails, a turn that draws brings one texture
  into the window, that of the picture there is once its time
  has passed, and any other turn brings none.
-/
theorem callsIn_of_smooth
    (s : Show)
    (h : t.failure = none) :
    ∃ texture,
      (s.advanced t).session.engine.machine.frame.IsTexture
          s.padding texture ∧
        s.callsIn t =
          (if (s.deedsIn t).any Deed.draws then
            [.makeTexture, .copyTexture texture, .present]
          else
            []) ++
            [.sleep 1000000] := by
  refine ⟨_, Frame.isTexture_rgbPadded _ _, ?_⟩
  rw [callsIn_eq, h]
  rfl

------------------------------------------------------------
-- Windows That Are Up To Date
------------------------------------------------------------

/-
  Whether the window shows the picture of the machine, or else
  nothing was brought into it and no word drew.
-/
structure UpToDate
    (s : Show)
    (done : List Deed) : Prop where
  copied :
    ∀ bytes,
      (copiesOf s.calls.toList).getLast? = some bytes →
        s.session.engine.machine.frame.IsTexture s.padding
          bytes
  unseen :
    copiesOf s.calls.toList = [] →
      ∀ deed ∈ done, deed.draws = false

/- A window that was just opened is up to date. -/
theorem upToDate_opening
    (engine : Engine)
    (scale : UInt32)
    (padding : Nat) :
    (opening engine scale padding none).UpToDate [] where
  copied := by
    intro bytes hLast
    cases hLast
  unseen := by
    intro _ deed hMem
    cases hMem

variable {done : List Deed}

/- A turn keeps the window up to date. -/
theorem UpToDate.turn
    (h : s.UpToDate done)
    (hStaged : s.staged = none)
    (hSmooth : t.failure = none)
    (hNone : (s.turn t).2 = none) :
    (s.turn t).1.UpToDate (done ++ s.deedsIn t) := by
  have hFrame := s.frame_of_picture? t
  rw [← engine_turn hNone] at hFrame
  have hCalls := calls_turn hStaged hNone
  rw [callsIn, hSmooth] at hCalls
  cases hPicture : s.picture? t with
  | none =>
      rw [hPicture] at hFrame hCalls
      have hCopies :
          copiesOf (s.turn t).1.calls.toList =
            copiesOf s.calls.toList := by
        rw [hCalls, copiesOf_append]
        exact List.append_nil _
      refine ⟨?_, ?_⟩
      · rw [hCopies, hFrame, padding_turn]
        exact h.copied
      · rw [hCopies]
        intro hUnseen deed hMem
        rcases List.mem_append.mp hMem with hOld | hNew
        · exact h.unseen hUnseen deed hOld
        · exact
            (s.picture?_eq_none_iff t).mp hPicture deed hNew
  | some frame =>
      rw [hPicture] at hFrame hCalls
      have hCopies :
          copiesOf (s.turn t).1.calls.toList =
            copiesOf s.calls.toList ++
              [frame.rgbPadded s.padding] := by
        rw [hCalls, copiesOf_append]
        rfl
      refine ⟨?_, ?_⟩
      · intro bytes hLast
        rw [hCopies, List.getLast?_concat] at hLast
        cases Option.some.inj hLast
        rw [hFrame, padding_turn]
        exact frame.isTexture_rgbPadded s.padding
      · intro hUnseen
        rw [hCopies] at hUnseen
        exact absurd hUnseen (by simp)

/- So does a play that does not end with a fault. -/
theorem UpToDate.play
    (h : s.UpToDate done)
    (hStaged : s.staged = none)
    (hSmooth : ∀ t ∈ turns, t.failure = none)
    (hEnd : ∀ fault, (s.play turns).2 ≠ .faulted fault) :
    (s.play turns).1.UpToDate (done ++ s.deeds turns) := by
  fun_induction Show.play s turns generalizing done with
  | case1 turns s hHalted =>
      rw [deeds.eq_def, if_pos hHalted, List.append_nil]
      exact ⟨h.copied, h.unseen⟩
  | case2 s hNot =>
      rw [deeds, if_neg hNot, List.append_nil]
      exact h
  | case3 s hNot t rest later fault hTurn =>
      exact absurd rfl (hEnd fault)
  | case4 s hNot t rest later hTurn ih =>
      rcases List.forall_mem_cons.mp hSmooth with
        ⟨hFirst, hRest⟩
      have hNone : (s.turn t).2 = none := by
        rw [hTurn]
      have hLater := h.turn hStaged hFirst hNone
      rw [hTurn] at hLater
      rw [deeds, if_neg hNot, hTurn, ← List.append_assoc]
      exact ih hLater (staged_of_turn hTurn) hRest hEnd

------------------------------------------------------------
-- Whole Shows
------------------------------------------------------------

/-
  As long as nothing fails, a turn that does not fault brings
  one texture into the window if one of its words drew, that
  of the picture there is when the time of the turn has passed,
  and none otherwise; then it sleeps once, and no picture waits
  any more. A turn that faults makes no call and ends the show.
  So behind any turn that does not fault the window shows the
  picture of the machine, or nothing was brought into it and no
  word drew since the show began.
-/
theorem window_follows_machine
    {turns : List Turn}
    (hSmooth : ∀ t ∈ turns, t.failure = none)
    (engine : Engine)
    (scale : UInt32)
    (padding : Nat) :
    let run := Show.run engine scale padding none
    let start := opening engine scale padding none
    (∀ early t late,
        turns = early ++ t :: late →
          (run early).2 = .unfinished →
            let before := (run early).1
            let after := (before.turn t).1
            let passed := (before.advanced t).session.engine
            ((before.turn t).2 = none →
                after.session.engine = passed ∧
                  after.staged = none ∧
                  ∃ texture,
                    passed.machine.frame.IsTexture padding
                        texture ∧
                      after.calls.toList =
                        before.calls.toList ++
                          ((if (before.deedsIn t).any
                              Deed.draws then
                            [.makeTexture,
                              .copyTexture texture,
                              .present]
                          else
                            []) ++
                            [.sleep 1000000])) ∧
              ∀ fault,
                (before.turn t).2 = some fault →
                  after.calls = before.calls ∧
                    run turns = (after, .faulted fault)) ∧
      ∀ seen,
        seen <+: turns →
          (∀ fault, (run seen).2 ≠ .faulted fault) →
            (run seen).1.padding = padding ∧
              (run seen).1.UpToDate (start.deeds seen) := by
  intro run start
  refine ⟨?_, ?_⟩
  · intro early t late hTurns hEarly before after passed
    have hSmoothHere : t.failure = none := by
      apply hSmooth
      rw [hTurns]
      exact List.mem_append_right _ List.mem_cons_self
    have hPadding : before.padding = padding :=
      start.padding_play early
    have hStaged : before.staged = none :=
      staged_play rfl hEarly
    refine ⟨?_, ?_⟩
    · intro hNone
      rcases before.callsIn_of_smooth hSmoothHere with
        ⟨texture, hTexture, hCalls⟩
      rw [hPadding] at hTexture
      refine
        ⟨engine_turn hNone, staged_turn hNone, texture,
          hTexture, ?_⟩
      rw [calls_turn hStaged hNone, hCalls]
    · intro fault hFault
      have hRun :
          run turns = before.play (t :: late) := by
        rw [hTurns]
        exact
          (play_append start early (t :: late)).trans
            (if_pos hEarly)
      refine ⟨calls_turn_of_fault hFault, ?_⟩
      rw [hRun]
      exact
        play_of_fault (not_halted_of_unfinished hEarly)
          (Prod.ext rfl hFault) late
  · intro seen hSeen hEnd
    have hSmoothSeen : ∀ t ∈ seen, t.failure = none := by
      intro t hMem
      exact hSmooth t (hSeen.subset hMem)
    refine ⟨start.padding_play seen, ?_⟩
    exact
      (upToDate_opening engine scale padding).play rfl
        hSmoothSeen hEnd

/-
  Two drawings in a turn come into the window as one picture,
  without the pixel that the second one puts out again. The
  turn after it, which draws nothing, makes no call but its
  sleep.
-/
theorem window_shows_second_drawing :
    let engine :=
      ((Session.initial
        (Engine.switchedOn ⟨100, 60⟩ (Generator.ofSeed 7))
        Seat.initial).load
          [0xD0, 0x15, 0xD0, 0x11, 0x12, 0x04]).1.engine
    let first : Turn :=
      { nanos := 20000000
        events := [] }
    let second : Turn :=
      { nanos := 9000000
        events := [.other] }
    let run := Show.run engine 10 4 none
    let before := (run []).1
    let between := (run [first]).1
    (∀ t ∈ [first, second], t.failure = none) ∧
      (∃ texture,
        (before.turn first).1.calls.toList =
            before.calls.toList ++
              ([.makeTexture, .copyTexture texture,
                .present] ++
                [.sleep 1000000]) ∧
          texture.length = 6272 ∧
          texture[0]? = some 0 ∧
          texture[195]? = some 0 ∧
          texture[196]? = some 255) ∧
      (before.turn first).1.staged = none ∧
      (between.turn second).1.calls.toList =
        between.calls.toList ++ ([] ++ [.sleep 1000000]) ∧
      between.UpToDate
        ((opening engine 10 4 none).deeds [first]) := by
  intro engine first second run before between
  have hSmooth : ∀ t ∈ [first, second], t.failure = none := by
    intro t hMem
    simp only [List.mem_cons, List.not_mem_nil,
      or_false] at hMem
    rcases hMem with rfl | rfl
    · rfl
    · rfl
  let picture :=
    (before.advanced first).session.engine.machine.frame
  have hFacts :
      (run []).2 = .unfinished ∧
        (run [first]).2 = .unfinished ∧
        (before.turn first).2 = none ∧
        (between.turn second).2 = none ∧
        (before.deedsIn first).any Deed.draws = true ∧
        ¬ (between.deedsIn second).any Deed.draws = true ∧
        picture.pixel 0 0 = false ∧
        picture.pixel 0 1 = true := by
    decide +kernel
  rcases hFacts with
    ⟨hStart, hBetween, hFirst, hSecond, hDraws, hRests,
      hGone, hLit⟩
  rcases window_follows_machine hSmooth engine 10 4 with
    ⟨hTurns, hSeen⟩
  rcases (hTurns [] first [second] rfl hStart).1 hFirst with
    ⟨_, hUnkept, texture, hTexture, hFirstCalls⟩
  rcases (hTurns [first] second [] rfl hBetween).1 hSecond with
    ⟨_, _, _, _, hSecondCalls⟩
  rw [if_pos hDraws] at hFirstCalls
  rw [if_neg hRests] at hSecondCalls
  have hOff :=
    hTexture.channel 0 0 0 (by decide) (by decide) (by decide)
  have hOn :=
    hTexture.channel 1 0 0 (by decide) (by decide) (by decide)
  have hBehind :=
    hTexture.padded 0 195 (by decide) (by decide) (by decide)
  rw [hGone] at hOff
  rw [hLit] at hOn
  refine
    ⟨hSmooth,
      ⟨texture, hFirstCalls, hTexture.length, hOff, hBehind,
        hOn⟩,
      hUnkept, hSecondCalls, ?_⟩
  apply (hSeen [first] ⟨[second], rfl⟩ ?_).2
  intro fault hEnd
  rw [hBetween] at hEnd
  cases hEnd

end Show

end ChipEight
