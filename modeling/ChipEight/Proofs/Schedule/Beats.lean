import ChipEight.Proofs.Schedule.Due
import ChipEight.Proofs.Session.Clocks
import ChipEight.Proofs.Session.Faults

/-
  Steps and ticks made one after another, without a clock to
  say when.

  Letting time pass comes down to making the beats that are
  due: the clocks only choose the beats, and what the clocks
  hold is all that can tell the two apart.

  Key definitions include:
    * `ChipEight.Session.make`
    * `ChipEight.Session.makeAll`
    * `ChipEight.Session.untilHalted`
    * `ChipEight.Session.SameButClocks`
    * `ChipEight.Session.MakesDue`

  Main declarations:
    * `ChipEight.Session.makeAll_append`
    * `ChipEight.Session.makeAll_untilHalted`
    * `ChipEight.Session.makesDue_catchUp`
    * `ChipEight.Session.makesDue_advance`
    * `ChipEight.Session.MakesDue.append`
-/

namespace ChipEight

namespace Session

variable {κ : Type}

------------------------------------------------------------
-- Sessions That Differ In Their Clocks
------------------------------------------------------------

/- Whether two sessions are the same but for their clocks. -/
def SameButClocks (s t : Session κ) : Prop :=
  s.setClocks t.engine.clocks = t

/- Setting the clocks changes nothing else. -/
theorem sameButClocks_setClocks
    (s : Session κ)
    (clocks : Clocks) :
    s.SameButClocks (s.setClocks clocks) :=
  rfl

/- Being the same but for the clocks goes both ways. -/
theorem SameButClocks.symm
    {s t : Session κ}
    (h : s.SameButClocks t) :
    t.SameButClocks s := by
  unfold SameButClocks at h ⊢
  rw [← h, setClocks_setClocks, setClocks_self]

/- Being the same but for the clocks can be chained. -/
theorem SameButClocks.trans
    {s t u : Session κ}
    (h : s.SameButClocks t)
    (hNext : t.SameButClocks u) :
    s.SameButClocks u := by
  unfold SameButClocks at h hNext ⊢
  rw [← hNext, ← h, setClocks_setClocks]
  rfl

/- Clocks have no part in whether an engine has halted. -/
theorem SameButClocks.isHalted_eq
    {s t : Session κ}
    (h : s.SameButClocks t) :
    s.engine.isHalted = t.engine.isHalted := by
  rw [← h]
  rfl

/- Clocks are no part of the machine. -/
theorem SameButClocks.machine_eq
    {s t : Session κ}
    (h : s.SameButClocks t) :
    s.engine.machine = t.engine.machine := by
  rw [← h]
  rfl

------------------------------------------------------------
-- Making Beats
------------------------------------------------------------

variable [Controls κ]

/- Make one beat. -/
def make
    (s : Session κ) : Beat → Session κ × Option Fault
  | .cycle => s.step
  | .tick => (s.tick, none)

/- Make beats in turn and collect the faults they met. -/
def makeAll
    (s : Session κ) : List Beat → Session κ × List Fault
  | [] => (s, [])
  | beat :: rest =>
      let (s, fault) := s.make beat
      let (s, faults) := s.makeAll rest
      (s, fault.toList ++ faults)

/- The beats of a list up to the one that halts the engine. -/
def untilHalted
    (s : Session κ) : List Beat → List Beat
  | [] => []
  | beat :: rest =>
      if s.engine.isHalted then
        []
      else
        beat :: (s.make beat).1.untilHalted rest

/- Nothing to make changes nothing. -/
@[simp]
theorem makeAll_nil (s : Session κ) :
    s.makeAll [] = (s, []) :=
  rfl

/- The first beat is made before the rest. -/
theorem makeAll_cons
    (s : Session κ)
    (beat : Beat)
    (rest : List Beat) :
    s.makeAll (beat :: rest) =
      (((s.make beat).1.makeAll rest).1,
        (s.make beat).2.toList ++
          ((s.make beat).1.makeAll rest).2) :=
  rfl

/- Beats in two lists are made as in one. -/
theorem makeAll_append
    (s : Session κ)
    (first second : List Beat) :
    s.makeAll (first ++ second) =
      (((s.makeAll first).1.makeAll second).1,
        (s.makeAll first).2 ++
          ((s.makeAll first).1.makeAll second).2) := by
  induction first generalizing s with
  | nil =>
      rfl
  | cons beat rest ih =>
      rw [List.cons_append, makeAll_cons, makeAll_cons, ih,
        List.append_assoc]

------------------------------------------------------------
-- Beats And Halting
------------------------------------------------------------

/- A halted engine makes no beat. -/
theorem make_of_halted
    {s : Session κ}
    (h : s.engine.isHalted = true)
    (beat : Beat) :
    s.make beat = (s, none) := by
  cases beat with
  | cycle => exact step_of_halted h
  | tick => rw [make, tick_of_halted h]

/- A halted engine makes no beats. -/
theorem makeAll_of_halted
    {s : Session κ}
    (h : s.engine.isHalted = true)
    (beats : List Beat) :
    s.makeAll beats = (s, []) := by
  induction beats with
  | nil =>
      rfl
  | cons beat rest ih =>
      rw [makeAll_cons, make_of_halted h, ih]
      rfl

/- A beat that faults halts the engine. -/
theorem isHalted_make_of_fault
    {s : Session κ}
    {beat : Beat}
    {fault : Fault}
    (h : (s.make beat).2 = some fault) :
    (s.make beat).1.engine.isHalted = true := by
  cases beat with
  | cycle => exact isHalted_step_of_fault h
  | tick => cases h

/- A halted engine makes none of the beats. -/
theorem untilHalted_of_halted
    {s : Session κ}
    (h : s.engine.isHalted = true)
    (beats : List Beat) :
    s.untilHalted beats = [] := by
  cases beats with
  | nil => rfl
  | cons beat rest => rw [untilHalted, if_pos h]

/- Any other makes the first and goes on with the rest. -/
theorem untilHalted_cons
    {s : Session κ}
    (h : s.engine.isHalted = false)
    (beat : Beat)
    (rest : List Beat) :
    s.untilHalted (beat :: rest) =
      beat :: (s.make beat).1.untilHalted rest := by
  have hNot : ¬ s.engine.isHalted = true := by
    simp [h]
  rw [untilHalted, if_neg hNot]

/- The beats that are made are the first of the list. -/
theorem untilHalted_isPrefix
    (s : Session κ)
    (beats : List Beat) :
    s.untilHalted beats <+: beats := by
  induction beats generalizing s with
  | nil => exact List.nil_prefix
  | cons beat rest ih =>
      cases h : s.engine.isHalted with
      | true =>
          rw [untilHalted_of_halted h]
          exact List.nil_prefix
      | false =>
          rw [untilHalted_cons h]
          exact List.prefix_cons_inj beat |>.mpr
            (ih (s.make beat).1)

/- So no more of a kind are made than there are. -/
theorem count_untilHalted_le
    (s : Session κ)
    (beats : List Beat)
    (beat : Beat) :
    (s.untilHalted beats).count beat ≤ beats.count beat :=
  (s.untilHalted_isPrefix beats).sublist.count_le beat

/- Beats behind the one that halts the engine do nothing. -/
theorem makeAll_untilHalted
    (s : Session κ)
    (beats : List Beat) :
    s.makeAll (s.untilHalted beats) = s.makeAll beats := by
  induction beats generalizing s with
  | nil =>
      rfl
  | cons beat rest ih =>
      cases h : s.engine.isHalted with
      | true =>
          rw [untilHalted_of_halted h, makeAll_nil,
            makeAll_of_halted h]
      | false =>
          rw [untilHalted_cons h, makeAll_cons, makeAll_cons,
            ih]

/- An engine that has not halted has made all beats. -/
theorem untilHalted_of_not_halted
    {s : Session κ}
    {beats : List Beat}
    (h : (s.makeAll beats).1.engine.isHalted = false) :
    s.untilHalted beats = beats := by
  induction beats generalizing s with
  | nil =>
      rfl
  | cons beat rest ih =>
      cases hHalted : s.engine.isHalted with
      | true =>
          rw [makeAll_of_halted hHalted, hHalted] at h
          cases h
      | false =>
          have hRest :
              ((s.make beat).1.makeAll
                rest).1.engine.isHalted = false :=
            h
          rw [untilHalted_cons hHalted, ih hRest]

/- Beats meet one fault at most. -/
theorem length_faults_makeAll_le
    (s : Session κ)
    (beats : List Beat) :
    (s.makeAll beats).2.length ≤ 1 := by
  induction beats generalizing s with
  | nil =>
      simp
  | cons beat rest ih =>
      rw [makeAll_cons]
      cases hFault : (s.make beat).2 with
      | none =>
          simpa using ih (s.make beat).1
      | some fault =>
          have hHalted := isHalted_make_of_fault hFault
          rw [makeAll_of_halted hHalted]
          simp

------------------------------------------------------------
-- Beats And Clocks
------------------------------------------------------------

/- A beat does not depend on the clocks. -/
theorem make_setClocks
    (s : Session κ)
    (clocks : Clocks)
    (beat : Beat) :
    (s.setClocks clocks).make beat =
      ((s.make beat).1.setClocks clocks,
        (s.make beat).2) := by
  cases beat with
  | cycle => exact step_setClocks s clocks
  | tick => rw [make, make, tick_setClocks]

/- Beats do not depend on the clocks. -/
theorem makeAll_setClocks
    (s : Session κ)
    (clocks : Clocks)
    (beats : List Beat) :
    (s.setClocks clocks).makeAll beats =
      ((s.makeAll beats).1.setClocks clocks,
        (s.makeAll beats).2) := by
  induction beats generalizing s with
  | nil =>
      rfl
  | cons beat rest ih =>
      simp only [makeAll_cons, make_setClocks, ih]

/- The same beats keep sessions the same but for clocks. -/
theorem SameButClocks.makeAll
    {s t : Session κ}
    (h : s.SameButClocks t)
    (beats : List Beat) :
    (s.makeAll beats).1.SameButClocks (t.makeAll beats).1 ∧
      (s.makeAll beats).2 = (t.makeAll beats).2 := by
  rw [← h, makeAll_setClocks]
  exact ⟨sameButClocks_setClocks _ _, rfl⟩

------------------------------------------------------------
-- Catching Up
------------------------------------------------------------

/- A halted engine does not catch up. -/
theorem catchUp_of_halted
    {s : Session κ}
    (h : s.engine.isHalted = true)
    (clocks : Clocks) :
    s.catchUp clocks = (s.setClocks clocks, none) := by
  rw [catchUp, if_pos h]

/- With nothing due there is nothing to catch up on. -/
theorem catchUp_of_none
    {s : Session κ}
    {clocks : Clocks}
    (h : s.engine.isHalted = false)
    (hNext : clocks.next? = none) :
    s.catchUp clocks = (s.setClocks clocks, none) := by
  have hNot : ¬ s.engine.isHalted = true := by
    simp [h]
  rw [catchUp, if_neg hNot]
  split
  · rfl
  · simp_all
  · simp_all

/-
  What is due next is made, and unless it faults the engine
  goes on to catch up.
-/
theorem catchUp_of_some
    {s : Session κ}
    {clocks later : Clocks}
    {beat : Beat}
    (h : s.engine.isHalted = false)
    (hNext : clocks.next? = some (beat, later)) :
    s.catchUp clocks =
      match (s.make beat).2 with
      | none => (s.make beat).1.catchUp later
      | some fault =>
          ((s.make beat).1.setClocks later, some fault) := by
  have hNot : ¬ s.engine.isHalted = true := by
    simp [h]
  rw [catchUp, if_neg hNot]
  split
  · simp_all
  · rename_i hTick
    rw [hNext] at hTick
    cases hTick
    rfl
  · rename_i hCycle
    rw [hNext] at hCycle
    cases hCycle
    rw [make]
    rcases s.step with ⟨t, met⟩
    cases met with
    | none => rfl
    | some fault => rfl

/-
  What it means for a session to end as if it had made all
  beats due on some clocks. An engine that halts early leaves
  time on its clocks that no longer matters.
-/
structure MakesDue
    (s : Session κ)
    (clocks : Clocks)
    (result : Session κ × List Fault) : Prop where
  session :
    result.1.SameButClocks (s.makeAll clocks.due).1
  faults :
    result.2 = (s.makeAll clocks.due).2
  clocks :
    result.1.engine.isHalted = false →
      result.1.engine.clocks = clocks.settled

/- A halted engine makes nothing, whatever is due. -/
theorem makesDue_of_halted
    {s : Session κ}
    (h : s.engine.isHalted = true)
    (clocks other : Clocks) :
    s.MakesDue clocks (s.setClocks other, []) where
  session := by
    rw [makeAll_of_halted h]
    exact (sameButClocks_setClocks s other).symm
  faults := by
    rw [makeAll_of_halted h]
  clocks := by
    intro hNot
    rw [isHalted_setClocks, h] at hNot
    cases hNot

/- With nothing due there is nothing to make. -/
theorem makesDue_of_none
    (s : Session κ)
    {clocks : Clocks}
    (h : clocks.next? = none) :
    s.MakesDue clocks (s.setClocks clocks, []) where
  session := by
    rw [Clocks.due_of_none h]
    exact (sameButClocks_setClocks s clocks).symm
  faults := by
    rw [Clocks.due_of_none h]
    rfl
  clocks := by
    intro _
    rw [Clocks.settled_of_none h, clocks_setClocks]

/- What is due next is made before what is due after it. -/
theorem MakesDue.cons
    {s : Session κ}
    {clocks later : Clocks}
    {beat : Beat}
    {result : Session κ × List Fault}
    (h : (s.make beat).1.MakesDue later result)
    (hNext : clocks.next? = some (beat, later)) :
    s.MakesDue clocks
      (result.1, (s.make beat).2.toList ++ result.2) where
  session := by
    rw [Clocks.due_of_some hNext]
    exact h.session
  faults := by
    rw [Clocks.due_of_some hNext, makeAll_cons, h.faults]
  clocks := by
    intro hNot
    rw [Clocks.settled_of_some hNext]
    exact h.clocks hNot

/-
  Catching up makes the beats that are due; the induction is
  on them.
-/
theorem makesDue_catchUp
    (s : Session κ)
    (clocks : Clocks) :
    s.MakesDue clocks
      ((s.catchUp clocks).1,
        (s.catchUp clocks).2.toList) := by
  induction clocks using Clocks.due.induct generalizing s with
  | case1 clocks hNext =>
      cases h : s.engine.isHalted with
      | true =>
          rw [catchUp_of_halted h]
          exact makesDue_of_halted h clocks clocks
      | false =>
          rw [catchUp_of_none h hNext]
          exact makesDue_of_none s hNext
  | case2 clocks beat later hNext ih =>
      cases h : s.engine.isHalted with
      | true =>
          rw [catchUp_of_halted h]
          exact makesDue_of_halted h clocks clocks
      | false =>
          rw [catchUp_of_some h hNext]
          cases hFault : (s.make beat).2 with
          | none =>
              have hRest := (ih (s.make beat).1).cons hNext
              rw [hFault] at hRest
              exact hRest
          | some fault =>
              have hHalted := isHalted_make_of_fault hFault
              have hRest :=
                (makesDue_of_halted hHalted later later).cons
                  hNext
              rw [hFault] at hRest
              exact hRest

/- Letting time pass makes the beats that it makes due. -/
theorem makesDue_advance
    (s : Session κ)
    (elapsed : Nat) :
    s.MakesDue
      (s.engine.clocks.collect (min elapsed longestLapse))
      ((s.advance elapsed).1,
        (s.advance elapsed).2.toList) := by
  unfold advance
  split
  · rename_i hHalted
    exact makesDue_of_halted hHalted _ s.engine.clocks
  · exact makesDue_catchUp s _

/- It answers the first fault that they meet. -/
theorem advance_fault_eq
    (s : Session κ)
    (elapsed : Nat) :
    (s.advance elapsed).2 =
      (s.makeAll
        (s.engine.clocks.collect
          (min elapsed longestLapse)).due).2.head? := by
  rw [← (s.makesDue_advance elapsed).faults]
  cases (s.advance elapsed).2 with
  | none => rfl
  | some fault => rfl

/-
  What is due in two parts of a time, the second collected on
  the clocks that the first leaves, is due in the whole.
-/
theorem MakesDue.append
    {s : Session κ}
    {clocks : Clocks}
    {elapsed : Nat}
    {first second : Session κ × List Fault}
    (hFirst : s.MakesDue clocks first)
    (hSecond :
      first.1.MakesDue
        (first.1.engine.clocks.collect elapsed) second) :
    s.MakesDue (clocks.collect elapsed)
      (second.1, first.2 ++ second.2) := by
  cases hHalted : first.1.engine.isHalted with
  | true =>
      have hEnd :
          (s.makeAll clocks.due).1.engine.isHalted = true := by
        rw [← hFirst.session.isHalted_eq, hHalted]
      have hSession := hSecond.session
      have hFaults := hSecond.faults
      rw [makeAll_of_halted hHalted] at hSession hFaults
      refine ⟨?_, ?_, ?_⟩
      · rw [Clocks.due_collect, makeAll_append,
          makeAll_of_halted hEnd]
        exact hSession.trans hFirst.session
      · rw [Clocks.due_collect, makeAll_append,
          makeAll_of_halted hEnd, hFaults, hFirst.faults]
      · intro hNot
        rw [hSession.isHalted_eq, hHalted] at hNot
        cases hNot
  | false =>
      rw [hFirst.clocks hHalted] at hSecond
      have hRest :=
        hFirst.session.makeAll
          (clocks.settled.collect elapsed).due
      refine ⟨?_, ?_, ?_⟩
      · rw [Clocks.due_collect, makeAll_append]
        exact hSecond.session.trans hRest.1
      · rw [Clocks.due_collect, makeAll_append,
          hSecond.faults, hFirst.faults, hRest.2]
      · intro hNot
        rw [← Clocks.settled_collect]
        exact hSecond.clocks hNot

end Session

end ChipEight
