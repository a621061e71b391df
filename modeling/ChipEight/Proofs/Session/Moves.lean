import ChipEight.Proofs.Session.Run

/-
  What befalls an engine from outside, one thing after another.

  A move is a command, and before it anybody may have worked
  the controls in any way. So nothing is fixed about what the
  controls answer from one command to the next.

  Key definitions include:
    * `ChipEight.Move`
    * `ChipEight.Session.worked`
    * `ChipEight.Session.follow`
    * `ChipEight.Session.followAll`
    * `ChipEight.Session.deedsAlong`

  Main declarations:
    * `ChipEight.Session.followAll_append`
    * `ChipEight.Session.reachable_followAll`
-/

namespace ChipEight

------------------------------------------------------------
-- Moves
------------------------------------------------------------

/- A command, and what is done to the controls before it. -/
structure Move (κ : Type) where
  hand : κ → κ
  command : Command

/- What moves do to the controls, taken together. -/
def handsOf
    {κ : Type}
    (moves : List (Move κ))
    (controls : κ) : κ :=
  moves.foldl (fun controls m => m.hand controls) controls

namespace Session

variable {κ : Type}

/- Work the controls. -/
def worked
    (s : Session κ)
    (hand : κ → κ) : Session κ :=
  { s with controls := hand s.controls }

variable [Controls κ]

/- Make a move. -/
def follow
    (s : Session κ)
    (m : Move κ) : Session κ × Option Fault :=
  (s.worked m.hand).obey m.command

/- Make moves in turn and collect what they are answered. -/
def followAll
    (s : Session κ) :
    List (Move κ) → Session κ × List (Option Fault)
  | [] => (s, [])
  | m :: rest =>
      let (s, answer) := s.follow m
      let (s, answers) := s.followAll rest
      (s, answer :: answers)

/- What moves carry out that are made in turn. -/
def deedsAlong
    (s : Session κ) : List (Move κ) → List Deed
  | [] => []
  | m :: rest =>
      (s.worked m.hand).deedsOf m.command ++
        (s.follow m).1.deedsAlong rest

/- The first move is made before the rest. -/
theorem followAll_cons
    (s : Session κ)
    (m : Move κ)
    (rest : List (Move κ)) :
    s.followAll (m :: rest) =
      (((s.follow m).1.followAll rest).1,
        (s.follow m).2 ::
          ((s.follow m).1.followAll rest).2) :=
  rfl

/- Moves in two lists are made as in one. -/
theorem followAll_append
    (s : Session κ)
    (first second : List (Move κ)) :
    s.followAll (first ++ second) =
      (((s.followAll first).1.followAll second).1,
        (s.followAll first).2 ++
          ((s.followAll first).1.followAll second).2) := by
  induction first generalizing s with
  | nil =>
      rfl
  | cons m rest ih =>
      rw [List.cons_append, followAll_cons, followAll_cons,
        ih, List.cons_append]

/- An engine stays reachable, whatever is done to it. -/
theorem reachable_followAll
    {s : Session κ}
    (h : s.engine.Reachable)
    (moves : List (Move κ)) :
    (s.followAll moves).1.engine.Reachable := by
  induction moves generalizing s with
  | nil =>
      exact h
  | cons m rest ih =>
      exact ih (.obey (s.worked m.hand) m.command h)

end Session

end ChipEight
