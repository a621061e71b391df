import ChipEight.Console.Keypad
import Mathlib.Data.List.DropRight
import Mathlib.Data.List.Induction

/-
  What a keypad answers is told by what was done to it.

  The keypad keeps three things apart: which keys are held,
  the latest press and the wish to quit. Each is told by the
  calls so far, in whatever order they came: a key is held if
  it was pressed rather than let go the last time, a press can
  be taken until it is, and a wish to quit stays. Keys that
  the keypad does not have change nothing.

  Key definitions include:
    * `ChipEight.Keypad.Call`
    * `ChipEight.Keypad.workAll`
    * `ChipEight.Keypad.HeldAfter`
    * `ChipEight.Keypad.pressAfter?`

  Main declarations:
    * `ChipEight.Keypad.isHeld_workAll_iff`
    * `ChipEight.Keypad.takePress_workAll`
    * `ChipEight.Keypad.quitting_workAll_iff`
-/

namespace ChipEight

namespace Keypad

------------------------------------------------------------
-- Calls
------------------------------------------------------------

/- What can be done to a keypad that changes it. -/
inductive Call where
  /- Press a key. -/
  | press (key : UInt8)
  /- Let a key go. -/
  | release (key : UInt8)
  /- Ask to quit. -/
  | quit
  /- Take the latest press. -/
  | take
deriving DecidableEq

/- The keypad after a call. -/
def work
    (k : Keypad) : Call → Keypad
  | .press key => k.press key
  | .release key => k.release key
  | .quit => k.quit
  | .take => k.takePress.2

/- The keypad after calls, in order. -/
def workAll
    (k : Keypad)
    (calls : List Call) : Keypad :=
  calls.foldl work k

/- One more call changes the keypad once more. -/
theorem workAll_concat
    (k : Keypad)
    (calls : List Call)
    (c : Call) :
    k.workAll (calls ++ [c]) = (k.workAll calls).work c :=
  List.foldl_concat work k c calls

/- Calls in two lists are made as in one. -/
theorem workAll_append
    (k : Keypad)
    (first second : List Call) :
    k.workAll (first ++ second) =
      (k.workAll first).workAll second :=
  List.foldl_append

namespace Call

/- Whether a call presses a key or lets it go. -/
def moves
    (key : UInt8) : Call → Bool
  | .press other => other == key
  | .release other => other == key
  | _ => false

/- The key that a call presses, if the keypad has it. -/
def pressed? : Call → Option UInt8
  | .press key => if key.toNat < 16 then some key else none
  | _ => none

end Call

------------------------------------------------------------
-- What Calls Tell
------------------------------------------------------------

/-
  Whether a key is held after calls: the keypad has it, and
  the last call that moved it was a press.
-/
def HeldAfter
    (calls : List Call)
    (key : UInt8) : Prop :=
  key.toNat < 16 ∧
    (calls.filter (Call.moves key)).getLast? =
      some (.press key)

instance
    (calls : List Call)
    (key : UInt8) :
    Decidable (HeldAfter calls key) := by
  unfold HeldAfter
  infer_instance

/- The calls since a press was taken, or since the start. -/
def sinceTaken (calls : List Call) : List Call :=
  calls.rtakeWhile (fun c => c != .take)

/- The latest press after calls that was not taken yet. -/
def pressAfter? (calls : List Call) : Option UInt8 :=
  ((sinceTaken calls).filterMap Call.pressed?).getLast?

/- The last call that moves a key tells whether it is held. -/
theorem heldAfter_concat_of_moves
    (calls : List Call)
    {c : Call}
    {key : UInt8}
    (h : c.moves key = true) :
    HeldAfter (calls ++ [c]) key ↔
      key.toNat < 16 ∧ c = .press key := by
  simp [HeldAfter, List.filter_append, h]

/- Other calls tell nothing about the key. -/
theorem heldAfter_concat_of_not_moves
    (calls : List Call)
    {c : Call}
    {key : UInt8}
    (h : ¬ c.moves key = true) :
    HeldAfter (calls ++ [c]) key ↔ HeldAfter calls key := by
  simp [HeldAfter, List.filter_append, h]

/- What was taken is gone. -/
theorem pressAfter?_concat_take (calls : List Call) :
    pressAfter? (calls ++ [.take]) = none := by
  have hStops : ¬ (Call.take != .take) = true := by
    decide
  rw [pressAfter?, sinceTaken,
    List.rtakeWhile_concat_neg (fun c => c != .take) calls
      .take hStops]
  rfl

/- Otherwise a later press goes before an earlier one. -/
theorem pressAfter?_concat_of_ne
    (calls : List Call)
    {c : Call}
    (h : c ≠ .take) :
    pressAfter? (calls ++ [c]) =
      c.pressed?.or (pressAfter? calls) := by
  have hGoesOn : (c != .take) = true :=
    bne_iff_ne.mpr h
  have hSingle :
      ([c].filterMap Call.pressed?).getLast? = c.pressed? := by
    cases hPress : c.pressed? with
    | none => rw [List.filterMap_cons_none hPress]; rfl
    | some key => rw [List.filterMap_cons_some hPress]; rfl
  rw [pressAfter?, sinceTaken,
    List.rtakeWhile_concat_pos (fun c => c != .take) calls c
      hGoesOn,
    List.filterMap_append, List.getLast?_append, hSingle]
  rfl

------------------------------------------------------------
-- Keys
------------------------------------------------------------

/- The keypad does not have other keys than sixteen. -/
theorem isHeld_of_ge
    (k : Keypad)
    {key : UInt8}
    (h : ¬ key.toNat < 16) :
    k.isHeld key = false := by
  simp [isHeld, Vector.getD, h]

/- A key is looked up among the sixteen. -/
theorem isHeld_of_lt
    (k : Keypad)
    {key : UInt8}
    (h : key.toNat < 16) :
    k.isHeld key = k.held[key.toNat] := by
  simp [isHeld, Vector.getD, h]

/- A key that is pressed is held. -/
theorem isHeld_press_self
    (k : Keypad)
    (key : UInt8) :
    (k.press key).isHeld key = decide (key.toNat < 16) := by
  by_cases h : key.toNat < 16
  · rw [isHeld_of_lt _ h, press]
    simp [h]
  · rw [isHeld_of_ge _ h]
    simp [h]

/- A key that is let go is not. -/
theorem isHeld_release_self
    (k : Keypad)
    (key : UInt8) :
    (k.release key).isHeld key = false := by
  by_cases h : key.toNat < 16
  · rw [isHeld_of_lt _ h, release]
    simp [h]
  · rw [isHeld_of_ge _ h]

/- Any other key stays as it is. -/
theorem isHeld_set_of_ne
    (k : Keypad)
    {key other : UInt8}
    (h : other ≠ key)
    (hOther : other.toNat < 16)
    (on : Bool)
    (press : Option UInt8) :
    { k with
      held := k.held.set other.toNat on hOther
      lastPress := press }.isHeld key = k.isHeld key := by
  have hPlace : other.toNat ≠ key.toNat := by
    intro hSame
    exact h (UInt8.toNat_inj.mp hSame)
  by_cases hKey : key.toNat < 16
  · rw [isHeld_of_lt _ hKey, isHeld_of_lt _ hKey]
    exact Vector.getElem_set_ne hOther hKey hPlace
  · rw [isHeld_of_ge _ hKey, isHeld_of_ge _ hKey]

/- A call that does not move a key leaves it as it is. -/
theorem isHeld_work_of_not_moves
    (k : Keypad)
    {key : UInt8}
    {c : Call}
    (h : ¬ c.moves key = true) :
    (k.work c).isHeld key = k.isHeld key := by
  cases c with
  | press other =>
      have hOther : other ≠ key := by
        simpa [Call.moves] using h
      rw [work, press]
      split
      · exact k.isHeld_set_of_ne hOther _ true _
      · rfl
  | release other =>
      have hOther : other ≠ key := by
        simpa [Call.moves] using h
      rw [work, release]
      split
      · exact k.isHeld_set_of_ne hOther _ false _
      · rfl
  | quit => rfl
  | take => rfl

/- No key is held at first. -/
theorem isHeld_initial (key : UInt8) :
    Keypad.initial.isHeld key = false := by
  by_cases h : key.toNat < 16
  · rw [isHeld_of_lt _ h, initial]
    exact Vector.getElem_replicate h
  · exact isHeld_of_ge _ h

/-
  A key is held if the calls so far tell it; the induction
  adds one call.
-/
theorem isHeld_workAll_iff
    (calls : List Call)
    (key : UInt8) :
    (initial.workAll calls).isHeld key = true ↔
      HeldAfter calls key := by
  induction calls using List.reverseRecOn with
  | nil =>
      change initial.isHeld key = true ↔ _
      simp [isHeld_initial, HeldAfter]
  | append_singleton calls c ih =>
      rw [workAll_concat]
      by_cases hMoves : c.moves key = true
      · rw [heldAfter_concat_of_moves calls hMoves]
        cases c with
        | press other =>
            cases beq_iff_eq.mp hMoves
            rw [work, isHeld_press_self]
            simp
        | release other =>
            cases beq_iff_eq.mp hMoves
            rw [work, isHeld_release_self]
            simp
        | quit => cases hMoves
        | take => cases hMoves
      · rw [isHeld_work_of_not_moves _ hMoves,
          heldAfter_concat_of_not_moves calls hMoves]
        exact ih

------------------------------------------------------------
-- Presses And Quitting
------------------------------------------------------------

/- A press that can be taken stays until it is taken. -/
theorem lastPress_work_of_ne
    (k : Keypad)
    {c : Call}
    (h : c ≠ .take) :
    (k.work c).lastPress = c.pressed?.or k.lastPress := by
  cases c with
  | press key =>
      rw [work, press, Call.pressed?]
      split
      · rfl
      · rfl
  | release key =>
      rw [work, release]
      split
      · rfl
      · rfl
  | quit => rfl
  | take => exact absurd rfl h

/-
  What can be taken is the latest press since the last one was
  taken; the induction adds one call.
-/
theorem takePress_workAll (calls : List Call) :
    (initial.workAll calls).takePress.1 =
      pressAfter? calls := by
  induction calls using List.reverseRecOn with
  | nil => rfl
  | append_singleton calls c ih =>
      change (initial.workAll (calls ++ [c])).lastPress = _
      rw [workAll_concat]
      by_cases hTake : c = .take
      · rw [hTake, pressAfter?_concat_take]
        rfl
      · rw [lastPress_work_of_ne _ hTake,
          pressAfter?_concat_of_ne calls hTake, ← ih]
        rfl

/- A wish to quit stays once it was made. -/
theorem quitting_workAll_iff (calls : List Call) :
    (initial.workAll calls).quitting = true ↔
      .quit ∈ calls := by
  induction calls using List.reverseRecOn with
  | nil => simp [workAll, initial]
  | append_singleton calls c ih =>
      rw [workAll_concat, List.mem_append,
        List.mem_singleton, ← ih]
      cases c with
      | press key =>
          rw [work, press]
          split
          · simp
          · simp
      | release key =>
          rw [work, release]
          split
          · simp
          · simp
      | quit => simp [work, quit]
      | take => simp [work, takePress]

end Keypad

end ChipEight
