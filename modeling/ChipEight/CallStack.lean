/-
  The stack of return addresses, sixteen at most.

  Key definitions include:
    * `ChipEight.CallStack`
    * `ChipEight.CallStack.push?`
    * `ChipEight.CallStack.pop?`
    * `ChipEight.CallStack.toList`
-/

namespace ChipEight

/- Return addresses, the newest first. -/
structure CallStack where
  newestFirst : List UInt16
  length_le : newestFirst.length ≤ 16
deriving DecidableEq

namespace CallStack

/- How deep calls may be nested. -/
def capacity : Nat :=
  16

/- No call has been made. -/
def empty : CallStack where
  newestFirst := []
  length_le := by simp

/- The calls that have not returned yet. -/
def depth (s : CallStack) : Nat :=
  s.newestFirst.length

/- The return addresses, the oldest first. -/
def toList (s : CallStack) : List UInt16 :=
  s.newestFirst.reverse

/- Add a return address, unless the stack is full. -/
def push?
    (s : CallStack)
    (a : UInt16) : Option CallStack :=
  if h : s.newestFirst.length < 16 then
    some
      { newestFirst := a :: s.newestFirst
        length_le := h }
  else
    none

/- Take the newest return address off, if there is one. -/
def pop? (s : CallStack) : Option (UInt16 × CallStack) :=
  match s with
  | ⟨[], _⟩ => none
  | ⟨a :: rest, h⟩ =>
      some
        (a,
          { newestFirst := rest
            length_le := Nat.le_of_succ_le h })

------------------------------------------------------------
-- The Stack As A List
------------------------------------------------------------

/- The depth is the number of addresses. -/
theorem length_toList (s : CallStack) :
    s.toList.length = s.depth := by
  simp [toList, depth]

/- No stack is deeper than its capacity. -/
theorem depth_le_capacity (s : CallStack) :
    s.depth ≤ capacity :=
  s.length_le

/- A pushed address is the newest one. -/
theorem toList_push?
    {s t : CallStack}
    {a : UInt16}
    (h : s.push? a = some t) :
    t.toList = s.toList ++ [a] := by
  unfold push? at h
  split at h
  · cases h
    simp [toList]
  · cases h

/- Only a full stack takes no further address. -/
theorem push?_eq_none_iff
    {s : CallStack}
    {a : UInt16} :
    s.push? a = none ↔ s.depth = capacity := by
  have hLe := s.length_le
  unfold push? depth capacity
  constructor
  · intro h
    split at h
    · cases h
    · omega
  · intro h
    rw [dif_neg]
    omega

/- The popped address was the newest one. -/
theorem toList_pop?
    {s t : CallStack}
    {a : UInt16}
    (h : s.pop? = some (a, t)) :
    s.toList = t.toList ++ [a] := by
  unfold pop? at h
  split at h
  · cases h
  · cases h
    simp [toList]

/- Only an empty stack yields no address. -/
theorem pop?_eq_none_iff {s : CallStack} :
    s.pop? = none ↔ s.toList = [] := by
  rcases s with ⟨addresses, h⟩
  cases addresses with
  | nil =>
      simp [pop?, toList]
  | cons a rest =>
      simp [pop?, toList]

end CallStack

end ChipEight
