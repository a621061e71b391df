import ChipEight.Processor

/-
  Requests to the registers, one after another.

  A request that faults leaves the registers as it found them.
  Any other push puts its address behind those on the stack,
  any other pop takes the last one off and tells it, and the
  remaining requests do not touch the stack. So after any
  history the stack holds what a list of at most sixteen
  addresses holds that has gone through the same history.

  Key definitions include:
    * `ChipEight.Processor.Request`
    * `ChipEight.Processor.Answer`
    * `ChipEight.Processor.serve`
    * `ChipEight.Processor.serveAll`
    * `ChipEight.Processor.Request.revise`
    * `ChipEight.Processor.remembered`

  Main declarations:
    * `ChipEight.Processor.answer_push_iff`
    * `ChipEight.Processor.answer_pop_iff`
    * `ChipEight.Processor.serve_of_isFault`
    * `ChipEight.Processor.serve_of_isForStack`
    * `ChipEight.Processor.toList_serve`
    * `ChipEight.Processor.toList_serveAll_initial`
-/

namespace ChipEight

namespace Processor

------------------------------------------------------------
-- Requests
------------------------------------------------------------

/- What the registers can be asked for. -/
inductive Request where
  /- Remember a return address. -/
  | push (a : UInt16)
  /- Take the newest return address. -/
  | pop
  /- Tell the byte in the register of a number. -/
  | get (number : UInt8)
  /- Put a byte into the register of a number. -/
  | set (number value : UInt8)
  /- Go on at an address. -/
  | jump (a : UInt16)
  /- Move the program counter forward. -/
  | advance (distance : UInt16)
deriving DecidableEq

/- What a request is answered with. -/
inductive Answer where
  | done
  | byte (value : UInt8)
  | address (a : UInt16)
  | fault (cause : Fault)
deriving DecidableEq

/- Whether a request was refused. -/
def Answer.isFault : Answer → Bool
  | .fault _ => true
  | .done | .byte _ | .address _ => false

/- The registers after a request, and its answer. -/
def serve
    (p : Processor) : Request → Processor × Answer
  | .push a =>
      match p.push a with
      | .error cause => (p, .fault cause)
      | .ok after => (after, .done)
  | .pop =>
      match p.pop with
      | .error cause => (p, .fault cause)
      | .ok (a, after) => (after, .address a)
  | .get number =>
      match p.get? number with
      | .error cause => (p, .fault cause)
      | .ok value => (p, .byte value)
  | .set number value =>
      match p.set? number value with
      | .error cause => (p, .fault cause)
      | .ok after => (after, .done)
  | .jump a => (p.jump a, .done)
  | .advance distance => (p.advance distance, .done)

/- The registers after requests in turn. -/
def serveAll
    (p : Processor)
    (history : List Request) : Processor :=
  history.foldl (fun q r => (q.serve r).1) p

/- Whether a request is one for the stack. -/
def Request.isForStack : Request → Bool
  | .push _ | .pop => true
  | .get _ | .set _ _ | .jump _ | .advance _ => false

/-
  What a request makes of a list of at most sixteen
  addresses, the oldest first.
-/
def Request.revise
    (addresses : List UInt16) : Request → List UInt16
  | .push a =>
      if addresses.length = 16 then
        addresses
      else
        addresses ++ [a]
  | .pop => addresses.dropLast
  | .get _ | .set _ _ | .jump _ | .advance _ => addresses

/-
  The addresses that a history has pushed and not popped yet,
  the oldest first.
-/
def remembered (history : List Request) : List UInt16 :=
  history.foldl Request.revise []

------------------------------------------------------------
-- One Request
------------------------------------------------------------

/-
  A full stack takes no further address, and any other has
  the address behind the others then.
-/
theorem serve_push_cases
    (p : Processor)
    (a : UInt16) :
    p.stack.toList.length = 16 ∧
        p.serve (.push a) = (p, .fault .stackOverflow) ∨
      p.stack.toList.length < 16 ∧
        ∃ stack : CallStack,
          stack.toList = p.stack.toList ++ [a] ∧
            p.serve (.push a) =
              ({ p with stack := stack }, .done) := by
  rw [CallStack.length_toList]
  cases hPush : p.stack.push? a with
  | none =>
      refine .inl ⟨CallStack.push?_eq_none_iff.mp hPush, ?_⟩
      rw [serve, push, hPush]
  | some stack =>
      have hFree : p.stack.depth ≠ 16 := by
        intro hFull
        rw [CallStack.push?_eq_none_iff.mpr hFull] at hPush
        cases hPush
      have hLt : p.stack.depth < 16 :=
        Nat.lt_of_le_of_ne p.stack.length_le hFree
      refine
        .inr ⟨hLt, stack, CallStack.toList_push? hPush, ?_⟩
      rw [serve, push, hPush]

/-
  An empty stack has no address to tell, and any other tells
  its last one and drops it.
-/
theorem serve_pop_cases (p : Processor) :
    p.stack.toList = [] ∧
        p.serve .pop = (p, .fault .stackUnderflow) ∨
      ∃ (a : UInt16) (stack : CallStack),
        p.stack.toList = stack.toList ++ [a] ∧
          p.serve .pop =
            ({ p with stack := stack }, .address a) := by
  cases hPop : p.stack.pop? with
  | none =>
      refine .inl ⟨CallStack.pop?_eq_none_iff.mp hPop, ?_⟩
      rw [serve, pop, hPop]
  | some popped =>
      rcases popped with ⟨a, stack⟩
      refine .inr ⟨a, stack, CallStack.toList_pop? hPop, ?_⟩
      rw [serve, pop, hPop]

/- Only a full stack refuses an address. -/
theorem answer_push_iff
    (p : Processor)
    (a : UInt16) :
    ((p.serve (.push a)).2 = .fault .stackOverflow ↔
        p.stack.toList.length = 16) ∧
      ((p.serve (.push a)).2 = .done ↔
        p.stack.toList.length < 16) := by
  rcases p.serve_push_cases a with
    ⟨hFull, hServe⟩ | ⟨hLt, _, _, hServe⟩
  · rw [hServe]
    simp [hFull]
  · rw [hServe]
    simp [hLt, Nat.ne_of_lt hLt]

/- Only an empty stack does not tell its last address. -/
theorem answer_pop_iff (p : Processor) :
    ((p.serve .pop).2 = .fault .stackUnderflow ↔
        p.stack.toList = []) ∧
      ∀ a,
        (p.serve .pop).2 = .address a ↔
          p.stack.toList.getLast? = some a := by
  rcases p.serve_pop_cases with
    ⟨hEmpty, hServe⟩ | ⟨newest, stack, hList, hServe⟩
  · rw [hServe, hEmpty]
    simp
  · rw [hServe, hList, List.getLast?_concat]
    simp

/- The byte in a register is told, if the number has one. -/
theorem serve_get_cases
    (p : Processor)
    (number : UInt8) :
    (∃ h : number.toNat < 16,
        p.serve (.get number) =
          (p, .byte (p.get ⟨number.toNat, h⟩))) ∨
      16 ≤ number.toNat ∧
        p.serve (.get number) =
          (p, .fault (.noSuchRegister number)) := by
  rcases Nat.lt_or_ge number.toNat 16 with hLt | hLe
  · refine .inl ⟨hLt, ?_⟩
    rw [serve, get?, dif_pos hLt]
  · refine .inr ⟨hLe, ?_⟩
    rw [serve, get?, dif_neg (Nat.not_lt.mpr hLe)]

/- A byte is put into a register, if the number has one. -/
theorem serve_set_cases
    (p : Processor)
    (number value : UInt8) :
    (∃ h : number.toNat < 16,
        p.serve (.set number value) =
          (p.set ⟨number.toNat, h⟩ value, .done)) ∨
      16 ≤ number.toNat ∧
        p.serve (.set number value) =
          (p, .fault (.noSuchRegister number)) := by
  rcases Nat.lt_or_ge number.toNat 16 with hLt | hLe
  · refine .inl ⟨hLt, ?_⟩
    rw [serve, set?, dif_pos hLt]
  · refine .inr ⟨hLe, ?_⟩
    rw [serve, set?, dif_neg (Nat.not_lt.mpr hLe)]

/- A request that is refused changes nothing. -/
theorem serve_of_isFault
    {p : Processor}
    {r : Request}
    (h : (p.serve r).2.isFault = true) :
    (p.serve r).1 = p := by
  cases r with
  | push a =>
      rcases p.serve_push_cases a with
        ⟨_, hServe⟩ | ⟨_, _, _, hServe⟩
      · rw [hServe]
      · rw [hServe] at h
        cases h
  | pop =>
      rcases p.serve_pop_cases with
        ⟨_, hServe⟩ | ⟨_, _, _, hServe⟩
      · rw [hServe]
      · rw [hServe] at h
        cases h
  | get number =>
      rcases p.serve_get_cases number with
        ⟨_, hServe⟩ | ⟨_, hServe⟩
      · rw [hServe]
      · rw [hServe]
  | set number value =>
      rcases p.serve_set_cases number value with
        ⟨_, hServe⟩ | ⟨_, hServe⟩
      · rw [hServe] at h
        cases h
      · rw [hServe]
  | jump a => cases h
  | advance distance => cases h

/- A request for the stack leaves the other registers alone. -/
theorem serve_of_isForStack
    (p : Processor)
    {r : Request}
    (h : r.isForStack = true) :
    (p.serve r).1.v = p.v ∧
      (p.serve r).1.index = p.index ∧
      (p.serve r).1.pc = p.pc := by
  cases r with
  | push a =>
      rcases p.serve_push_cases a with
        ⟨_, hServe⟩ | ⟨_, _, _, hServe⟩
      · rw [hServe]
        exact ⟨rfl, rfl, rfl⟩
      · rw [hServe]
        exact ⟨rfl, rfl, rfl⟩
  | pop =>
      rcases p.serve_pop_cases with
        ⟨_, hServe⟩ | ⟨_, _, _, hServe⟩
      · rw [hServe]
        exact ⟨rfl, rfl, rfl⟩
      · rw [hServe]
        exact ⟨rfl, rfl, rfl⟩
  | _ => cases h

/- Any other request leaves the stack alone. -/
theorem stack_serve
    (p : Processor)
    {r : Request}
    (h : r.isForStack = false) :
    (p.serve r).1.stack = p.stack := by
  cases r with
  | get number =>
      rcases p.serve_get_cases number with
        ⟨_, hServe⟩ | ⟨_, hServe⟩
      · rw [hServe]
      · rw [hServe]
  | set number value =>
      rcases p.serve_set_cases number value with
        ⟨_, hServe⟩ | ⟨_, hServe⟩
      · rw [hServe]
        rfl
      · rw [hServe]
  | jump a => rfl
  | advance distance => rfl
  | _ => cases h

/- The stack goes through a request as a list does. -/
theorem toList_serve
    (p : Processor)
    (r : Request) :
    (p.serve r).1.stack.toList =
      r.revise p.stack.toList := by
  cases r with
  | push a =>
      rcases p.serve_push_cases a with
        ⟨hFull, hServe⟩ | ⟨hLt, stack, hList, hServe⟩
      · rw [hServe, Request.revise, if_pos hFull]
      · rw [hServe, Request.revise, if_neg (by omega)]
        exact hList
  | pop =>
      rcases p.serve_pop_cases with
        ⟨hEmpty, hServe⟩ | ⟨a, stack, hList, hServe⟩
      · rw [hServe, Request.revise, hEmpty]
        rfl
      · rw [hServe, Request.revise, hList,
          List.dropLast_concat]
  | _ =>
      rw [p.stack_serve rfl]
      rfl

------------------------------------------------------------
-- Histories
------------------------------------------------------------

/- The stack goes through a history as a list does. -/
theorem toList_serveAll
    (p : Processor)
    (history : List Request) :
    (p.serveAll history).stack.toList =
      history.foldl Request.revise p.stack.toList := by
  induction history generalizing p with
  | nil => rfl
  | cons r rest ih =>
      rw [List.foldl_cons, ← toList_serve]
      exact ih _

/- The stack holds what was pushed and is not popped yet. -/
theorem toList_serveAll_initial (history : List Request) :
    (initial.serveAll history).stack.toList =
      remembered history :=
  initial.toList_serveAll history

/- An address that was popped makes room for the next one. -/
example :
    remembered [.push 0x202, .push 0x304, .pop, .push 0x406] =
      [0x202, 0x406] := by
  decide

end Processor

end ChipEight
