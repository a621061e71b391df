import ChipEight.Proofs.Checked.Memory
import ChipEight.Proofs.Machine.Requests

/-
  Registers whose stack is kept in sixteen slots, in place.

  The slots in use are the first ones, and their number is
  kept beside them. A pop only lowers that number, so the
  address it told stays in its slot until a later push puts
  another one there. What the slots behind those in use hold
  is told by no one, so which registers a file stores does not
  depend on it.

  The slots pass all checks and answer every request as the
  list of addresses does, after any history.

  Key definitions include:
    * `ChipEight.RegisterFile`
    * `ChipEight.RegisterFile.live`
    * `ChipEight.RegisterFile.push?`
    * `ChipEight.RegisterFile.pop?`
    * `ChipEight.RegisterFile.serve?`
    * `ChipEight.RegisterFile.serveAll?`
    * `ChipEight.RegisterFile.Stores`
    * `ChipEight.RegisterFile.Matches`

  Main declarations:
    * `ChipEight.RegisterFile.Stores.serve`
    * `ChipEight.RegisterFile.Stores.serveAll`
    * `ChipEight.Processor.stack_follows_requests`
-/

namespace ChipEight

open Processor (Answer Request)

------------------------------------------------------------
-- Slots
------------------------------------------------------------

/- The registers, with sixteen slots for return addresses. -/
structure RegisterFile where
  v : Vector UInt8 16
  index : UInt16
  pc : UInt16
  depth : UInt8
  slots : Vector UInt16 16
deriving DecidableEq

namespace RegisterFile

/- All registers and slots zero, and no slot in use. -/
def initial : RegisterFile where
  v := Vector.replicate 16 0
  index := 0
  pc := 0x200
  depth := 0
  slots := Vector.replicate 16 0

/- The addresses in the slots in use, the oldest first. -/
def live (f : RegisterFile) : List UInt16 :=
  f.slots.toList.take f.depth.toNat

/-
  Remember a return address: the depth is raised, and the
  slot below it is filled.
-/
def push?
    (f : RegisterFile)
    (a : UInt16) : Option (RegisterFile × Answer) :=
  if f.depth.toNat = CallStack.capacity then
    some (f, .fault .stackOverflow)
  else do
    let depth ←
      Checked.sum Checked.byteLimit f.depth.toNat 1
    let slot ← Checked.difference depth 1
    if slot < CallStack.capacity then
      some
        ({ f with
            depth := UInt8.ofNat depth
            slots := f.slots.setIfInBounds slot a },
          .done)
    else
      none

/-
  Take the newest return address: the depth is lowered, and
  the slot that it then tells is read.
-/
def pop? (f : RegisterFile) :
    Option (RegisterFile × Answer) :=
  if f.depth.toNat = 0 then
    some (f, .fault .stackUnderflow)
  else do
    let depth ← Checked.difference f.depth.toNat 1
    let a ← f.slots[depth]?
    some
      ({ f with depth := UInt8.ofNat depth }, .address a)

/- The byte in the register of a number. -/
def look
    (f : RegisterFile)
    (number : UInt8) : Answer :=
  match f.v[number.toNat]? with
  | none => .fault (.noSuchRegister number)
  | some value => .byte value

/- Put a byte into the register of a number. -/
def put
    (f : RegisterFile)
    (number value : UInt8) : RegisterFile × Answer :=
  if h : number.toNat < 16 then
    ({ f with v := f.v.set number.toNat value h }, .done)
  else
    (f, .fault (.noSuchRegister number))

/- The registers after a request, and its answer. -/
def serve?
    (f : RegisterFile) :
    Request → Option (RegisterFile × Answer)
  | .push a => f.push? a
  | .pop => f.pop?
  | .get number => some (f, f.look number)
  | .set number value => some (f.put number value)
  | .jump a =>
      some ({ f with pc := Processor.wrap a }, .done)
  | .advance distance =>
      some
        ({ f with pc := Processor.wrap (f.pc + distance) },
          .done)

/- The registers after requests in turn. -/
def serveAll?
    (f : RegisterFile)
    (history : List Request) : Option RegisterFile :=
  history.foldlM (fun g r => (g.serve? r).map Prod.fst) f

------------------------------------------------------------
-- Pushing And Popping
------------------------------------------------------------

variable {f : RegisterFile}

/- A push to a file with a free slot passes all checks. -/
theorem push?_of_lt
    (a : UInt16)
    (h : f.depth.toNat < 16) :
    f.push? a =
      some
        ({ f with
            depth := UInt8.ofNat (f.depth.toNat + 1)
            slots := f.slots.setIfInBounds f.depth.toNat a },
          .done) := by
  have hFree : ¬ f.depth.toNat = CallStack.capacity :=
    Nat.ne_of_lt h
  have hSum : f.depth.toNat + 1 < Checked.byteLimit := by
    unfold Checked.byteLimit
    omega
  have hSlot : f.depth.toNat + 1 - 1 < CallStack.capacity :=
    h
  rw [push?, if_neg hFree, Checked.sum_bind hSum,
    Checked.difference_bind (by omega), if_pos hSlot]
  rfl

/- A pop from a file with a slot in use passes all checks. -/
theorem pop?_of_pos
    (hPos : 0 < f.depth.toNat)
    (hLe : f.depth.toNat ≤ 16) :
    f.pop? =
      some
        ({ f with
            depth := UInt8.ofNat (f.depth.toNat - 1) },
          .address f.slots[f.depth.toNat - 1]) := by
  have hSlot :
      f.slots[f.depth.toNat - 1]? =
        some f.slots[f.depth.toNat - 1] :=
    Vector.getElem?_eq_getElem _
  rw [pop?, if_neg (by omega),
    Checked.difference_bind hPos, hSlot]
  rfl

/-
  The address in the slot behind those in use joins them when
  the depth is raised. What has been in it does not matter.
-/
theorem take_setIfInBounds
    (slots : Vector UInt16 16)
    (a : UInt16)
    {depth : Nat}
    (h : depth < 16) :
    (slots.setIfInBounds depth a).toList.take (depth + 1) =
      slots.toList.take depth ++ [a] := by
  have hLength : depth < (slots.toList.set depth a).length := by
    rw [List.length_set, Vector.length_toList]
    exact h
  rw [Vector.toList_setIfInBounds,
    List.take_succ_eq_append_getElem hLength,
    List.take_set_of_le (Nat.le_refl depth),
    List.getElem_set_self]

/- The last slot in use holds the newest address. -/
theorem take_eq_concat
    (slots : Vector UInt16 16)
    {depth : Nat}
    (hPos : 0 < depth)
    (hLe : depth ≤ 16) :
    slots.toList.take depth =
      slots.toList.take (depth - 1) ++ [slots[depth - 1]] := by
  have hLength : depth - 1 < slots.toList.length := by
    rw [Vector.length_toList]
    omega
  have hTake := List.take_succ_eq_append_getElem hLength
  rw [Nat.sub_add_cancel hPos, Vector.getElem_toList] at hTake
  exact hTake

------------------------------------------------------------
-- Slots And Lists
------------------------------------------------------------

/-
  A file stores registers if it shows their bytes and
  counters, and has the addresses of their stack in the slots
  in use. Any other slot may hold anything.
-/
structure Stores
    (f : RegisterFile)
    (p : Processor) : Prop where
  v_eq : f.v = p.v
  index_eq : f.index = p.index
  pc_eq : f.pc = p.pc
  depth_eq : f.depth.toNat = p.stack.toList.length
  live_eq : f.live = p.stack.toList

/-
  What a file makes of a request matches what the registers
  make of it: there is the same answer, the file stores the
  registers that come out, and a request that is refused has
  left every slot as it was.
-/
def Matches
    (f : RegisterFile)
    (result : Option (RegisterFile × Answer))
    (served : Processor × Answer) : Prop :=
  ∃ after,
    result = some (after, served.2) ∧
      after.Stores served.1 ∧
      (served.2.isFault = true → after = f)

/- Before all requests, a file stores the registers. -/
theorem stores_initial : initial.Stores Processor.initial where
  v_eq := rfl
  index_eq := rfl
  pc_eq := rfl
  depth_eq := rfl
  live_eq := rfl

namespace Stores

variable {p : Processor}

/- A file with another number in use stores another stack. -/
theorem withStack
    (h : f.Stores p)
    {depth : Nat}
    {slots : Vector UInt16 16}
    {stack : CallStack}
    (hDepth : depth = stack.toList.length)
    (hLive : slots.toList.take depth = stack.toList) :
    { f with
      depth := UInt8.ofNat depth
      slots := slots : RegisterFile }.Stores
        { p with stack := stack } := by
  have hLe := stack.length_le
  rw [← CallStack.depth, ← CallStack.length_toList] at hLe
  have hByte : (UInt8.ofNat depth).toNat = depth := by
    rw [UInt8.toNat_ofNat']
    omega
  refine ⟨h.v_eq, h.index_eq, h.pc_eq, ?_, ?_⟩
  · exact hByte.trans hDepth
  · change slots.toList.take (UInt8.ofNat depth).toNat = _
    rw [hByte]
    exact hLive

/- A file may be left alone if the registers are, too. -/
theorem matches_same
    (h : f.Stores p)
    (answer : Answer) :
    f.Matches (some (f, answer)) (p, answer) := by
  refine ⟨f, rfl, h, ?_⟩
  intro _
  rfl

/- It may be changed if the request is not refused. -/
theorem matches_changed
    {after : RegisterFile}
    {answer : Answer}
    (h : after.Stores p)
    (hAnswer : answer.isFault = false) :
    f.Matches (some (after, answer)) (p, answer) := by
  refine ⟨after, rfl, h, ?_⟩
  intro hFault
  rw [hAnswer] at hFault
  cases hFault

/- Slots take a push as the list of addresses does. -/
theorem push
    (h : f.Stores p)
    (a : UInt16) :
    f.Matches (f.push? a) (p.serve (.push a)) := by
  rcases p.serve_push_cases a with
    ⟨hFull, hServe⟩ | ⟨hLt, stack, hList, hServe⟩
  · have hDepth : f.depth.toNat = CallStack.capacity :=
      h.depth_eq.trans hFull
    rw [hServe, push?, if_pos hDepth]
    exact h.matches_same _
  · have hDepth : f.depth.toNat < 16 := by
      rw [h.depth_eq]
      exact hLt
    rw [hServe, push?_of_lt a hDepth]
    refine matches_changed (h.withStack ?_ ?_) rfl
    · rw [hList, h.depth_eq, List.length_append]
      rfl
    · rw [take_setIfInBounds f.slots a hDepth, hList,
        ← h.live_eq]
      rfl

/- Slots take a pop as the list of addresses does. -/
theorem pop (h : f.Stores p) :
    f.Matches f.pop? (p.serve .pop) := by
  rcases p.serve_pop_cases with
    ⟨hEmpty, hServe⟩ | ⟨a, stack, hList, hServe⟩
  · have hDepth : f.depth.toNat = 0 := by
      rw [h.depth_eq, hEmpty]
      rfl
    rw [hServe, pop?, if_pos hDepth]
    exact h.matches_same _
  · have hDepth :
        f.depth.toNat = stack.toList.length + 1 := by
      rw [h.depth_eq, hList, List.length_append]
      rfl
    have hPos : 0 < f.depth.toNat := by
      omega
    have hLe : f.depth.toNat ≤ 16 := by
      rw [h.depth_eq, CallStack.length_toList]
      exact p.stack.length_le
    -- the slots in use, split as the list of addresses is
    have hSplit := take_eq_concat f.slots hPos hLe
    rw [← live, h.live_eq, hList] at hSplit
    rcases List.append_inj' hSplit rfl with
      ⟨hOlder, hNewest⟩
    cases hNewest
    rw [hServe, pop?_of_pos hPos hLe]
    refine matches_changed (h.withStack ?_ hOlder.symm) rfl
    omega

/- Every request is taken alike. -/
theorem serve
    (h : f.Stores p)
    (r : Request) :
    f.Matches (f.serve? r) (p.serve r) := by
  cases r with
  | push a => exact h.push a
  | pop => exact h.pop
  | get number =>
      rcases p.serve_get_cases number with
        ⟨hLt, hServe⟩ | ⟨hLe, hServe⟩
      · rw [hServe, serve?, look,
          Vector.getElem?_eq_getElem hLt, h.v_eq]
        exact h.matches_same _
      · rw [hServe, serve?, look, Vector.getElem?_eq_none hLe]
        exact h.matches_same _
  | set number value =>
      rcases p.serve_set_cases number value with
        ⟨hLt, hServe⟩ | ⟨hLe, hServe⟩
      · rw [hServe, serve?, put, dif_pos hLt]
        refine matches_changed ?_ rfl
        refine
          ⟨?_, h.index_eq, h.pc_eq, h.depth_eq, h.live_eq⟩
        change f.v.set number.toNat value hLt = _
        rw [h.v_eq]
        rfl
      · rw [hServe, serve?, put, dif_neg (Nat.not_lt.mpr hLe)]
        exact h.matches_same _
  | jump a =>
      refine matches_changed ?_ rfl
      exact ⟨h.v_eq, h.index_eq, rfl, h.depth_eq, h.live_eq⟩
  | advance distance =>
      refine matches_changed ?_ rfl
      refine
        ⟨h.v_eq, h.index_eq, ?_, h.depth_eq, h.live_eq⟩
      change Processor.wrap (f.pc + distance) = _
      rw [h.pc_eq]
      rfl

/- Every history passes all checks, and is stored. -/
theorem serveAll
    (h : f.Stores p)
    (history : List Request) :
    ∃ after,
      f.serveAll? history = some after ∧
        after.Stores (p.serveAll history) := by
  induction history generalizing f p with
  | nil => exact ⟨f, rfl, h⟩
  | cons r rest ih =>
      rcases h.serve r with ⟨next, hServe, hStores, _⟩
      rcases ih hStores with ⟨after, hAll, hAfter⟩
      refine ⟨after, ?_, hAfter⟩
      rw [serveAll?, List.foldlM_cons, hServe]
      exact hAll

end Stores

end RegisterFile

------------------------------------------------------------
-- Any History
------------------------------------------------------------

namespace Processor

/-
  After any history the stack holds the addresses that were
  pushed and are not popped yet, at most sixteen of them. A
  push is refused if there are sixteen, and else it is done; a
  pop is refused if there is none, and else it tells the
  latest of them. A request that is refused changes nothing,
  and one for the stack changes no other register.

  Registers with sixteen slots, kept in place, answer the
  same and hold the same. They, too, are not changed by what
  they refuse, and that includes the slots out of use.
-/
theorem stack_follows_requests (history : List Request) :
    let p := initial.serveAll history
    let addresses := remembered history
    (p.stack.toList = addresses ∧
        p.stack.depth = addresses.length ∧
        addresses.length ≤ 16) ∧
      (∀ a,
        ((p.serve (.push a)).2 = .fault .stackOverflow ↔
            addresses.length = 16) ∧
          ((p.serve (.push a)).2 = .done ↔
            addresses.length < 16)) ∧
      (((p.serve .pop).2 = .fault .stackUnderflow ↔
            addresses = []) ∧
          ∀ a,
            (p.serve .pop).2 = .address a ↔
              addresses.getLast? = some a) ∧
      (∀ r,
        (p.serve r).2.isFault = true → (p.serve r).1 = p) ∧
      (∀ r,
        r.isForStack = true →
          (p.serve r).1.v = p.v ∧
            (p.serve r).1.index = p.index ∧
            (p.serve r).1.pc = p.pc) ∧
      ∃ f,
        RegisterFile.initial.serveAll? history = some f ∧
          f.Stores p ∧
          ∀ r, f.Matches (f.serve? r) (p.serve r) := by
  intro p addresses
  have hList : p.stack.toList = addresses :=
    toList_serveAll_initial history
  have hDepth : p.stack.depth = addresses.length := by
    rw [← hList, CallStack.length_toList]
  have hBound : addresses.length ≤ 16 := by
    rw [← hDepth]
    exact p.stack.length_le
  rw [← hList] at hDepth hBound ⊢
  refine
    ⟨⟨rfl, hDepth, hBound⟩, p.answer_push_iff,
      p.answer_pop_iff, ?_, ?_, ?_⟩
  · intro r
    exact serve_of_isFault
  · intro r
    exact p.serve_of_isForStack
  · rcases RegisterFile.stores_initial.serveAll history with
      ⟨f, hAll, hStores⟩
    exact ⟨f, hAll, hStores, hStores.serve⟩

/-
  Seventeen pushes, of which the last is refused, two pops, a
  byte for a register that does not exist, and one more push:
  the next pop tells what that push has brought, and the last
  slot still holds what was popped first.
-/
theorem popped_address_stays_in_slot :
    let history : List Request :=
      (List.range 17).map (fun k => .push (UInt16.ofNat k)) ++
        [.pop, .pop, .set 16 1, .push 0xBEEF]
    let p := initial.serveAll history
    p.stack.depth = 15 ∧
      (p.serve .pop).2 = .address 0xBEEF ∧
      (p.serve (.set 16 1)).2 = .fault (.noSuchRegister 16) ∧
      (p.serve (.set 16 1)).1 = p ∧
      (p.serve .pop).1.pc = p.pc ∧
      ∃ f,
        RegisterFile.initial.serveAll? history = some f ∧
          f.live = remembered history ∧
          (f.slots[14], f.slots[15]) = (0xBEEF, 15) ∧
          ∃ after,
            f.serve? (.set 16 1) =
                some (after, .fault (.noSuchRegister 16)) ∧
              after = f := by
  intro history p
  have hSlots :
      (RegisterFile.initial.serveAll? history).map
          (fun g => (g.slots[14], g.slots[15])) =
        some (0xBEEF, 15) := by
    decide +kernel
  have hLength : (remembered history).length = 15 := by
    decide +kernel
  have hNewest :
      (remembered history).getLast? = some 0xBEEF := by
    decide +kernel
  have hRefused :
      (p.serve (.set 16 1)).2 =
        .fault (.noSuchRegister 16) := by
    decide +kernel
  have hFault : (p.serve (.set 16 1)).2.isFault = true :=
    congrArg Answer.isFault hRefused
  rcases stack_follows_requests history with
    ⟨⟨hList, hDepth, _⟩, _, ⟨_, hPop⟩, hKept, hApart, f,
      hAll, hStores, hServe⟩
  rw [hAll] at hSlots
  have hCounter := (hApart .pop rfl).2.2
  rcases hServe (.set 16 1) with ⟨after, hAfter, _, hSame⟩
  refine ⟨?_, ?_, ?_, ?_, ?_, f, hAll, ?_, ?_, ?_⟩
  · exact hDepth.trans hLength
  · exact (hPop 0xBEEF).mpr hNewest
  · exact hRefused
  · exact hKept (.set 16 1) hFault
  -- without this, the whole history would be worked out
  · with_reducible exact hCounter
  · exact hStores.live_eq.trans hList
  · exact Option.some.inj hSlots
  · refine ⟨after, ?_, hSame hFault⟩
    rw [← hRefused]
    exact hAfter

end Processor

end ChipEight
