import ChipEight.Proofs.Instruction.Forms
import ChipEight.Proofs.Machine.Effects
import ChipEight.Proofs.Machine.Memory
import ChipEight.Proofs.Session.Causes
import ChipEight.Proofs.Session.Moves

/-
  Calls and returns match.

  Only two instructions work on the call stack: a call adds
  one return address and a return takes the newest one off.
  So the addresses below the one that a call has added are
  out of reach until that one is taken, and taking it leads
  back behind the call.

  Key definitions include:
    * `ChipEight.Machine.callers`
    * `ChipEight.Session.StaysInCall`

  Main declarations:
    * `ChipEight.Machine.callers_execute`
    * `ChipEight.Engine.Outcome.keeps_call`
    * `ChipEight.Session.callers_followAll`
    * `ChipEight.Session.returns_match_calls`
-/

namespace ChipEight

------------------------------------------------------------
-- Instructions And The Call Stack
------------------------------------------------------------

namespace Machine

/- The return addresses of the open calls, oldest first. -/
def callers (m : Machine) : List UInt16 :=
  m.processor.stack.toList

/- A call adds the counter and goes to its target. -/
theorem callers_call
    {m after : Machine}
    {a : UInt16}
    (h : m.call a = .ok after) :
    after.callers = m.callers ++ [m.processor.pc] ∧
      after.processor.pc = Processor.wrap a := by
  rcases exists_push_of_call h with ⟨stack, hPush, rfl⟩
  exact ⟨CallStack.toList_push? hPush, rfl⟩

/- A return takes the newest address and goes there. -/
theorem callers_returnFromCall
    {m after : Machine}
    (h : m.returnFromCall = .ok after) :
    ∃ a,
      m.callers = after.callers ++ [a] ∧
        after.processor.pc = Processor.wrap a := by
  rcases exists_pop_of_returnFromCall h with
    ⟨a, stack, hPop, rfl⟩
  exact ⟨a, CallStack.toList_pop? hPop, rfl⟩

/- An operator leaves the call stack alone. -/
theorem callers_combine
    (m : Machine)
    (op : Operator)
    (x y : Register) :
    (m.combine op x y).callers = m.callers := by
  cases op with
  | _ => rfl

/- Putting bytes into registers leaves it alone. -/
theorem callers_foldl_setReg
    (m : Machine)
    (registers : List Register)
    (read : Register → UInt8) :
    (registers.foldl
      (fun n r => n.setReg r (read r)) m).callers =
        m.callers := by
  induction registers generalizing m with
  | nil =>
      rfl
  | cons r rest ih =>
      rw [List.foldl_cons, ih]
      rfl

/-
  An instruction leaves the call stack alone, or it calls, or
  it returns.
-/
theorem callers_execute
    {m after : Machine}
    {held : Bool}
    {instruction : Instruction}
    (h : m.execute held instruction = .ok after) :
    after.callers = m.callers ∨
      after.callers = m.callers ++ [m.processor.pc] ∨
      (instruction = .returnFromCall ∧
        ∃ a,
          m.callers = after.callers ++ [a] ∧
            after.processor.pc = Processor.wrap a) := by
  cases instruction with
  | returnFromCall =>
      have hReturn := callers_returnFromCall h
      exact Or.inr (Or.inr ⟨rfl, hReturn⟩)
  | call target =>
      have hCall := callers_call h
      exact Or.inr (Or.inl hCall.1)
  | combine op x y =>
      cases h
      exact Or.inl (m.callers_combine op x y)
  | restoreRegisters x =>
      cases h
      exact Or.inl (m.callers_foldl_setReg _ _)
  | skipIf test =>
      cases h
      apply Or.inl
      split
      · rfl
      · rfl
  | _ =>
      cases h
      exact Or.inl rfl

end Machine

------------------------------------------------------------
-- Steps Inside A Call
------------------------------------------------------------

/-
  A step inside a call stays inside it, or it carries out the
  return that leads back behind the call.
-/
theorem Engine.Outcome.keeps_call
    {e left : Engine}
    {talk : List Exchange}
    {deed : Option Deed}
    {fault : Option Fault}
    {base : List UInt16}
    {back : UInt16}
    (h : e.Outcome left talk deed fault)
    (hInside : base ++ [back] <+: e.machine.callers) :
    base ++ [back] <+: left.machine.callers ∨
      (deed =
          some { word := 0x00EE, after := left.machine } ∧
        left.machine.callers = base ∧
        left.machine.processor.pc =
          Processor.wrap back) := by
  cases h with
  | halted hMode => exact Or.inl hInside
  | quit hMode => exact Or.inl hInside
  | waits x hMode => exact Or.inl hInside
  | receives x key hMode => exact Or.inl hInside
  | faults met hMode => exact Or.inl hInside
  | carries instruction held press after hMode hWord hRun =>
      rcases Machine.callers_execute hRun with
        hSame | hCall | ⟨hReturn, a, hNewest, hBack⟩
      · apply Or.inl
        rw [hSame]
        exact hInside
      · apply Or.inl
        rw [hCall]
        exact hInside.trans (List.prefix_append _ _)
      · have hCallers :
            e.machine.callers = after.callers ++ [a] :=
          hNewest
        rw [hCallers, List.prefix_concat_iff] at hInside
        rcases hInside with hLast | hBelow
        · rcases List.append_inj' hLast rfl with
            ⟨hBase, hTop⟩
          cases hTop
          rw [hReturn, Instruction.decode?_eq_return_iff]
            at hWord
          rw [hWord]
          exact Or.inr ⟨rfl, hBase.symm, hBack⟩
        · exact Or.inl hBelow

namespace Session

variable {κ : Type} [Controls κ]
variable {s : Session κ}
variable {base : List UInt16} {back : UInt16}

/- So does a move that makes one step or one tick. -/
theorem follow_keeps_call
    {m : Move κ}
    (hMove : m.command = .step ∨ m.command = .tick)
    (hInside :
      base ++ [back] <+: s.engine.machine.callers) :
    let after := (s.follow m).1.engine.machine
    base ++ [back] <+: after.callers ∨
      (m.command = .step ∧
        (s.worked m.hand).deed? =
          some { word := 0x00EE, after := after } ∧
        after.callers = base ∧
        after.processor.pc = Processor.wrap back) := by
  rcases m with ⟨hand, command⟩
  rcases hMove with hStep | hTick
  · cases hStep
    rcases (s.worked hand).outcome_step with
      ⟨_, _, hOutcome⟩
    rcases hOutcome.keeps_call hInside with
      hStays | hReturns
    · exact Or.inl hStays
    · exact Or.inr ⟨rfl, hReturns⟩
  · cases hTick
    apply Or.inl
    change base ++ [back] <+:
      (s.worked hand).tick.engine.machine.callers
    cases hHalted : (s.worked hand).engine.isHalted with
    | true =>
        rw [tick_of_halted hHalted]
        exact hInside
    | false =>
        rw [(exchanges_tick hHalted).1]
        exact hInside

------------------------------------------------------------
-- The Time Inside A Call
------------------------------------------------------------

/-
  Whether there are never as few calls open as before some
  call, at the start of moves and after each of them.
-/
def StaysInCall
    (s : Session κ)
    (base : List UInt16)
    (moves : List (Move κ)) : Prop :=
  ∀ part,
    part <+: moves →
      (s.followAll part).1.engine.machine.callers.length ≠
        base.length

/- Behind the first move, the others stay inside the call. -/
theorem StaysInCall.tail
    {m : Move κ}
    {rest : List (Move κ)}
    (h : s.StaysInCall base (m :: rest)) :
    (s.follow m).1.StaysInCall base rest := by
  intro part hPart
  apply h (m :: part)
  exact List.cons_prefix_cons.mpr ⟨rfl, hPart⟩

/-
  Until as few calls are open again, the return address of the
  call stays where it is, on top of those from before it. The
  induction is on the moves.
-/
theorem callers_followAll
    {moves : List (Move κ)}
    (hMoves :
      ∀ m ∈ moves, m.command = .step ∨ m.command = .tick)
    (hInside :
      base ++ [back] <+: s.engine.machine.callers)
    (hStays : s.StaysInCall base moves) :
    base ++ [back] <+:
      (s.followAll moves).1.engine.machine.callers := by
  induction moves generalizing s with
  | nil =>
      exact hInside
  | cons m rest ih =>
      rcases List.forall_mem_cons.mp hMoves with
        ⟨hFirst, hRest⟩
      rcases follow_keeps_call hFirst hInside with
        hKept | ⟨_, _, hBase, _⟩
      · exact ih hRest hKept hStays.tail
      · have hOpen :=
          hStays [m]
            (List.cons_prefix_cons.mpr ⟨rfl, List.nil_prefix⟩)
        exact absurd (congrArg List.length hBase) hOpen

------------------------------------------------------------
-- Calls
------------------------------------------------------------

/-
  A step that comes to a call with room on the call stack adds
  the address behind the call and goes to its target.
-/
theorem step_of_call
    (hMode : s.engine.mode = .running)
    (hWord : s.engine.machine.fetch.toNat / 4096 = 0x2)
    (hRoom : s.engine.machine.callers.length < 16)
    (hQuit : s.askQuit.1 = false) :
    let pc := s.engine.machine.processor.pc
    s.step.2 = none ∧
      s.step.1.engine.machine.callers =
        s.engine.machine.callers ++
          [UInt16.ofNat ((pc.toNat + 2) % 4096)] ∧
      s.step.1.engine.machine.processor.pc =
        UInt16.ofNat
          (s.engine.machine.fetch.toNat % 4096) := by
  intro pc
  let target := Word.target s.engine.machine.fetch
  let t :=
    s.askQuit.2.note
      (.executing
        { address := pc
          word := s.engine.machine.fetch })
  have hDecode :
      Instruction.decode? s.askQuit.2.engine.machine.fetch =
        some (.call target) :=
    Instruction.decode?_of_class_call hWord
  have hStep : s.step = t.perform (.call target) := by
    rw [step_of_running hMode hQuit,
      runWord_of_some hDecode]
    rfl
  cases hCall :
      s.engine.machine.passWord.call
        (UInt16.ofNat target.val) with
  | error fault =>
      have hFull := (Machine.call_eq_error_iff.mp hCall).1
      have hDepth :
          s.engine.machine.callers.length = 16 := by
        rw [Machine.callers, CallStack.length_toList]
        exact hFull
      omega
  | ok after =>
      have hAttempt : t.attempt (.call target) = .ok after :=
        hCall
      have hRunning : t.engine.mode = .running := hMode
      rcases Machine.callers_call hCall with ⟨hAdded, hGone⟩
      have hEngine :=
        engine_perform_of_ok hRunning hAttempt
      rw [hStep, hEngine]
      refine ⟨?_, ?_, ?_⟩
      · rw [perform_of_ok hAttempt]
      · rw [hAdded, Machine.passWord,
          Processor.advance_two]
        rfl
      · rw [hGone]
        exact Processor.wrap_ofNat_of_lt target.isLt

/-
  Calls and returns match, whatever the program does to itself
  and whatever steps and ticks follow. As long as more calls
  are open than before a call, the address behind it stays on
  top of the addresses from before it. Once as few calls are
  open again, the word just carried out was a return, the
  engine goes on behind the call, and the addresses are those
  from before it.
-/
theorem returns_match_calls
    (hMode : s.engine.mode = .running)
    (hWord : s.engine.machine.fetch.toNat / 4096 = 0x2)
    (hRoom : s.engine.machine.callers.length < 16)
    (hQuit : s.askQuit.1 = false)
    {moves : List (Move κ)}
    (hMoves :
      ∀ m ∈ moves, m.command = .step ∨ m.command = .tick) :
    let base := s.engine.machine.callers
    let pc := s.engine.machine.processor.pc
    let back := UInt16.ofNat ((pc.toNat + 2) % 4096)
    let begun := s.step.1
    s.step.2 = none ∧
      begun.engine.machine.callers = base ++ [back] ∧
      begun.engine.machine.processor.pc =
        UInt16.ofNat
          (s.engine.machine.fetch.toNat % 4096) ∧
      (∀ early,
        early <+: moves →
          begun.StaysInCall base early →
            base ++ [back] <+:
              (begun.followAll
                early).1.engine.machine.callers) ∧
      ∀ early last,
        early ++ [last] <+: moves →
          begun.StaysInCall base early →
            let before := (begun.followAll early).1
            let after := (before.follow last).1.engine.machine
            after.callers.length = base.length →
              last.command = .step ∧
                (before.worked last.hand).deed? =
                  some { word := 0x00EE, after := after } ∧
                after.callers = base ∧
                after.processor.pc = back := by
  intro base pc back begun
  rcases step_of_call hMode hWord hRoom hQuit with
    ⟨hNone, hAdded, hTarget⟩
  have hInside :
      base ++ [back] <+: begun.engine.machine.callers :=
    ⟨[], by rw [hAdded, List.append_nil]⟩
  have hKept :
      ∀ early,
        early <+: moves →
          begun.StaysInCall base early →
            base ++ [back] <+:
              (begun.followAll
                early).1.engine.machine.callers := by
    intro early hEarly
    apply callers_followAll ?_ hInside
    intro m hMem
    exact hMoves m (hEarly.subset hMem)
  refine ⟨hNone, hAdded, hTarget, hKept, ?_⟩
  intro early last hEarly hStays before after hFew
  have hBefore : early <+: moves :=
    (List.prefix_append _ _).trans hEarly
  have hLast :
      last.command = .step ∨ last.command = .tick := by
    apply hMoves last
    apply hEarly.subset
    exact List.mem_append_right _ List.mem_cons_self
  rcases follow_keeps_call hLast (hKept early hBefore hStays)
    with hStill | ⟨hStep, hDeed, hBase, hBack⟩
  · have hLength :
        (base ++ [back]).length ≤ after.callers.length :=
      hStill.length_le
    rw [List.length_append, List.length_singleton] at hLength
    omega
  · rw [Processor.wrap_ofNat_of_lt
      (Nat.mod_lt _ (by decide))] at hBack
    exact ⟨hStep, hDeed, hBase, hBack⟩

/-
  A call at the start of a program is left by the return at
  its target, with a tick before it.
-/
theorem return_behind_call_at_start :
    let s :=
      ((Session.initial
        (Engine.switchedOn ⟨100, 60⟩ (Generator.ofSeed 7))
        Keypad.initial).load
          [0x22, 0x04, 0x12, 0x02, 0x00, 0xEE]).1
    let tick : Move Keypad := ⟨fun k => k.press 5, .tick⟩
    let step : Move Keypad := ⟨id, .step⟩
    let before := (s.step.1.followAll [tick]).1
    let after := (before.follow step).1.engine.machine
    (s.engine.mode = .running ∧
        s.engine.machine.fetch.toNat / 4096 = 0x2 ∧
        s.engine.machine.callers.length < 16 ∧
        s.askQuit.1 = false ∧
        (∀ m ∈ [tick, step],
          m.command = .step ∨ m.command = .tick) ∧
        s.step.1.StaysInCall s.engine.machine.callers
          [tick] ∧
        after.callers.length =
          s.engine.machine.callers.length) ∧
      s.step.1.engine.machine.callers = [0x202] ∧
      before.deed? = some { word := 0x00EE, after := after } ∧
      after.callers = [] ∧
      after.processor.pc = 0x202 := by
  intro s tick step before after
  have hMode : s.engine.mode = .running := rfl
  have hWord :
      s.engine.machine.fetch.toNat / 4096 = 0x2 := by
    decide +kernel
  have hRoom : s.engine.machine.callers.length < 16 := by
    decide +kernel
  have hQuit : s.askQuit.1 = false := rfl
  have hMoves :
      ∀ m ∈ [tick, step],
        m.command = .step ∨ m.command = .tick := by
    simp [tick, step]
  have hStays :
      s.step.1.StaysInCall s.engine.machine.callers
        [tick] := by
    intro part hPart
    have hConcat : part <+: [] ++ [tick] := hPart
    rcases List.prefix_concat_iff.mp hConcat with
      rfl | hNone
    · decide +kernel
    · cases List.prefix_nil.mp hNone
      decide +kernel
  have hFew :
      after.callers.length =
        s.engine.machine.callers.length := by
    decide +kernel
  rcases
      returns_match_calls hMode hWord hRoom hQuit hMoves with
    ⟨_, hAdded, _, _, hReturns⟩
  rcases
      hReturns [tick] step (List.prefix_refl _) hStays
        hFew with
    ⟨_, hDeed, hBase, hBack⟩
  exact
    ⟨⟨hMode, hWord, hRoom, hQuit, hMoves, hStays, hFew⟩,
      hAdded, hDeed, hBase, hBack⟩

end Session

end ChipEight
