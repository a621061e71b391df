import ChipEight.Console.Keypad
import ChipEight.Proofs.Instruction.Forms
import ChipEight.Proofs.Machine.Memory
import ChipEight.Proofs.Session.Outcome
import ChipEight.Proofs.Session.Reachable

/-
  Waiting for a key of a keypad.

  A wait begins by forgetting what was pressed before. From
  then on the keypad remembers the latest press of a key that
  it has, whatever else happens, until a step takes it. While
  there is none, steps leave the engine as it is and only the
  ticks change it.

  Key definitions include:
    * `ChipEight.Incident`
    * `ChipEight.Session.befallAll`
    * `ChipEight.Session.waitThrough`
    * `ChipEight.Engine.awaiting`
    * `ChipEight.Session.Waits`

  Main declarations:
    * `ChipEight.Session.waits_step_of_awaitKey`
    * `ChipEight.Session.Waits.befallAll`
    * `ChipEight.Session.Waits.waitThrough`
    * `ChipEight.Session.latest_press_is_received`
-/

namespace ChipEight

------------------------------------------------------------
-- Incidents
------------------------------------------------------------

/- What can happen between two steps. -/
inductive Incident where
  /- The player presses a key. -/
  | press (key : UInt8)
  /- The player lets a key go. -/
  | release (key : UInt8)
  /- The timers are counted down. -/
  | tick

namespace Incident

/- The key that is pressed, if the keypad has it. -/
def press? : Incident → Option UInt8
  | .press key => if key.toNat < 16 then some key else none
  | _ => none

/- Whether the timers are counted down. -/
def isTick : Incident → Bool
  | .tick => true
  | _ => false

end Incident

/- The keys of the keypad that are pressed, in order. -/
def pressesAmong (incidents : List Incident) : List UInt8 :=
  incidents.filterMap Incident.press?

/- The press of the first incident comes first. -/
theorem pressesAmong_cons
    (incident : Incident)
    (rest : List Incident) :
    pressesAmong (incident :: rest) =
      incident.press?.toList ++ pressesAmong rest := by
  unfold pressesAmong
  cases h : incident.press? with
  | none => rw [List.filterMap_cons_none h]; rfl
  | some key => rw [List.filterMap_cons_some h]; rfl

/- How often the timers are counted down. -/
def ticksAmong (incidents : List Incident) : Nat :=
  incidents.countP Incident.isTick

namespace Session

/- Let something happen to an engine with a keypad. -/
def befall
    (s : Session Keypad) : Incident → Session Keypad
  | .press key => { s with controls := s.controls.press key }
  | .release key =>
      { s with controls := s.controls.release key }
  | .tick => s.tick

/- Let things happen in turn. -/
def befallAll
    (s : Session Keypad)
    (incidents : List Incident) : Session Keypad :=
  incidents.foldl befall s

/-
  Make one step after each list of incidents, and collect the
  faults that are met.
-/
def waitThrough
    (s : Session Keypad) :
    List (List Incident) → Session Keypad × List Fault
  | [] => (s, [])
  | incidents :: rest =>
      let (s, fault) := (s.befallAll incidents).step
      let (s, faults) := s.waitThrough rest
      (s, fault.toList ++ faults)

end Session

------------------------------------------------------------
-- Timers
------------------------------------------------------------

namespace Timers

/- What so many counts leave of the timers. -/
def after
    (t : Timers)
    (ticks : Nat) : Timers where
  delay := UInt8.ofNat (t.delay.toNat - ticks)
  sound := UInt8.ofNat (t.sound.toNat - ticks)

/- No count leaves the timers as they are. -/
theorem after_zero (t : Timers) : t.after 0 = t := by
  simp [after]

/- Counting down is subtracting once more. -/
theorem countDown_ofNat_sub
    (value : UInt8)
    (ticks : Nat) :
    countDown (UInt8.ofNat (value.toNat - ticks)) =
      UInt8.ofNat (value.toNat - (ticks + 1)) := by
  have hValue := value.toNat_lt
  apply UInt8.toNat_inj.mp
  rw [toNat_countDown, UInt8.toNat_ofNat',
    UInt8.toNat_ofNat']
  omega

/- The timers can be counted down once more. -/
theorem tick_after
    (t : Timers)
    (ticks : Nat) :
    (t.after ticks).tick = t.after (ticks + 1) := by
  simp [tick, after, countDown_ofNat_sub]

end Timers

------------------------------------------------------------
-- Waiting Engines
------------------------------------------------------------

/-
  An engine that has begun to wait and was counted down so
  many times since: the counter has moved on by one word, and
  the tone follows the timers.
-/
def Engine.awaiting
    (e : Engine)
    (x : Register)
    (ticks : Nat) : Engine :=
  let m := e.machine
  let timers := m.timers.after ticks
  let pc := UInt16.ofNat ((m.processor.pc.toNat + 2) % 4096)
  { e with
    machine :=
      { m with
        processor := { m.processor with pc := pc }
        timers := timers }
    mode := .awaitingKey x
    toneOn := timers.audible }

namespace Session

/-
  Whether a session is one of an engine that has begun to
  wait, with so many ticks since, a press that was not taken
  yet or none, and a player who does not want to quit.
-/
structure Waits
    (s : Session Keypad)
    (e : Engine)
    (x : Register)
    (ticks : Nat)
    (press : Option UInt8) : Prop where
  engine : s.engine = e.awaiting x ticks
  lastPress : s.controls.lastPress = press
  quitting : s.controls.quitting = false

------------------------------------------------------------
-- The Beginning
------------------------------------------------------------

section Beginning

variable {κ : Type}

/- Records do not change the controls. -/
@[simp]
theorem controls_noteAll
    (s : Session κ)
    (records : List Record) :
    (s.noteAll records).controls = s.controls := by
  induction records generalizing s with
  | nil =>
      rfl
  | cons record rest ih =>
      change ((s.note record).noteAll rest).controls = _
      rw [ih]
      rfl

/- Following the sound timer asks nothing. -/
@[simp]
theorem controls_followTone (s : Session κ) :
    s.followTone.controls = s.controls := by
  by_cases h :
      s.engine.machine.timers.audible = s.engine.toneOn
  · rw [followTone_of_same h]
  · rw [followTone_of_change h]

/- Ticking asks nothing. -/
@[simp]
theorem controls_tick (s : Session κ) :
    s.tick.controls = s.controls := by
  cases h : s.engine.isHalted with
  | true =>
      rw [tick_of_halted h]
  | false =>
      rw [tick_of_not_halted h, controls_followTone]
      rfl

end Beginning

/- What awaits a key forgets what was pressed before. -/
theorem waits_perform_awaitKey
    {s : Session Keypad}
    (hMode : s.engine.mode = .running)
    (hQuit : s.controls.quitting = false)
    (x : Register) :
    (s.perform (.awaitKey x)).2 = none ∧
      (s.perform (.awaitKey x)).1.Waits s.engine x 0
        none := by
  have hAttempt :
      s.attempt (.awaitKey x) =
        .ok s.engine.machine.passWord :=
    rfl
  have hControls :
      (s.perform (.awaitKey x)).1.controls =
        { s.controls with lastPress := none } := by
    have hCarried :
        (s.carried (.awaitKey x)
          s.engine.machine.passWord).controls =
            s.controls := by
      rw [carried, setMachine, controls_noteAll]
      rfl
    rw [perform_eq_carried hAttempt, controls_followTone,
      ← hCarried]
    rfl
  refine ⟨?_, ?_, ?_, ?_⟩
  · rw [perform_eq_carried hAttempt]
  · rw [engine_perform_of_ok hMode hAttempt]
    simp only [Engine.awaiting, Timers.after_zero,
      Machine.passWord, Processor.advance_two]
    rfl
  · rw [hControls]
  · rw [hControls]
    exact hQuit

/-
  A running engine that comes to a word that awaits a key
  begins to wait.
-/
theorem waits_step_of_awaitKey
    {s : Session Keypad}
    {x : Register}
    (hMode : s.engine.mode = .running)
    (hWord :
      s.engine.machine.fetch = Word.ofByte 0xF x 0x0A)
    (hQuit : s.controls.quitting = false) :
    s.step.2 = none ∧
      s.step.1.Waits s.engine x 0 none := by
  have hAsk : s.askQuit.1 = false := hQuit
  have hDecode :
      Instruction.decode? s.askQuit.2.engine.machine.fetch =
        some (.awaitKey x) := by
    rw [engine_askQuit, hWord]
    exact Instruction.decode?_ofByte_awaitKey x
  rw [step_of_running hMode hAsk, runWord_of_some hDecode]
  apply waits_perform_awaitKey
  · exact hMode
  · exact hQuit

------------------------------------------------------------
-- Between Two Steps
------------------------------------------------------------

namespace Waits

variable {s : Session Keypad}
variable {e : Engine} {x : Register}
variable {ticks : Nat} {press : Option UInt8}

/- A waiting engine counts its timers down. -/
theorem tick
    (h : s.Waits e x ticks press) :
    s.tick.Waits e x (ticks + 1) press := by
  have hNot : s.engine.isHalted = false := by
    rw [h.engine]
    rfl
  refine ⟨?_, ?_, ?_⟩
  · rw [(exchanges_tick hNot).1, h.engine]
    simp only [Engine.awaiting, Timers.tick_after]
  · rw [controls_tick]
    exact h.lastPress
  · rw [controls_tick]
    exact h.quitting

/- The keypad remembers the press of a key that it has. -/
theorem befall
    (h : s.Waits e x ticks press)
    (incident : Incident) :
    (s.befall incident).Waits e x
      (ticks + ticksAmong [incident])
      (incident.press?.or press) := by
  cases incident with
  | press key =>
      by_cases hKey : key.toNat < 16
      · have hPress :
            s.controls.press key =
              { s.controls with
                held := s.controls.held.set key.toNat true hKey
                lastPress := some key } :=
          dif_pos hKey
        refine ⟨h.engine, ?_, ?_⟩
        · rw [Session.befall, hPress, Incident.press?,
            if_pos hKey]
          rfl
        · rw [Session.befall, hPress]
          exact h.quitting
      · have hPress : s.controls.press key = s.controls :=
          dif_neg hKey
        rw [Session.befall, hPress, Incident.press?,
          if_neg hKey]
        exact h
  | release key =>
      have hRelease :
          (s.controls.release key).lastPress =
              s.controls.lastPress ∧
            (s.controls.release key).quitting =
              s.controls.quitting := by
        unfold Keypad.release
        split
        · exact ⟨rfl, rfl⟩
        · exact ⟨rfl, rfl⟩
      refine ⟨h.engine, ?_, ?_⟩
      · exact hRelease.1.trans h.lastPress
      · exact hRelease.2.trans h.quitting
  | tick => exact h.tick

/- What was pressed last is remembered. -/
theorem befallAll
    (h : s.Waits e x ticks press)
    (incidents : List Incident) :
    (s.befallAll incidents).Waits e x
      (ticks + ticksAmong incidents)
      ((pressesAmong incidents).getLast?.or press) := by
  induction incidents generalizing s ticks press with
  | nil => exact h
  | cons incident rest ih =>
      have hRest := ih (h.befall incident)
      have hTicks :
          ticks + ticksAmong (incident :: rest) =
            ticks + ticksAmong [incident] +
              ticksAmong rest := by
        simp only [ticksAmong, List.countP_cons,
          List.countP_nil]
        omega
      have hLast :
          (pressesAmong (incident :: rest)).getLast?.or
              press =
            (pressesAmong rest).getLast?.or
              (incident.press?.or press) := by
        rw [pressesAmong_cons, List.getLast?_append,
          Option.or_assoc]
        cases incident.press? with
        | none => rfl
        | some key => rfl
      rw [hTicks, hLast]
      exact hRest

------------------------------------------------------------
-- Waiting Steps
------------------------------------------------------------

/- Nobody wants to quit while an engine waits. -/
theorem askQuit_eq_false
    (h : s.Waits e x ticks press) :
    s.askQuit.1 = false :=
  h.quitting

/- A step looks for a press and ends the wait or not. -/
theorem step_eq
    (h : s.Waits e x ticks press) :
    s.step = (s.askQuit.2.receiveKey x, none) := by
  have hMode : s.engine.mode = .awaitingKey x := by
    rw [h.engine]
    rfl
  exact step_of_awaiting hMode h.askQuit_eq_false

/- Without a press, the wait goes on. -/
theorem step_of_none
    (h : s.Waits e x ticks none) :
    s.step.2 = none ∧ s.step.1.Waits e x ticks none := by
  have hTake : s.askQuit.2.takePress.1 = none :=
    h.lastPress
  rw [h.step_eq, receiveKey_of_none hTake]
  exact ⟨rfl, h.engine, rfl, h.quitting⟩

/- With a press, the engine goes on with its key. -/
theorem step_of_some
    {key : UInt8}
    (h : s.Waits e x ticks (some key)) :
    s.step.2 = none ∧
      s.step.1.engine =
        { s.engine with
          machine :=
            s.engine.machine.setReg x (key &&& 0xF)
          mode := .running } := by
  have hTake : s.askQuit.2.takePress.1 = some key :=
    h.lastPress
  rw [h.step_eq, receiveKey_of_some hTake]
  exact ⟨rfl, rfl⟩

/-
  While no key of the keypad is pressed, the wait goes on and
  only the ticks are felt.
-/
theorem waitThrough
    (h : s.Waits e x ticks none)
    {rounds : List (List Incident)}
    (hQuiet :
      ∀ incidents ∈ rounds, pressesAmong incidents = []) :
    (s.waitThrough rounds).2 = [] ∧
      (s.waitThrough rounds).1.Waits e x
        (ticks + ticksAmong rounds.flatten) none := by
  induction rounds generalizing s ticks with
  | nil => exact ⟨rfl, h⟩
  | cons incidents rest ih =>
      have hFirst := h.befallAll incidents
      rw [hQuiet incidents List.mem_cons_self] at hFirst
      rcases hFirst.step_of_none with ⟨hFault, hStep⟩
      have hRest :
          ∀ later ∈ rest, pressesAmong later = [] := by
        intro later hLater
        exact hQuiet later (List.mem_cons_of_mem _ hLater)
      rcases ih hStep hRest with ⟨hFaults, hWaits⟩
      have hTicks :
          ticks + ticksAmong (incidents :: rest).flatten =
            ticks + ticksAmong incidents +
              ticksAmong rest.flatten := by
        simp only [ticksAmong, List.flatten_cons,
          List.countP_append]
        omega
      rw [hTicks]
      refine ⟨?_, hWaits⟩
      change
        (s.befallAll incidents).step.2.toList ++
          ((s.befallAll incidents).step.1.waitThrough
            rest).2 = []
      rw [hFault, hFaults]
      rfl

end Waits

------------------------------------------------------------
-- The Whole Wait
------------------------------------------------------------

/- The keys that are pressed are keys of the keypad. -/
theorem and_mask_of_mem_pressesAmong
    {incidents : List Incident}
    {key : UInt8}
    (h : key ∈ pressesAmong incidents) :
    key &&& 0xF = key := by
  rcases List.mem_filterMap.mp h with
    ⟨incident, _, hPress⟩
  cases incident with
  | press pressed =>
      rcases Option.ite_none_right_eq_some.mp hPress with
        ⟨hKey, hSame⟩
      cases hSame
      apply UInt8.toNat_inj.mp
      have hMask : (0xF : UInt8).toNat = 2 ^ 4 - 1 := rfl
      rw [UInt8.toNat_and, hMask,
        Nat.and_two_pow_sub_one_eq_mod,
        Nat.mod_eq_of_lt hKey]
  | release released => cases hPress
  | tick => cases hPress

/-
  A word that awaits a key does so however key events, ticks
  and steps follow each other. As long as no key of the keypad
  is pressed, steps leave the engine waiting, with its counter
  behind the word and all else as it was but for the ticks.
  The step after a press stores the latest key pressed, even
  if it was let go again, and changes nothing else.
-/
theorem latest_press_is_received
    {s : Session Keypad}
    {x : Register}
    (hMode : s.engine.mode = .running)
    (hWord :
      s.engine.machine.fetch = Word.ofByte 0xF x 0x0A)
    (hQuit : s.controls.quitting = false)
    {rounds : List (List Incident)}
    (hQuiet :
      ∀ incidents ∈ rounds, pressesAmong incidents = [])
    (incidents : List Incident) :
    let begun := s.step
    let waited := begun.1.waitThrough rounds
    let befallen := waited.1.befallAll incidents
    let ticks := ticksAmong rounds.flatten
    begun.2 = none ∧
      waited.2 = [] ∧
      waited.1.engine = s.engine.awaiting x ticks ∧
      befallen.engine =
        s.engine.awaiting x
          (ticks + ticksAmong incidents) ∧
      befallen.step.2 = none ∧
      match (pressesAmong incidents).getLast? with
      | none => befallen.step.1.engine = befallen.engine
      | some key =>
          befallen.step.1.engine =
            { befallen.engine with
              machine :=
                befallen.engine.machine.setReg x key
              mode := .running } := by
  intro begun waited befallen ticks
  rcases waits_step_of_awaitKey hMode hWord hQuit with
    ⟨hBegun, hBegins⟩
  rcases hBegins.waitThrough hQuiet with
    ⟨hWaited, hWaits⟩
  rw [Nat.zero_add] at hWaits
  have hBefallen := hWaits.befallAll incidents
  refine
    ⟨hBegun, hWaited, hWaits.engine, hBefallen.engine, ?_⟩
  cases hLast : (pressesAmong incidents).getLast? with
  | none =>
      rw [hLast] at hBefallen
      rcases hBefallen.step_of_none with ⟨hFault, hStep⟩
      refine ⟨hFault, ?_⟩
      exact hStep.engine.trans hBefallen.engine.symm
  | some key =>
      rw [hLast] at hBefallen
      have hKey : key &&& 0xF = key :=
        and_mask_of_mem_pressesAmong
          (List.mem_of_getLast? hLast)
      rcases hBefallen.step_of_some with ⟨hFault, hStep⟩
      rw [hKey] at hStep
      exact ⟨hFault, hStep⟩

/-
  A press from before the wait and a key that the keypad does
  not have leave an engine waiting. The later of two presses
  ends the wait, although it was let go again.
-/
theorem key_two_is_received :
    let s :=
      ((Session.initial
        (Engine.switchedOn ⟨100, 60⟩ (Generator.ofSeed 7))
        (Keypad.initial.press 5)).load [0xF3, 0x0A]).1
    let rounds : List (List Incident) :=
      [[.release 5, .tick], [.press 16]]
    let incidents : List Incident :=
      [.press 7, .press 2, .release 2]
    let waited := s.step.1.waitThrough rounds
    let befallen := waited.1.befallAll incidents
    (s.engine.mode = .running ∧
        s.engine.machine.fetch = Word.ofByte 0xF 3 0x0A ∧
        s.controls.quitting = false ∧
        ∀ l ∈ rounds, pressesAmong l = []) ∧
      waited.1.engine = s.engine.awaiting 3 1 ∧
      befallen.step.1.engine =
        { befallen.engine with
          machine := befallen.engine.machine.setReg 3 2
          mode := .running } := by
  intro s rounds incidents waited befallen
  have hMode : s.engine.mode = .running := rfl
  have hWord :
      s.engine.machine.fetch = Word.ofByte 0xF 3 0x0A := by
    decide +kernel
  have hQuit : s.controls.quitting = false := rfl
  have hQuiet : ∀ l ∈ rounds, pressesAmong l = [] := by
    decide
  rcases
      latest_press_is_received hMode hWord hQuit hQuiet
        incidents with
    ⟨_, _, hWaited, _, _, hReceived⟩
  exact
    ⟨⟨hMode, hWord, hQuit, hQuiet⟩, hWaited, hReceived⟩

end Session

end ChipEight
