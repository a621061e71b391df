import ChipEight.Proofs.Session.Causes
import ChipEight.Proofs.Session.Halted

/-
  What the crash report shows.

  Every fault takes a picture of the machine, and the report
  is the latest picture. As long as nothing faults behind the
  halt, there is one picture at most: it is taken where a
  fault halts the engine, and it stays from then on. But a
  program that does not fit is a fault also if the engine has
  halted before, for whatever reason, and its picture takes
  the place of the report.

  Key definitions include:
    * `ChipEight.Command.Fits`
    * `ChipEight.Session.picture?`
    * `ChipEight.Session.picturesAlong`
    * `ChipEight.Session.TellsWhyHalted`

  Main declarations:
    * `ChipEight.Engine.Outcome.crashReport_eq`
    * `ChipEight.Session.crashReport_obey`
    * `ChipEight.Session.crashReport_followAll`
    * `ChipEight.Session.crashReport_behind_halt`
    * `ChipEight.Session.report_is_latest_picture`
    * `ChipEight.Session.late_load_replaces_report`
-/

namespace ChipEight

/- Whether a program fits into memory, if one is loaded. -/
def Command.Fits : Command → Prop
  | .load program => program.length ≤ 3584
  | _ => True

------------------------------------------------------------
-- Pictures Of Faults
------------------------------------------------------------

namespace Session

variable {κ : Type}

/-
  The picture taken by something that led to a session: there
  is one if it faulted, of the machine that it left.
-/
def picture?
    (s : Session κ)
    (fault : Option Fault) : Option Snapshot :=
  fault.map (fun _ => s.engine.machine.snapshot)

end Session

/- A step that faults takes a picture, and no other does. -/
theorem Engine.Outcome.crashReport_eq
    {e left : Engine}
    {talk : List Exchange}
    {deed : Option Deed}
    {fault : Option Fault}
    (h : e.Outcome left talk deed fault) :
    left.crashReport =
      (fault.map (fun _ => left.machine.snapshot)).or
        e.crashReport := by
  cases h with
  | halted hMode => rfl
  | quit hMode => rfl
  | waits x hMode => rfl
  | receives x key hMode => rfl
  | faults met hMode => rfl
  | carries instruction held press after hMode hWord hRun =>
      rfl

namespace Session

variable {κ : Type} [Controls κ]

/- The report after a beat. -/
theorem crashReport_make
    (s : Session κ)
    (beat : Beat) :
    (s.make beat).1.engine.crashReport =
      ((s.make beat).1.picture? (s.make beat).2).or
        s.engine.crashReport := by
  cases beat with
  | cycle =>
      rcases s.outcome_step with ⟨_, _, hOutcome⟩
      exact hOutcome.crashReport_eq
  | tick =>
      change s.tick.engine.crashReport = s.engine.crashReport
      cases hHalted : s.engine.isHalted with
      | true => rw [tick_of_halted hHalted]
      | false => rw [(exchanges_tick hHalted).1]

/-
  The report after beats: the first fault halts the engine,
  so its picture is of the machine at the end.
-/
theorem crashReport_makeAll
    (s : Session κ)
    (beats : List Beat) :
    (s.makeAll beats).1.engine.crashReport =
      ((s.makeAll beats).1.picture?
        (s.makeAll beats).2.head?).or
          s.engine.crashReport := by
  induction beats generalizing s with
  | nil =>
      rfl
  | cons beat rest ih =>
      have hMake := s.crashReport_make beat
      rw [makeAll_cons]
      cases hFault : (s.make beat).2 with
      | none =>
          rw [hFault] at hMake
          rw [ih, hMake]
          rfl
      | some fault =>
          rw [hFault] at hMake
          rw [makeAll_of_halted
            (isHalted_make_of_fault hFault)]
          exact hMake

/- The report after a lapse of time. -/
theorem crashReport_advance
    (s : Session κ)
    (elapsed : Nat) :
    (s.advance elapsed).1.engine.crashReport =
      ((s.advance elapsed).1.picture?
        (s.advance elapsed).2).or
          s.engine.crashReport := by
  have hDue := s.makesDue_advance elapsed
  have hReport :
      (s.advance elapsed).1.engine.crashReport =
        (s.makeAll
          (s.engine.clocks.collect
            (min elapsed longestLapse)).due).1.engine.crashReport := by
    rw [← hDue.session]
    rfl
  rw [hReport, crashReport_makeAll, s.advance_fault_eq,
    picture?, picture?, hDue.session.machine_eq]

/- A program that is too large leaves a report. -/
omit [Controls κ] in
theorem crashReport_load_of_lt
    (s : Session κ)
    {program : List UInt8}
    (h : 3584 < program.length) :
    (s.load program).1.engine.crashReport =
      some s.engine.machine.snapshot := by
  have hFault :
      (s.load program).2 =
        some (.programTooLarge program.length 3584) := by
    rw [load_fault_eq, if_pos h]
  rw [load_of_fault hFault, engine_crash]

/- The report after a command. -/
theorem crashReport_obey
    (s : Session κ)
    (command : Command) :
    (s.obey command).1.engine.crashReport =
      ((s.obey command).1.picture? (s.obey command).2).or
        s.engine.crashReport := by
  cases command with
  | load program =>
      rw [obey]
      cases hLoad :
          s.engine.machine.memory.loadProgram program with
      | error fault =>
          rw [load_of_error hLoad, picture?, engine_crash]
          rfl
      | ok memory =>
          rw [load_of_ok hLoad]
          rfl
  | step => exact s.crashReport_make .cycle
  | tick => exact s.crashReport_make .tick
  | advance elapsed => exact s.crashReport_advance elapsed
  | halt =>
      rw [obey, engine_halt]
      rfl
  | reseed seed => rfl

/- The report after a move. -/
theorem crashReport_follow
    (s : Session κ)
    (m : Move κ) :
    (s.follow m).1.engine.crashReport =
      ((s.follow m).1.picture? (s.follow m).2).or
        s.engine.crashReport :=
  (s.worked m.hand).crashReport_obey m.command

------------------------------------------------------------
-- Pictures Along Moves
------------------------------------------------------------

/- The pictures taken by moves that fault, in order. -/
def picturesAlong
    (s : Session κ) : List (Move κ) → List Snapshot
  | [] => []
  | m :: rest =>
      let (t, fault) := s.follow m
      (t.picture? fault).toList ++ t.picturesAlong rest

/- The picture of the first move comes first. -/
theorem picturesAlong_cons
    (s : Session κ)
    (m : Move κ)
    (rest : List (Move κ)) :
    s.picturesAlong (m :: rest) =
      ((s.follow m).1.picture? (s.follow m).2).toList ++
        (s.follow m).1.picturesAlong rest :=
  rfl

/- The report is the latest picture, if there is one. -/
theorem crashReport_followAll
    (s : Session κ)
    (moves : List (Move κ)) :
    (s.followAll moves).1.engine.crashReport =
      (s.picturesAlong moves).getLast?.or
        s.engine.crashReport := by
  induction moves generalizing s with
  | nil =>
      rfl
  | cons m rest ih =>
      rw [followAll_cons, ih, crashReport_follow,
        picturesAlong_cons, List.getLast?_append,
        Option.or_assoc]
      cases (s.follow m).1.picture? (s.follow m).2 with
      | none => rfl
      | some picture => rfl

------------------------------------------------------------
-- Behind The Halt
------------------------------------------------------------

/- A halted engine faults at programs that do not fit only. -/
theorem fault_obey_of_halted
    {s : Session κ}
    {command : Command}
    (h : s.engine.isHalted = true)
    (hFits : command.Fits) :
    (s.obey command).2 = none := by
  cases hDrives : command.drives with
  | true => rw [obey_of_halted h hDrives]
  | false =>
      cases command with
      | load program =>
          rw [obey, load_fault_eq, if_neg]
          exact Nat.not_lt.mpr hFits
      | reseed seed => rfl
      | _ => cases hDrives

/- Otherwise it takes no picture. -/
theorem picturesAlong_of_halted
    {s : Session κ}
    {moves : List (Move κ)}
    (h : s.engine.isHalted = true)
    (hFits : ∀ m ∈ moves, m.command.Fits) :
    s.picturesAlong moves = [] := by
  induction moves generalizing s with
  | nil =>
      rfl
  | cons m rest ih =>
      rcases List.forall_mem_cons.mp hFits with
        ⟨hFirst, hRest⟩
      have hWorked :
          (s.worked m.hand).engine.isHalted = true :=
        h
      have hFault : (s.follow m).2 = none :=
        fault_obey_of_halted hWorked hFirst
      have hAfter :
          (s.follow m).1.engine.isHalted = true :=
        isHalted_obey hWorked m.command
      rw [picturesAlong_cons, hFault, ih hAfter hRest]
      rfl

/- As long as an engine has not halted, it has no report. -/
theorem crashReport_of_not_halted
    {s : Session κ}
    (h : s.engine.Reachable)
    {moves : List (Move κ)}
    (hNot : (s.followAll moves).1.engine.isHalted = false) :
    (s.followAll moves).1.engine.crashReport = none :=
  (reachable_followAll h moves).sound.crashReport_eq_none
    hNot

/-
  Behind a move that halts an engine, the report is the latest
  picture taken since then, or else the one taken by the move.
-/
theorem crashReport_behind_halt
    {s : Session κ}
    (h : s.engine.Reachable)
    {early late : List (Move κ)}
    {m : Move κ}
    (hBefore :
      (s.followAll early).1.engine.isHalted = false) :
    let halting := (s.followAll early).1.follow m
    (s.followAll (early ++ m :: late)).1.engine.crashReport =
      (halting.1.picturesAlong late).getLast?.or
        (halting.1.picture? halting.2) := by
  intro halting
  have hNone := crashReport_of_not_halted h hBefore
  have hHalting :=
    (s.followAll early).1.crashReport_follow m
  rw [hNone, Option.or_none] at hHalting
  rw [followAll_append, followAll_cons,
    crashReport_followAll, hHalting]

------------------------------------------------------------
-- Why An Engine Halted
------------------------------------------------------------

/-
  Whether the report that moves leave tells why the engine
  halted: there is none while it has not halted, and after
  the move that halts it, the report is the picture of the
  machine at that moment if the move faulted and none if it
  did not.
-/
def TellsWhyHalted
    (s : Session κ)
    (moves : List (Move κ)) : Prop :=
  let report := (s.followAll moves).1.engine.crashReport
  ((s.followAll moves).1.engine.isHalted = false →
      report = none) ∧
    ∀ early m late,
      moves = early ++ m :: late →
        let before := (s.followAll early).1
        let halting := before.follow m
        before.engine.isHalted = false →
          halting.1.engine.isHalted = true →
            report = halting.1.picture? halting.2

/-
  The report of an engine that has halted is the latest
  picture taken since then, or else the one taken by what
  halted it. So it tells why the engine halted if no program
  is too large that is loaded behind the halt.
-/
theorem report_is_latest_picture
    (rates : Rates)
    (generator : Generator)
    (controls : κ)
    (moves : List (Move κ)) :
    let s :=
      Session.initial
        (Engine.switchedOn rates generator) controls
    (∀ early m late,
        moves = early ++ m :: late →
          let before := (s.followAll early).1
          let halting := before.follow m
          before.engine.isHalted = false →
            (s.followAll moves).1.engine.crashReport =
              (halting.1.picturesAlong late).getLast?.or
                (halting.1.picture? halting.2)) ∧
      ((∀ early m late,
          moves = early ++ m :: late →
            (s.followAll early).1.engine.isHalted = true →
              m.command.Fits) →
        s.TellsWhyHalted moves) := by
  intro s
  have hReachable : s.engine.Reachable :=
    .switchedOn rates generator
  constructor
  · rintro early m late rfl before halting hBefore
    exact crashReport_behind_halt hReachable hBefore
  · intro hFits
    refine ⟨crashReport_of_not_halted hReachable, ?_⟩
    rintro early m late rfl before halting hBefore hHalting
    have hLate : ∀ later ∈ late, later.command.Fits := by
      intro later hMem
      rcases List.append_of_mem hMem with ⟨a, b, rfl⟩
      apply hFits (early ++ m :: a) later b
      · rw [List.append_assoc, List.cons_append]
      · rw [followAll_append, followAll_cons]
        exact isHalted_followAll hHalting a
    rw [crashReport_behind_halt hReachable hBefore,
      picturesAlong_of_halted hHalting hLate]
    rfl

/-
  An engine that was told to halt gets a report when a program
  is too large that is loaded afterwards.
-/
theorem late_load_replaces_report :
    let s :=
      Session.initial
        (Engine.switchedOn Rates.standard
          (Generator.ofSeed 0))
        Keypad.initial
    let program : List UInt8 := List.replicate 3585 0
    let moves : List (Move Keypad) :=
      [⟨id, .halt⟩, ⟨id, .load program⟩]
    ¬ s.TellsWhyHalted moves := by
  intro s program
  have hLength : 3584 < program.length := by
    rw [List.length_replicate]
    decide
  -- Only the length matters; the bytes are not looked at.
  clear_value program
  intro moves hTells
  have hReport :
      (s.followAll moves).1.engine.crashReport =
        some s.halt.engine.machine.snapshot :=
    crashReport_load_of_lt s.halt hLength
  have hNone :=
    hTells.2 [] ⟨id, .halt⟩ [⟨id, .load program⟩] rfl rfl rfl
  rw [hReport] at hNone
  cases hNone

end Session

end ChipEight
