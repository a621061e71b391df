import ChipEight.Proofs.Schedule.Lapse
import ChipEight.Proofs.Session.Moves

/-
  An engine that has halted does nothing any more.

  Whatever drives an engine looks first whether it has halted
  and leaves it alone then. A program may still be loaded and
  the random bytes may be started anew, but neither makes the
  engine run again.

  Key definitions include:
    * `ChipEight.Command.drives`
    * `ChipEight.Engine.SameButStores`

  Main declarations:
    * `ChipEight.Session.obey_of_halted`
    * `ChipEight.Session.followAll_of_halted`
    * `ChipEight.Session.sameButStores_followAll`
    * `ChipEight.Session.halted_for_good`
-/

namespace ChipEight

/- Whether a command drives the engine or stops it. -/
def Command.drives : Command → Bool
  | .step => true
  | .tick => true
  | .advance _ => true
  | .halt => true
  | _ => false

------------------------------------------------------------
-- What Is Prepared
------------------------------------------------------------

namespace Engine

/-
  Whether two engines are the same but for what is prepared
  while nothing runs: the memory and the size of the program
  in it, the random bytes, and what is told about a program
  that could not be loaded.
-/
def SameButStores (before after : Engine) : Prop :=
  after =
    { before with
      machine :=
        { before.machine with
          memory := after.machine.memory
          generator := after.machine.generator }
      programSize := after.programSize
      crashReport := after.crashReport }

/- Being the same but for the stores can be chained. -/
theorem SameButStores.trans
    {first second third : Engine}
    (h : first.SameButStores second)
    (hNext : second.SameButStores third) :
    first.SameButStores third := by
  unfold SameButStores at h hNext ⊢
  rw [hNext, h]

end Engine

namespace Session

variable {κ : Type} [Controls κ]

------------------------------------------------------------
-- One Move
------------------------------------------------------------

/- A halted engine is not driven. -/
theorem obey_of_halted
    {s : Session κ}
    {command : Command}
    (h : s.engine.isHalted = true)
    (hDrives : command.drives = true) :
    s.obey command = (s, none) := by
  cases command with
  | load program => cases hDrives
  | step => exact step_of_halted h
  | tick => rw [obey, tick_of_halted h]
  | advance elapsed => rw [obey, advance, if_pos h]
  | halt => rw [obey, halt_of_halted h]
  | reseed seed => cases hDrives

/- A halted engine only has its stores changed. -/
theorem sameButStores_obey
    {s : Session κ}
    (h : s.engine.isHalted = true)
    (command : Command) :
    s.engine.SameButStores (s.obey command).1.engine ∧
      (s.obey command).1.exchanges = s.exchanges := by
  cases hDrives : command.drives with
  | true =>
      rw [obey_of_halted h hDrives]
      exact ⟨rfl, rfl⟩
  | false =>
      cases command with
      | load program =>
          refine ⟨?_, (s.face_load program).2⟩
          rw [obey]
          cases hLoad :
              s.engine.machine.memory.loadProgram program with
          | error fault =>
              rw [load_of_error hLoad, engine_crash,
                ← Engine.isHalted_iff.mp h]
              rfl
          | ok memory =>
              rw [load_of_ok hLoad]
              rfl
      | reseed seed => exact ⟨rfl, rfl⟩
      | _ => cases hDrives

/- A step of a halted engine carries nothing out. -/
theorem deed?_of_halted
    {s : Session κ}
    (h : s.engine.isHalted = true) :
    s.deed? = none := by
  apply deed?_of_not
  simp [Engine.isHalted_iff.mp h]

/- Beats of a halted engine carry nothing out. -/
theorem deedsAmong_of_halted
    {s : Session κ}
    (h : s.engine.isHalted = true)
    (beats : List Beat) :
    s.deedsAmong beats = [] := by
  induction beats with
  | nil =>
      rfl
  | cons beat rest ih =>
      rw [deedsAmong, make_of_halted h, ih]
      cases beat with
      | cycle =>
          rw [deedOf?, deed?_of_halted h]
          rfl
      | tick => rfl

/- A halted engine carries nothing out. -/
theorem deedsOf_of_halted
    {s : Session κ}
    (h : s.engine.isHalted = true)
    (command : Command) :
    s.deedsOf command = [] := by
  cases command with
  | step =>
      rw [deedsOf, deed?_of_halted h]
      rfl
  | advance elapsed => exact deedsAmong_of_halted h _
  | _ => rfl

------------------------------------------------------------
-- Moves In Turn
------------------------------------------------------------

variable {s : Session κ}

/- Nothing that drives it changes a halted engine. -/
theorem followAll_of_halted
    (h : s.engine.isHalted = true)
    {moves : List (Move κ)}
    (hDrive : ∀ m ∈ moves, m.command.drives = true) :
    s.followAll moves =
      (s.worked (handsOf moves),
        moves.map (fun _ => none)) := by
  induction moves generalizing s with
  | nil =>
      rfl
  | cons m rest ih =>
      rcases List.forall_mem_cons.mp hDrive with
        ⟨hFirst, hRest⟩
      have hWorked :
          (s.worked m.hand).engine.isHalted = true :=
        h
      have hFollow :
          s.follow m = (s.worked m.hand, none) :=
        obey_of_halted hWorked hFirst
      rw [followAll_cons, hFollow, ih hWorked hRest]
      rfl

/- Whatever is done, a halted engine stays halted. -/
theorem isHalted_followAll
    (h : s.engine.isHalted = true)
    (moves : List (Move κ)) :
    (s.followAll moves).1.engine.isHalted = true := by
  induction moves generalizing s with
  | nil =>
      exact h
  | cons m rest ih =>
      have hWorked :
          (s.worked m.hand).engine.isHalted = true :=
        h
      exact ih (isHalted_obey hWorked m.command)

/-
  Whatever is done, a halted engine only has its stores
  changed, says nothing and carries nothing out.
-/
theorem sameButStores_followAll
    (h : s.engine.isHalted = true)
    (moves : List (Move κ)) :
    s.engine.SameButStores
        (s.followAll moves).1.engine ∧
      (s.followAll moves).1.exchanges = s.exchanges ∧
      s.deedsAlong moves = [] := by
  induction moves generalizing s with
  | nil =>
      exact ⟨rfl, rfl, rfl⟩
  | cons m rest ih =>
      have hWorked :
          (s.worked m.hand).engine.isHalted = true :=
        h
      rcases sameButStores_obey hWorked m.command with
        ⟨hStores, hExchanges⟩
      rcases ih (isHalted_obey hWorked m.command) with
        ⟨hRestStores, hRestExchanges, hRestDeeds⟩
      refine ⟨?_, ?_, ?_⟩
      · exact hStores.trans hRestStores
      · exact hRestExchanges.trans hExchanges
      · rw [deedsAlong, deedsOf_of_halted hWorked]
        exact hRestDeeds

------------------------------------------------------------
-- For Good
------------------------------------------------------------

/-
  A halted engine stays as it is. Steps, ticks, time that
  passes and further halts succeed and leave all of it alone,
  with nothing asked, said or noted. Loading programs and
  starting random bytes anew do not make it run: it stays
  halted, and neither a word is carried out nor are the timers
  counted.
-/
theorem halted_for_good
    (h : s.engine.isHalted = true)
    (moves : List (Move κ)) :
    ((∀ m ∈ moves, m.command.drives = true) →
        s.followAll moves =
          (s.worked (handsOf moves),
            moves.map (fun _ => none))) ∧
      (s.followAll moves).1.engine.isHalted = true ∧
      s.engine.SameButStores
        (s.followAll moves).1.engine ∧
      (s.followAll moves).1.exchanges = s.exchanges ∧
      s.deedsAlong moves = [] := by
  refine ⟨followAll_of_halted h, ?_, ?_⟩
  · exact isHalted_followAll h moves
  · exact sameButStores_followAll h moves

/-
  An engine that halted at a word without a meaning lies still
  while keys are pressed, time passes and a program is loaded.
-/
theorem halted_at_meaningless_word :
    let s :=
      (((Session.initial
        (Engine.switchedOn ⟨100, 60⟩ (Generator.ofSeed 7))
        Keypad.initial).obey
          (.load [0x5F, 0xF1])).1.obey .step).1
    let driving : List (Move Keypad) :=
      [⟨id, .step⟩, ⟨fun k => k.press 3, .tick⟩,
        ⟨Keypad.quit, .advance 20000000⟩, ⟨id, .halt⟩]
    let moves :=
      ⟨id, .load [0x12, 0x00]⟩ :: ⟨id, .reseed 9⟩ :: driving
    s.engine.isHalted = true ∧
      s.followAll driving =
        (s.worked (fun k => (k.press 3).quit),
          [none, none, none, none]) ∧
      (s.followAll moves).1.engine.isHalted = true ∧
      s.deedsAlong moves = [] := by
  intro s driving moves
  have h : s.engine.isHalted = true := by
    decide +kernel
  have hDrive :
      ∀ m ∈ driving, m.command.drives = true := by
    simp [driving, Command.drives]
  have hMoves := halted_for_good h moves
  exact
    ⟨h, (halted_for_good h driving).1 hDrive, hMoves.2.1,
      hMoves.2.2.2.2⟩

end Session

end ChipEight
