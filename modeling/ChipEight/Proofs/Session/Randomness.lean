import ChipEight.Console.Keypad
import ChipEight.Proofs.Instruction.Forms
import ChipEight.Proofs.Machine.Effects
import ChipEight.Proofs.Session.Moves

/-
  Random bytes are taken in turn.

  Words of class `C` are the only ones that take random bytes,
  one each. Nothing else that an engine does moves the place
  in the stream, but for starting it anew: neither a wait nor
  a fault, neither a tick nor a load. What is only looked at,
  such as a snapshot or a listing, does not belong to what an
  engine does at all. So the bytes that a program sees depend
  on the seed and on the number of these words alone.

  Key definitions include:
    * `ChipEight.Word.isRandom`
    * `ChipEight.Command.reseeds`
    * `ChipEight.Generator.past`
    * `ChipEight.Generator.TakenBy`

  Main declarations:
    * `ChipEight.Generator.TakenBy.append`
    * `ChipEight.Generator.takenBy_deed`
    * `ChipEight.Session.takenBy_step`
    * `ChipEight.Session.takenBy_followAll`
    * `ChipEight.Session.random_bytes_in_turn`
-/

namespace ChipEight

------------------------------------------------------------
-- Words That Take Random Bytes
------------------------------------------------------------

/- Whether a word is of the form `Cxkk`. -/
def Word.isRandom (w : Word) : Bool :=
  w.toNat / 4096 == 0xC

/- Whether a word that was carried out took a random byte. -/
def Deed.isRandom (deed : Deed) : Bool :=
  deed.word.isRandom

/- Whether a command starts the random bytes anew. -/
def Command.reseeds : Command → Bool
  | .reseed _ => true
  | _ => false

/- Words of this form take a random byte, and no others. -/
theorem Word.isRandom_eq
    {w : Word}
    {instruction : Instruction}
    (h : Instruction.decode? w = some instruction) :
    w.isRandom = instruction.takesRandom := by
  unfold Word.isRandom
  by_cases hClass : w.toNat / 4096 = 0xC
  · rw [Instruction.decode?_of_class_random hClass] at h
    cases h
    rw [hClass]
    rfl
  · rw [beq_false_of_ne hClass]
    cases instruction with
    | random x mask =>
        exact
          absurd (Instruction.class_of_decode?_random h)
            hClass
    | _ => rfl

------------------------------------------------------------
-- Places In The Stream
------------------------------------------------------------

namespace Generator

/- The generator behind the bytes that deeds have taken. -/
def past
    (g : Generator)
    (deeds : List Deed) : Generator :=
  { g with drawn := g.drawn + deeds.countP Deed.isRandom }

/- Deeds in two lists take as many bytes as in one. -/
theorem past_append
    (g : Generator)
    (first second : List Deed) :
    g.past (first ++ second) =
      (g.past first).past second := by
  unfold past
  rw [List.countP_append, Nat.add_assoc]

/-
  Whether deeds took the bytes of a generator in turn and left
  another one: each of those that took a byte left it in its
  register, under its mask, and behind each deed the generator
  was past the bytes taken up to then.
-/
structure TakenBy
    (g : Generator)
    (deeds : List Deed)
    (left : Generator) : Prop where
  bytes :
    ∀ j deed,
      (deeds.filter Deed.isRandom)[j]? = some deed →
        deed.after.reg (Word.second deed.word) =
          Random.streamByte g.key (g.drawn + j) &&&
            Word.lowByte deed.word
  places :
    ∀ k deed,
      deeds[k]? = some deed →
        deed.after.generator = g.past (deeds.take (k + 1))
  left_eq :
    left = g.past deeds

/- No deed takes no byte. -/
theorem takenBy_nil (g : Generator) :
    g.TakenBy [] g where
  bytes := by
    intro j deed h
    cases h
  places := by
    intro k deed h
    cases h
  left_eq := rfl

/- Deeds take bytes where the deeds before them stopped. -/
theorem TakenBy.append
    {g mid left : Generator}
    {first second : List Deed}
    (h : g.TakenBy first mid)
    (hNext : mid.TakenBy second left) :
    g.TakenBy (first ++ second) left := by
  have hMid := h.left_eq
  subst hMid
  refine ⟨?_, ?_, ?_⟩
  · intro j deed hDeed
    rw [List.filter_append, List.getElem?_append,
      ← List.countP_eq_length_filter] at hDeed
    split at hDeed
    · exact h.bytes j deed hDeed
    · rename_i hLater
      have hPlace :
          g.drawn + first.countP Deed.isRandom +
              (j - first.countP Deed.isRandom) =
            g.drawn + j := by
        omega
      rw [hNext.bytes _ deed hDeed]
      exact
        congrArg
          (fun n =>
            Random.streamByte g.key n &&&
              Word.lowByte deed.word)
          hPlace
  · intro k deed hDeed
    rw [List.getElem?_append] at hDeed
    rw [List.take_append]
    split at hDeed
    · rename_i hEarly
      have hNone : k + 1 - first.length = 0 := by
        omega
      rw [hNone, List.take_zero, List.append_nil]
      exact h.places k deed hDeed
    · rename_i hLater
      have hAll : first.length ≤ k + 1 := by
        omega
      have hRest :
          k + 1 - first.length = k - first.length + 1 := by
        omega
      rw [List.take_of_length_le hAll, hRest, past_append]
      exact hNext.places _ deed hDeed
  · rw [past_append]
    exact hNext.left_eq

/- A word that is carried out takes a byte if it is to. -/
theorem takenBy_deed
    {m after : Machine}
    {w : Word}
    {instruction : Instruction}
    {held : Bool}
    (hWord : Instruction.decode? w = some instruction)
    (hRun : m.execute held instruction = .ok after) :
    m.generator.TakenBy [{ word := w, after := after }]
      after.generator := by
  have hTakes := Word.isRandom_eq hWord
  have hLeft :
      after.generator =
        m.generator.past [{ word := w, after := after }] := by
    rw [Machine.generator_execute hRun, ← hTakes, past,
      List.countP_singleton, Deed.isRandom]
    cases w.isRandom with
    | true => rfl
    | false => rfl
  refine ⟨?_, ?_, hLeft⟩
  · intro j deed hDeed
    rcases List.mem_filter.mp (List.mem_of_getElem? hDeed) with
      ⟨hMem, hRandom⟩
    cases List.mem_singleton.mp hMem
    have hOnly :
        [({ word := w, after := after } : Deed)].filter
            Deed.isRandom =
          [{ word := w, after := after }] :=
      List.filter_cons_of_pos hRandom
    rw [hOnly] at hDeed
    cases j with
    | succ j => cases hDeed
    | zero =>
        have hClass : w.toNat / 4096 = 0xC :=
          beq_iff_eq.mp hRandom
        rw [Instruction.decode?_of_class_random hClass]
          at hWord
        cases hWord
        cases hRun
        exact Processor.get_set_self _ _ _
  · intro k deed hDeed
    cases k with
    | succ k => cases hDeed
    | zero =>
        cases hDeed
        exact hLeft

end Generator

namespace Session

variable {κ : Type} [Controls κ]

------------------------------------------------------------
-- Steps And Beats
------------------------------------------------------------

/- The source of random bytes of a session. -/
def source (s : Session κ) : Generator :=
  s.engine.machine.generator

/- A step takes a byte only for what it carries out. -/
theorem takenBy_step (s : Session κ) :
    s.source.TakenBy s.deed?.toList s.step.1.source := by
  rcases s.outcome_step with ⟨talk, _, hOutcome⟩
  unfold source
  generalize s.step.1.engine = left at hOutcome
  generalize s.deed? = deed at hOutcome
  generalize s.step.2 = fault at hOutcome
  cases hOutcome with
  | carries instruction held press after hMode hWord hRun =>
      have hTaken := Generator.takenBy_deed hWord hRun
      exact hTaken
  | _ => exact Generator.takenBy_nil _

/- A tick takes none. -/
omit [Controls κ] in
theorem source_tick (s : Session κ) :
    s.tick.source = s.source := by
  unfold source
  cases hHalted : s.engine.isHalted with
  | true => rw [tick_of_halted hHalted]
  | false => rw [(exchanges_tick hHalted).1]

/- Beats take bytes for what they carry out, in turn. -/
theorem takenBy_makeAll
    (s : Session κ)
    (beats : List Beat) :
    s.source.TakenBy (s.deedsAmong beats)
      (s.makeAll beats).1.source := by
  induction beats generalizing s with
  | nil => exact Generator.takenBy_nil _
  | cons beat rest ih =>
      have hFirst :
          s.source.TakenBy (s.deedOf? beat).toList
            (s.make beat).1.source := by
        cases beat with
        | cycle => exact s.takenBy_step
        | tick =>
            rw [make, s.source_tick]
            exact Generator.takenBy_nil _
      exact hFirst.append (ih _)

------------------------------------------------------------
-- Commands And Moves
------------------------------------------------------------

/- A command that does not reseed takes bytes in turn. -/
theorem takenBy_obey
    (s : Session κ)
    {command : Command}
    (h : command.reseeds = false) :
    s.source.TakenBy (s.deedsOf command)
      (s.obey command).1.source := by
  cases command with
  | load program =>
      have hKept : (s.load program).1.source = s.source := by
        unfold source
        cases hLoad :
            s.engine.machine.memory.loadProgram program with
        | error fault =>
            rw [load_of_error hLoad, engine_crash]
        | ok memory => rw [load_of_ok hLoad]
      rw [obey, hKept]
      exact Generator.takenBy_nil _
  | step => exact s.takenBy_step
  | tick =>
      rw [obey, s.source_tick]
      exact Generator.takenBy_nil _
  | advance elapsed =>
      have hLeft :
          (s.advance elapsed).1.source =
            (s.makeAll
              (s.engine.clocks.collect
                (min elapsed longestLapse)).due).1.source :=
        congrArg Machine.generator
          (s.makesDue_advance elapsed).session.machine_eq
      rw [obey, hLeft]
      exact s.takenBy_makeAll _
  | halt =>
      have hKept : s.halt.source = s.source := by
        rw [source, engine_halt]
        rfl
      rw [obey, hKept]
      exact Generator.takenBy_nil _
  | reseed seed => cases h

/- So do moves; the induction is on them. -/
theorem takenBy_followAll
    (s : Session κ)
    {moves : List (Move κ)}
    (h : ∀ m ∈ moves, m.command.reseeds = false) :
    s.source.TakenBy (s.deedsAlong moves)
      (s.followAll moves).1.source := by
  induction moves generalizing s with
  | nil => exact Generator.takenBy_nil _
  | cons m rest ih =>
      rcases List.forall_mem_cons.mp h with ⟨hFirst, hRest⟩
      have hMove :
          s.source.TakenBy
            ((s.worked m.hand).deedsOf m.command)
            (s.follow m).1.source :=
        (s.worked m.hand).takenBy_obey hFirst
      exact hMove.append (ih _ hRest)

/-
  A step takes no byte if it waits or has halted, if the
  player quits, if it faults or if its word is another one.
-/
theorem source_step
    {s : Session κ}
    (h :
      s.engine.mode ≠ .running ∨
        (Controls.wantsQuit s.controls).1 = true ∨
        s.step.2 ≠ none ∨
        Word.isRandom s.engine.machine.fetch = false) :
    s.step.1.source = s.source := by
  have hNone : s.deed?.toList.countP Deed.isRandom = 0 := by
    unfold deed?
    split
    · rename_i hRuns
      rcases h with hMode | hQuit | hFault | hWord
      · exact absurd hRuns.1 hMode
      · rw [hRuns.2.1] at hQuit
        cases hQuit
      · exact absurd hRuns.2.2 hFault
      · rw [Option.toList_some, List.countP_singleton,
          Deed.isRandom, hWord]
        rfl
    · rfl
  rw [s.takenBy_step.left_eq, Generator.past, hNone]
  rfl

/-
  From when the random bytes of a seed are started until they
  are started again, the words of class `C` that are carried
  out take these bytes in turn, each leaving its byte under
  its mask in its register. Behind every word the place in the
  stream is the number of such words up to then, and so it is
  at the end: no other word takes a byte, nor does a step that
  waits, faults or quits, nor anything else that is done.
-/
theorem random_bytes_in_turn
    (s : Session κ)
    (seed : UInt64)
    {moves : List (Move κ)}
    (hMoves : ∀ m ∈ moves, m.command.reseeds = false) :
    let begun := (s.obey (.reseed seed)).1
    let deeds := begun.deedsAlong moves
    let key := Random.keyOf seed
    (∀ (j : Nat) (deed : Deed),
        (deeds.filter Deed.isRandom)[j]? = some deed →
          deed.after.reg (Word.second deed.word) =
            Random.streamByte key j &&&
              Word.lowByte deed.word) ∧
      (∀ (k : Nat) (deed : Deed),
        deeds[k]? = some deed →
          deed.after.generator =
            { key := key
              drawn :=
                (deeds.take (k + 1)).countP
                  Deed.isRandom }) ∧
      (begun.followAll moves).1.source =
        { key := key
          drawn := deeds.countP Deed.isRandom } ∧
      ∀ t : Session κ,
        t.engine.mode ≠ .running ∨
            (Controls.wantsQuit t.controls).1 = true ∨
            t.step.2 ≠ none ∨
            Word.isRandom t.engine.machine.fetch = false →
          t.step.1.source = t.source := by
  intro begun deeds key
  have hTaken := begun.takenBy_followAll hMoves
  refine ⟨?_, ?_, ?_, ?_⟩
  · intro j deed hDeed
    rw [hTaken.bytes j deed hDeed]
    exact
      congrArg
        (fun n =>
          Random.streamByte key n &&& Word.lowByte deed.word)
        (Nat.zero_add j)
  · intro k deed hDeed
    rw [hTaken.places k deed hDeed]
    exact
      congrArg
        (fun n : Nat =>
          ({ key := key, drawn := n } : Generator))
        (Nat.zero_add _)
  · rw [hTaken.left_eq]
    exact
      congrArg
        (fun n : Nat =>
          ({ key := key, drawn := n } : Generator))
        (Nat.zero_add _)
  · intro t h
    exact source_step h

/-
  A program takes two bytes of seed 42, which was started when
  it had already taken one of seed 7. A tick, another load and
  a word that faults lie in between. The second byte is 0x63,
  of which a mask leaves 0x60.
-/
theorem second_byte_behind_tick_and_load :
    let s :=
      (((Session.initial
        (Engine.switchedOn ⟨100, 60⟩ (Generator.ofSeed 7))
        Keypad.initial).obey
          (.load
            [0xC0, 0xFF, 0xC1, 0x0F, 0x00, 0xE0, 0xC2, 0xF0,
              0x00, 0xEE])).1.obey .step).1
    let begun := (s.obey (.reseed 42)).1
    let moves : List (Move Keypad) :=
      [⟨id, .step⟩, ⟨fun k => k.press 3, .tick⟩,
        ⟨id, .load
          [0xC0, 0xFF, 0xC1, 0x0F, 0x00, 0xE0, 0xC2, 0xF0,
            0x00, 0xEE]⟩,
        ⟨id, .advance 20000000⟩, ⟨id, .step⟩]
    (∀ m ∈ moves, m.command.reseeds = false) ∧
      (begun.deedsAlong moves).map Deed.word =
        [0xC10F, 0x00E0, 0xC2F0] ∧
      (begun.followAll moves).2 =
        [none, none, none, none, some .returnOutsideCall] ∧
      (∃ deed,
        ((begun.deedsAlong moves).filter
            Deed.isRandom)[1]? = some deed ∧
          deed.word = 0xC2F0 ∧
          deed.after.reg 2 = 0x60) ∧
      (begun.followAll moves).1.source =
        { key := Random.keyOf 42, drawn := 2 } := by
  intro s begun moves
  have hMoves :
      ∀ m ∈ moves, m.command.reseeds = false := by
    simp [moves, Command.reseeds]
  have hWords :
      (begun.deedsAlong moves).map Deed.word =
        [0xC10F, 0x00E0, 0xC2F0] := by
    decide +kernel
  have hFaults :
      (begun.followAll moves).2 =
        [none, none, none, none,
          some .returnOutsideCall] := by
    decide +kernel
  have hTaken :
      (begun.deedsAlong moves).countP Deed.isRandom = 2 := by
    have hCount :=
      List.countP_map
        (p := Word.isRandom) (f := Deed.word)
        (l := begun.deedsAlong moves)
    rw [hWords] at hCount
    exact hCount.symm
  have hDrawing :
      (((begun.deedsAlong moves).filter
          Deed.isRandom)[1]?).map Deed.word =
        some 0xC2F0 := by
    decide +kernel
  have hByte :
      Random.streamByte (Random.keyOf 42) 1 = 0x63 := by
    decide +kernel
  rcases random_bytes_in_turn s 42 hMoves with
    ⟨hBytes, _, hSource, _⟩
  refine ⟨hMoves, hWords, hFaults, ?_, ?_⟩
  · rcases Option.map_eq_some_iff.mp hDrawing with
      ⟨deed, hDeed, hWord⟩
    have hLeft := hBytes 1 deed hDeed
    rw [hWord, hByte] at hLeft
    exact ⟨deed, hDeed, hWord, hLeft⟩
  · rw [hTaken] at hSource
    exact hSource

end Session

end ChipEight
