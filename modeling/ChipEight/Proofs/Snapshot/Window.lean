import ChipEight.Console.Keypad
import ChipEight.Proofs.Checked.Machine
import ChipEight.Proofs.Session.Sound
import ChipEight.Proofs.Snapshot.Report

/-
  A snapshot shows what the machine is about to execute.

  The window begins eight bytes in front of the counter, going
  around the end of memory where that is needed, so the word
  at the counter is made of the two bytes in the middle of the
  window. In the text of the snapshot the first of them has
  the mark if the counter lies in memory, as it does in every
  engine that can come up. A counter beyond memory is marked
  nowhere, for the bytes are marked by their cells.

  Key definitions include:
    * `ChipEight.Snapshot.markedBytes`
    * `ChipEight.Snapshot.shownBytes`

  Main declarations:
    * `ChipEight.Machine.toNat_windowStart`
    * `ChipEight.Machine.getElem?_window`
    * `ChipEight.Snapshot.markedBytes_windowLine`
    * `ChipEight.Machine.snapshot_shows_surroundings`
-/

namespace ChipEight

------------------------------------------------------------
-- Marks
------------------------------------------------------------

namespace Snapshot

open Assembly

/- The bytes that a line with a window shows. -/
def shownBytes (line : List Char) : List UInt8 :=
  (numbers (words line).tail).map UInt8.ofNat

/- For each byte of such a line, whether it has the mark. -/
def markedBytes (line : List Char) : List Bool :=
  (words line).tail.map (fun word => word.contains '>')

variable (s : Snapshot)

/- The line of the window shows its bytes. -/
theorem shownBytes_windowLine :
    shownBytes s.windowLine.toList = s.window := by
  rw [shownBytes, words_windowLine, List.tail_cons,
    bytes_windowWords]

/- A byte has the mark if its cell is the counter. -/
theorem contains_windowWord (entry : UInt8 × Nat) :
    (s.windowWord entry).contains '>' =
      decide
        ((s.windowStart.toNat + entry.2) % 4096 =
          s.pc.toNat) := by
  have hDigits : ∀ d < 16, Hex.digit d ≠ '>' := by
    decide
  have hByte : '>' ∉ Hex.padded 2 entry.1.toNat := by
    intro hMem
    rcases Hex.isDigit_of_mem_padded hMem with
      ⟨d, hLt, hMark⟩
    exact hDigits d hLt hMark.symm
  by_cases hMarked :
      (s.windowStart.toNat + entry.2) % 4096 = s.pc.toNat
  · simp [windowWord, mark, hMarked]
  · simp [windowWord, mark, hMarked, hByte]

/- So the marks in the line are told by its places. -/
theorem markedBytes_windowLine :
    markedBytes s.windowLine.toList =
      (List.range s.window.length).map
        (fun j =>
          decide
            ((s.windowStart.toNat + j) % 4096 =
              s.pc.toNat)) := by
  rw [markedBytes, words_windowLine, List.tail_cons,
    List.map_map, List.range_eq_range', ← List.zipIdx_map_snd,
    List.map_map]
  apply List.map_congr_left
  intro entry _
  exact s.contains_windowWord entry

/- The line of the window is the last one of the text. -/
theorem getLast?_linesOf_text :
    (linesOf s.text).getLast? =
      some s.windowLine.toList := by
  rw [linesOf_text]
  rfl

end Snapshot

------------------------------------------------------------
-- Windows
------------------------------------------------------------

namespace Machine

section

variable (m : Machine)

/- The window begins eight bytes in front of the counter. -/
theorem toNat_windowStart :
    m.snapshot.windowStart.toNat =
      (m.processor.pc.toNat + 4088) % 4096 := by
  have hEight : (8 : UInt16).toNat = 8 := rfl
  have hCounter := m.processor.pc.toNat_lt
  change (Processor.wrap (m.processor.pc - 8)).toNat = _
  rw [Processor.toNat_wrap, UInt16.toNat_sub, hEight]
  omega

/- It shows the cells from there on. -/
theorem getElem?_window
    {j : Nat}
    (h : j < 16) :
    m.snapshot.window[j]? =
      some
        m.memory.cells[
          (m.processor.pc.toNat + 4088 + j) % 4096] := by
  have hPlace :
      (m.snapshot.windowStart.toNat + j) % 4096 =
        (m.processor.pc.toNat + 4088 + j) % 4096 := by
    rw [toNat_windowStart]
    omega
  have hByte :
      m.memory.cells.get
          (Address.ofNat (m.snapshot.windowStart.toNat + j)) =
        m.memory.cells[
          (m.processor.pc.toNat + 4088 + j) % 4096] := by
    change
      m.memory.cells[
        (m.snapshot.windowStart.toNat + j) % 4096] = _
    simp only [hPlace]
  change
    (m.memory.readRange m.snapshot.windowStart 16)[j]? = _
  rw [Memory.readRange, List.getElem?_map,
    List.getElem?_range h, Option.map_some, Memory.read_add,
    hByte]

/- The word at the counter is in the middle of the window. -/
theorem exists_bytes_of_word :
    ∃ high low,
      m.snapshot.window[8]? = some high ∧
        m.snapshot.window[9]? = some low ∧
        m.snapshot.word.toNat =
          256 * high.toNat + low.toNat := by
  have hHigh :
      (m.processor.pc.toNat + 4088 + 8) % 4096 =
        m.processor.pc.toNat % 4096 := by
    omega
  have hLow :
      (m.processor.pc.toNat + 4088 + 9) % 4096 =
        (m.processor.pc.toNat + 1) % 4096 := by
    omega
  refine
    ⟨_, _, m.getElem?_window (by decide),
      m.getElem?_window (by decide), ?_⟩
  simp only [hHigh, hLow]
  exact m.memory.toNat_readWord m.processor.pc

/- A counter in memory is marked, and no other one is. -/
theorem markedBytes_snapshot :
    Snapshot.markedBytes m.snapshot.windowLine.toList =
      (List.range 16).map
        (fun j =>
          decide (j = 8 ∧ m.processor.pc.toNat < 4096)) := by
  rw [Snapshot.markedBytes_windowLine,
    length_window_snapshot, toNat_windowStart]
  apply List.map_congr_left
  intro j hMem
  have hOffset := List.mem_range.mp hMem
  change
    decide
        (((m.processor.pc.toNat + 4088) % 4096 + j) % 4096 =
          m.processor.pc.toNat) =
      _
  rw [decide_eq_decide]
  omega

/- The stack of a snapshot is as long as its depth tells. -/
theorem length_stack_snapshot :
    m.snapshot.stack.length = m.snapshot.depth.toNat := by
  have hDepth := m.processor.stack.length_le
  have hKept :
      (UInt8.ofNat m.processor.stack.depth).toNat =
        m.processor.stack.depth := by
    rw [UInt8.toNat_ofNat']
    exact Nat.mod_eq_of_lt (by unfold CallStack.depth; omega)
  calc m.snapshot.stack.length
      = m.processor.stack.depth :=
        m.processor.stack.length_toList
    _ = m.snapshot.depth.toNat := hKept.symm

end

/-
  The window of a snapshot shows sixteen cells, from eight
  bytes in front of the counter on, and its middle is the word
  that is executed next. The last line of the text marks this
  word and nothing else if the counter lies in memory, as it
  does in every engine that can come up; any other counter is
  not marked at all.
-/
theorem snapshot_shows_surroundings (m : Machine) :
    let s := m.snapshot
    let pc := m.processor.pc.toNat
    (s.window.length = 16 ∧
        ∀ j < 16,
          s.window[j]? =
            some m.memory.cells[(pc + 4088 + j) % 4096]) ∧
      (s.windowStart.toNat = (pc + 4088) % 4096 ∧
        s.windowStart.toNat < 4096) ∧
      (s.word = m.fetch ∧
        ∃ high low,
          s.window[8]? = some high ∧
            s.window[9]? = some low ∧
            s.word.toNat = 256 * high.toNat + low.toNat) ∧
      s.stack.length = s.depth.toNat ∧
      (∃ line,
        (linesOf s.text).getLast? = some line ∧
          Snapshot.shownBytes line = s.window ∧
          Snapshot.markedBytes line =
            (List.range 16).map
              (fun j => decide (j = 8 ∧ pc < 4096))) ∧
      ∀ e : Engine, e.Reachable → e.machine = m → pc < 4096 := by
  intro s pc
  refine
    ⟨⟨m.length_window_snapshot, fun j => m.getElem?_window⟩,
      ⟨m.toNat_windowStart, m.windowStart_snapshot_lt⟩,
      ⟨rfl, m.exists_bytes_of_word⟩,
      m.length_stack_snapshot, ?_, ?_⟩
  · exact
      ⟨s.windowLine.toList, s.getLast?_linesOf_text,
        s.shownBytes_windowLine, m.markedBytes_snapshot⟩
  · intro e hReachable hMachine
    have hCounter :=
      hReachable.sound.machine.processor.counter
    rw [hMachine] at hCounter
    exact hCounter

/-
  Behind a jump to the second address, the window starts with
  the last bytes of memory and goes on with the font sheet.
  The same counter beyond memory has its window there too, but
  no mark.
-/
theorem window_goes_around_end :
    let start :=
      Session.initial
        (Engine.switchedOn ⟨100, 60⟩ (Generator.ofSeed 7))
        Keypad.initial
    let loaded := (start.obey (.load [0x10, 0x02])).1
    let engine := (loaded.obey .step).1.engine
    let m := engine.machine
    let beyond : Machine :=
      { m with processor := { m.processor with pc := 0xF002 } }
    engine.Reachable ∧
      m.snapshot.windowStart.toNat = 0xFFA ∧
      6 < 16 ∧
      m.snapshot.window[6]? = some 0xF0 ∧
      (∃ line,
        (linesOf m.snapshot.text).getLast? = some line ∧
          Snapshot.shownBytes line = m.snapshot.window ∧
          (Snapshot.markedBytes line)[8]? = some true) ∧
      m.processor.pc.toNat < 4096 ∧
      beyond.snapshot.windowStart.toNat = 0xFFA ∧
      ∃ line,
        (linesOf beyond.snapshot.text).getLast? = some line ∧
          Snapshot.markedBytes line =
            List.replicate 16 false := by
  intro start loaded engine m beyond
  have hReachable : engine.Reachable :=
    .obey loaded .step
      (.obey start (.load [0x10, 0x02])
        (.switchedOn ⟨100, 60⟩ (Generator.ofSeed 7)))
  have hFacts :
      m.processor.pc.toNat = 2 ∧ m.memory.cells[0] = 0xF0 := by
    decide +kernel
  rcases hFacts with ⟨hCounter, hGlyph⟩
  rcases m.snapshot_shows_surroundings with
    ⟨⟨_, hWindow⟩, ⟨hStart, _⟩, _, _, hLine, hInside⟩
  rcases beyond.snapshot_shows_surroundings with
    ⟨_, ⟨hBeyondStart, _⟩, _, _, hBeyond, _⟩
  refine
    ⟨hReachable, ?_, by decide, ?_, ?_,
      hInside engine hReachable rfl, ?_, ?_⟩
  · rw [hStart, hCounter]
  · rw [hWindow 6 (by decide)]
    simp only [hCounter]
    exact congrArg some hGlyph
  · rcases hLine with ⟨line, hLast, hShown, hMarked⟩
    refine ⟨line, hLast, hShown, ?_⟩
    rw [hMarked, hCounter]
    decide
  · rw [hBeyondStart]
    decide
  · rcases hBeyond with ⟨line, hLast, _, hMarked⟩
    refine ⟨line, hLast, ?_⟩
    rw [hMarked]
    decide

end Machine

end ChipEight
