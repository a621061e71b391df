import ChipEight.Proofs.Instruction.Assembly
import ChipEight.Proofs.Text.Lines
import ChipEight.Snapshot

/-
  The text of a snapshot can be read back.

  The text has eight lines, and a line is cut into words. Each
  field is a number in a word whose place in its line is
  fixed, apart from the addresses of the call stack and the
  bytes of the window: they fill their lines to the end. The
  statement at the end of the first line is told by its word
  of memory, and the mark in the window by the counter, so
  neither has to be read.

  Key definitions include:
    * `ChipEight.Snapshot.ofWords?`
    * `ChipEight.Snapshot.ofText?`
    * `ChipEight.Snapshot.windowWord`

  Main declarations:
    * `ChipEight.Snapshot.linesOf_text`
    * `ChipEight.Snapshot.words_windowLine`
    * `ChipEight.Snapshot.ofText?_text`
    * `ChipEight.Snapshot.text_tells_snapshot`
-/

namespace ChipEight

------------------------------------------------------------
-- Words With Numbers
------------------------------------------------------------

namespace Assembly

/- A number is a word. -/
theorem isWord_padded (width n : Nat) :
    IsWord (Hex.padded width n) :=
  ⟨Hex.padded_ne_nil width n,
    fun _ hMem => isSeparator_of_mem_padded hMem⟩

/- A word stays one word among signs that do not end it. -/
theorem IsWord.framed
    {front word back : List Char}
    (h : IsWord word)
    (hFront : ∀ c ∈ front, isSeparator c = false)
    (hBack : ∀ c ∈ back, isSeparator c = false) :
    IsWord (front ++ word ++ back) := by
  refine ⟨by simp [h.1], ?_⟩
  intro c hMem
  rcases List.mem_append.mp hMem with hInner | hLast
  · rcases List.mem_append.mp hInner with hFirst | hWord
    · exact hFront c hFirst
    · exact h.2 c hWord
  · exact hBack c hLast

/- A label and its value are two words. -/
theorem words_labelled
    {label value : List Char}
    (hLabel : IsWord label)
    (hValue : IsWord value) :
    words (label ++ ' ' :: value) = [label, value] := by
  rw [words_append hLabel rfl, words_of_isWord hValue]

/- Behind two spaces, the rest of a line follows them. -/
theorem words_labelled_append
    {label value : List Char}
    (hLabel : IsWord label)
    (hValue : IsWord value)
    (rest : List Char) :
    words (label ++ ' ' :: (value ++ ' ' :: ' ' :: rest)) =
      label :: value :: words rest := by
  rw [words_append hLabel rfl, words_append hValue rfl,
    words_cons rfl]

end Assembly

namespace Snapshot

open Assembly

------------------------------------------------------------
-- Reading
------------------------------------------------------------

/- The values of words that are labels and values in turn. -/
def values : List (List Char) → List (List Char)
  | _ :: value :: rest => value :: values rest
  | _ => []

/- Whether there is a number in a word. -/
def hasNumber (word : List Char) : Bool :=
  word.any (fun c => Hex.IsDigit c)

/- The numbers in words, in order. -/
def numbers (words : List (List Char)) : List Nat :=
  (words.filter hasNumber).map Hex.read

/- The snapshot whose lines have these words, if any. -/
def ofWords? : List (List (List Char)) → Option Snapshot
  | [_ :: pc :: _ :: word :: _,
      [_, index, _, delay, _, sound],
      row0, row4, row8, row12,
      _ :: depth :: _ :: stack,
      windowStart :: window] =>
      let registers :=
        [row0, row4, row8, row12].flatMap values
      some
        { pc := UInt16.ofNat (Hex.read pc)
          depth := UInt8.ofNat (Hex.read depth)
          stack := (numbers stack).map UInt16.ofNat
          v :=
            Vector.ofFn
              (fun x =>
                UInt8.ofNat
                  (Hex.read (registers.getD x.val [])))
          index := UInt16.ofNat (Hex.read index)
          delay := UInt8.ofNat (Hex.read delay)
          sound := UInt8.ofNat (Hex.read sound)
          word := UInt16.ofNat (Hex.read word)
          windowStart := UInt16.ofNat (Hex.read windowStart)
          window := (numbers window).map UInt8.ofNat }
  | _ => none

/- The snapshot whose text this is, if any. -/
def ofText? (text : String) : Option Snapshot :=
  ofWords? ((linesOf text).map words)

------------------------------------------------------------
-- Numbers
------------------------------------------------------------

/- A number that is written alone is read. -/
theorem read_padded (width n : Nat) :
    Hex.read (Hex.padded width n) = n := by
  have hNone :
      [].filter Hex.IsDigit = List.replicate 0 '0' :=
    rfl
  have hRead :=
    Hex.read_framed hNone List.filter_nil width n
  rwa [List.nil_append, List.append_nil] at hRead

/- So is one behind its mark. -/
theorem read_hexMarked (width n : Nat) :
    Hex.read (hexMarked width n).toList = n := by
  have hMark :
      ['0', 'x'].filter Hex.IsDigit =
        List.replicate 1 '0' :=
    rfl
  have hRead :=
    Hex.read_framed hMark List.filter_nil width n
  rw [List.append_nil] at hRead
  rw [toList_hexMarked]
  exact hRead

/- A word without digits does not count. -/
theorem numbers_cons_of_plain
    {word : List Char}
    (h : word.filter Hex.IsDigit = [])
    (rest : List (List Char)) :
    numbers (word :: rest) = numbers rest := by
  have hNone : ¬ hasNumber word = true := by
    intro hSome
    rcases List.any_eq_true.mp hSome with ⟨c, hMem, hDigit⟩
    exact List.filter_eq_nil_iff.mp h c hMem hDigit
  rw [numbers, List.filter_cons_of_neg hNone]
  rfl

/- A number among signs that are no digits counts. -/
theorem numbers_cons_framed
    {front back : List Char}
    (hFront : front.filter Hex.IsDigit = [])
    (hBack : back.filter Hex.IsDigit = [])
    (width n : Nat)
    (rest : List (List Char)) :
    numbers ((front ++ Hex.padded width n ++ back) :: rest) =
      n :: numbers rest := by
  have hNoZeros :
      front.filter Hex.IsDigit = List.replicate 0 '0' :=
    hFront
  have hRead := Hex.read_framed hNoZeros hBack width n
  have hNumber :
      hasNumber (front ++ Hex.padded width n ++ back) =
        true := by
    rcases List.exists_mem_of_ne_nil _
        (Hex.padded_ne_nil width n) with
      ⟨c, hMem⟩
    apply List.any_eq_true.mpr
    refine ⟨c, ?_, ?_⟩
    · simp [hMem]
    · exact decide_eq_true (Hex.isDigit_of_mem_padded hMem)
  rw [numbers, List.filter_cons_of_pos hNumber,
    List.map_cons, hRead]
  rfl

------------------------------------------------------------
-- Words Of The Lines
------------------------------------------------------------

/- The statement that the counter of a snapshot points at. -/
def statement (s : Snapshot) : String :=
  match Instruction.decode? s.word with
  | some instruction => instruction.mnemonic
  | none => "???"

variable (s : Snapshot)

/- The first line ends with this statement. -/
theorem counterLine_eq :
    s.counterLine =
      "PC " ++ hexMarked 3 s.pc.toNat ++
        "  op " ++ hex 4 s.word.toNat ++ "  " ++
        s.statement :=
  rfl

/- It begins with the counter and the word there. -/
theorem words_counterLine :
    words s.counterLine.toList =
      "PC".toList :: (hexMarked 3 s.pc.toNat).toList ::
        "op".toList :: Hex.padded 4 s.word.toNat ::
          words s.statement.toList := by
  have hText :
      s.counterLine.toList =
        "PC".toList ++
          ' ' :: ((hexMarked 3 s.pc.toNat).toList ++
            ' ' :: ' ' :: ("op".toList ++
              ' ' :: (Hex.padded 4 s.word.toNat ++
                ' ' :: ' ' :: s.statement.toList))) := by
    simp [s.counterLine_eq]
  rw [hText,
    words_labelled_append (by decide) (isWord_hexMarked _ _),
    words_labelled_append (by decide) (isWord_padded _ _)]

/- The second line is made of the index and both timers. -/
theorem words_indexLine :
    words s.indexLine.toList =
      ["I".toList, (hexMarked 3 s.index.toNat).toList,
        "DT".toList, Hex.padded 2 s.delay.toNat,
        "ST".toList, Hex.padded 2 s.sound.toNat] := by
  have hText :
      s.indexLine.toList =
        "I".toList ++
          ' ' :: ' ' :: ((hexMarked 3 s.index.toNat).toList ++
            ' ' :: ' ' :: ("DT".toList ++
              ' ' :: (Hex.padded 2 s.delay.toNat ++
                ' ' :: ' ' :: ("ST".toList ++
                  ' ' :: Hex.padded 2 s.sound.toNat)))) := by
    simp [indexLine]
  rw [hText, words_append (by decide) rfl, words_cons rfl,
    words_append (isWord_hexMarked _ _) rfl, words_cons rfl,
    words_labelled_append (by decide) (isWord_padded _ _),
    words_labelled (by decide) (isWord_padded _ _)]

/- The byte of a register as it is written. -/
def registerWord (x : Register) : List Char :=
  Hex.padded 2 (s.v.get x).toNat

/- Each line of registers has four names and bytes. -/
theorem values_registerLine (first : Nat) :
    values (words (s.registerLine first).toList) =
      (List.range 4).map
        (fun k =>
          s.registerWord (Register.ofNat (first + k))) := by
  let register (k : Nat) : Register :=
    Register.ofNat (first + k)
  let name (k : Nat) : List Char :=
    (Register.name (register k)).toList
  let byte (k : Nat) : List Char :=
    s.registerWord (register k)
  have hName (k : Nat) : IsWord (name k) :=
    isWord_name (register k)
  have hByte (k : Nat) : IsWord (byte k) :=
    isWord_padded 2 _
  have hCell (k : Nat) :
      (s.registerCell (register k)).toList =
        name k ++ ' ' :: byte k := by
    simp [registerCell, name, byte, registerWord]
  have hText :
      (s.registerLine first).toList =
        name 0 ++ ' ' :: (byte 0 ++ ' ' :: ' ' ::
          (name 1 ++ ' ' :: (byte 1 ++ ' ' :: ' ' ::
            (name 2 ++ ' ' :: (byte 2 ++ ' ' :: ' ' ::
              (name 3 ++ ' ' :: byte 3)))))) := by
    change
      ("  ".intercalate
        [s.registerCell (register 0),
          s.registerCell (register 1),
          s.registerCell (register 2),
          s.registerCell (register 3)]).toList = _
    simp [String.intercalate_cons_cons, hCell]
  rw [hText,
    words_labelled_append (hName 0) (hByte 0),
    words_labelled_append (hName 1) (hByte 1),
    words_labelled_append (hName 2) (hByte 2),
    words_labelled (hName 3) (hByte 3)]
  rfl

/-
  The addresses between brackets are the numbers there. What
  stands in front of them is the opening bracket at the start
  of the list and nothing behind it.
-/
theorem numbers_bracketed
    {front : List Char}
    (hFront : ∀ c ∈ front, isSeparator c = false)
    (hPlain : front.filter Hex.IsDigit = [])
    (stack : List UInt16) :
    numbers
        (words
          (front ++
            (" ".intercalate
              (stack.map (fun a => hex 3 a.toNat))).toList ++
            [']'])) =
      stack.map UInt16.toNat := by
  have hBracket : ∀ c ∈ [']'], isSeparator c = false :=
    List.forall_mem_singleton.mpr rfl
  induction stack generalizing front with
  | nil =>
      have hWord : IsWord (front ++ [']'] ++ []) :=
        IsWord.framed (by decide) hFront (by simp)
      have hNone : (front ++ [']']).filter Hex.IsDigit = [] := by
        rw [List.filter_append, hPlain]
        rfl
      rw [List.append_nil] at hWord
      simp only [List.map_nil, String.intercalate_nil,
        String.toList_empty, List.append_nil]
      rw [words_of_isWord hWord, numbers_cons_of_plain hNone]
      rfl
  | cons a rest ih =>
      cases rest with
      | nil =>
          have hWord :=
            (isWord_padded 3 a.toNat).framed hFront hBracket
          simp only [List.map_cons, List.map_nil,
            String.intercalate_singleton, toList_hex]
          rw [words_of_isWord hWord,
            numbers_cons_framed hPlain rfl]
          rfl
      | cons b rest =>
          have hWord :
              IsWord (front ++ Hex.padded 3 a.toNat ++ []) :=
            (isWord_padded 3 a.toNat).framed hFront (by simp)
          have hNone : ∀ c ∈ [], isSeparator c = false := by
            simp
          have hRest := ih hNone rfl
          have hText :
              front ++
                  (" ".intercalate
                    ((a :: b :: rest).map
                      (fun a => hex 3 a.toNat))).toList ++
                  [']'] =
                (front ++ Hex.padded 3 a.toNat ++ []) ++
                  ' ' :: ([] ++
                    (" ".intercalate
                      ((b :: rest).map
                        (fun a => hex 3 a.toNat))).toList ++
                    [']']) := by
            simp [String.intercalate_cons_cons]
          rw [hText, words_append hWord rfl,
            numbers_cons_framed hPlain rfl, hRest]
          rfl

/- The next line is made of the depth and these addresses. -/
theorem words_stackLine :
    ∃ stack,
      words s.stackLine.toList =
          "SP".toList :: Hex.padded 1 s.depth.toNat ::
            "stack".toList :: stack ∧
        numbers stack = s.stack.map UInt16.toNat := by
  let list : List Char :=
    ['['] ++
      (" ".intercalate
        (s.stack.map (fun a => hex 3 a.toNat))).toList ++
      [']']
  have hText :
      s.stackLine.toList =
        "SP".toList ++
          ' ' :: (Hex.padded 1 s.depth.toNat ++
            ' ' :: ' ' :: ("stack".toList ++ ' ' :: list)) := by
    simp [stackLine, list]
  refine ⟨words list, ?_, ?_⟩
  · rw [hText,
      words_labelled_append (by decide) (isWord_padded _ _),
      words_append (by decide) rfl]
  · have hBracket : ∀ c ∈ ['['], isSeparator c = false :=
      List.forall_mem_singleton.mpr rfl
    exact numbers_bracketed hBracket rfl s.stack

------------------------------------------------------------
-- Words Of The Window
------------------------------------------------------------

/- The mark of a byte of the window, if the counter is there. -/
def mark (offset : Nat) : List Char :=
  if (s.windowStart.toNat + offset) % 4096 = s.pc.toNat then
    ['>']
  else
    []

/- A byte of the window with its mark. -/
def windowWord (entry : UInt8 × Nat) : List Char :=
  s.mark entry.2 ++ Hex.padded 2 entry.1.toNat

/- A byte of the window is a word. -/
theorem isWord_windowWord (entry : UInt8 × Nat) :
    IsWord (s.windowWord entry) := by
  have hMark : ∀ c ∈ s.mark entry.2, isSeparator c = false := by
    unfold mark
    split
    · exact List.forall_mem_singleton.mpr rfl
    · simp
  have hNone : ∀ c ∈ [], isSeparator c = false := by simp
  have hWord :=
    (isWord_padded 2 entry.1.toNat).framed hMark hNone
  rwa [List.append_nil] at hWord

/- Bytes of the window end the word in front of them. -/
theorem words_windowCells
    {first : List Char}
    (hFirst : IsWord first)
    (entries : List (UInt8 × Nat)) :
    words
        (first ++
          (String.join
            (entries.map
              (fun e => s.windowCell e.1 e.2))).toList) =
      first :: entries.map s.windowWord := by
  induction entries generalizing first with
  | nil =>
      rw [List.map_nil, String.join_nil, String.toList_empty,
        List.append_nil, words_of_isWord hFirst]
      rfl
  | cons entry rest ih =>
      have hRest := ih (s.isWord_windowWord entry)
      rw [List.map_cons, String.join_cons,
        String.toList_append]
      by_cases hMarked :
          (s.windowStart.toNat + entry.2) % 4096 = s.pc.toNat
      · have hCell :
            (s.windowCell entry.1 entry.2).toList =
              ' ' :: s.windowWord entry := by
          simp [windowCell, windowWord, mark, hMarked]
        rw [hCell, List.cons_append, words_append hFirst rfl,
          hRest]
        rfl
      · have hCell :
            (s.windowCell entry.1 entry.2).toList =
              ' ' :: ' ' :: s.windowWord entry := by
          simp [windowCell, windowWord, mark, hMarked]
        rw [hCell, List.cons_append, words_append hFirst rfl,
          List.cons_append, words_cons rfl, hRest]
        rfl

/- The last line is made of the window's address and bytes. -/
theorem words_windowLine :
    words s.windowLine.toList =
      (Hex.padded 3 s.windowStart.toNat ++ [':']) ::
        s.window.zipIdx.map s.windowWord := by
  have hAddress :
      IsWord ([] ++ Hex.padded 3 s.windowStart.toNat ++ [':']) :=
    (isWord_padded 3 s.windowStart.toNat).framed (by simp)
      (List.forall_mem_singleton.mpr rfl)
  rw [List.nil_append] at hAddress
  rw [← s.words_windowCells hAddress]
  simp [windowLine]

/- Bytes of the window are read without their marks. -/
theorem numbers_windowWords (entries : List (UInt8 × Nat)) :
    numbers (entries.map s.windowWord) =
      (entries.map Prod.fst).map UInt8.toNat := by
  induction entries with
  | nil => rfl
  | cons entry rest ih =>
      have hMark : (s.mark entry.2).filter Hex.IsDigit = [] := by
        unfold mark
        split
        · rfl
        · rfl
      have hByte :=
        numbers_cons_framed hMark List.filter_nil 2
          entry.1.toNat (rest.map s.windowWord)
      rw [List.append_nil] at hByte
      rw [List.map_cons, windowWord, hByte, ih]
      rfl

/- The bytes of the window are read from its words. -/
theorem bytes_windowWords :
    (numbers (s.window.zipIdx.map s.windowWord)).map
        UInt8.ofNat =
      s.window := by
  rw [numbers_windowWords, List.zipIdx_map_fst, List.map_map]
  simp [Function.comp_def]

------------------------------------------------------------
-- Whole Texts
------------------------------------------------------------

/- The statement of a snapshot is on one line. -/
theorem onOneLine_statement : OnOneLine s.statement := by
  unfold statement
  split
  · rename_i instruction _
    exact instruction.onOneLine_mnemonic
  · decide

/- So are four registers. -/
theorem onOneLine_registerLine (first : Nat) :
    OnOneLine (s.registerLine first) := by
  apply onOneLine_intercalate (by decide)
  intro cell hMem
  rcases List.mem_map.mp hMem with ⟨k, _, rfl⟩
  rw [registerCell, onOneLine_append, onOneLine_append]
  exact
    ⟨⟨onOneLine_name _, by decide⟩, onOneLine_hex 2 _⟩

/- So is the call stack. -/
theorem onOneLine_stackLine : OnOneLine s.stackLine := by
  have hList :
      OnOneLine
        (" ".intercalate
          (s.stack.map (fun a => hex 3 a.toNat))) := by
    apply onOneLine_intercalate (by decide)
    intro text hMem
    rcases List.mem_map.mp hMem with ⟨a, _, rfl⟩
    exact onOneLine_hex 3 _
  have hOpen : OnOneLine "  stack [" := by decide
  have hFirst : OnOneLine "SP " := by decide
  have hClose : OnOneLine "]" := by decide
  simp [stackLine, hList, hOpen, hFirst, hClose]

/- So is the window. -/
theorem onOneLine_windowLine : OnOneLine s.windowLine := by
  have hColon : OnOneLine ":" := by decide
  have hCells :
      OnOneLine
        (String.join
          (s.window.zipIdx.map
            (fun entry => s.windowCell entry.1 entry.2))) := by
    apply onOneLine_join
    intro cell hMem
    rcases List.mem_map.mp hMem with ⟨entry, _, rfl⟩
    rw [windowCell, onOneLine_append]
    refine ⟨?_, onOneLine_hex 2 _⟩
    split
    · decide
    · decide
  simp [windowLine, hColon, hCells]

/- No line of a snapshot has a line break. -/
theorem onOneLine_of_mem_lines :
    ∀ line ∈ s.lines, OnOneLine line := by
  have hCounter : OnOneLine s.counterLine := by
    have hFirst : OnOneLine "PC " := by decide
    have hWord : OnOneLine "  op " := by decide
    have hSpace : OnOneLine "  " := by decide
    simp [s.counterLine_eq, hFirst, hWord, hSpace,
      s.onOneLine_statement]
  have hIndex : OnOneLine s.indexLine := by
    have hFirst : OnOneLine "I  " := by decide
    have hDelay : OnOneLine "  DT " := by decide
    have hSound : OnOneLine "  ST " := by decide
    simp [indexLine, hFirst, hDelay, hSound]
  simp [lines, hCounter, hIndex, s.onOneLine_registerLine,
    s.onOneLine_stackLine, s.onOneLine_windowLine]

/- They are the lines of its text. -/
theorem linesOf_text :
    linesOf s.text = s.lines.map String.toList :=
  linesOf_intercalate (List.cons_ne_nil _ _)
    s.onOneLine_of_mem_lines

/- The registers are read from their four lines. -/
theorem values_registerLines :
    [words (s.registerLine 0).toList,
        words (s.registerLine 4).toList,
        words (s.registerLine 8).toList,
        words (s.registerLine 12).toList].flatMap values =
      (List.range 16).map
        (fun k => s.registerWord (Register.ofNat k)) := by
  simp only [List.flatMap_cons, List.flatMap_nil,
    values_registerLine]
  rfl

/- They are the registers of the snapshot. -/
theorem ofFn_registerWords :
    Vector.ofFn
        (fun x : Fin 16 =>
          UInt8.ofNat
            (Hex.read
              (((List.range 16).map
                (fun k =>
                  s.registerWord
                    (Register.ofNat k))).getD x.val []))) =
      s.v := by
  apply Vector.ext
  intro i hi
  have hRegister : Register.ofNat i = ⟨i, hi⟩ :=
    Fin.ext (Nat.mod_eq_of_lt hi)
  rw [Vector.getElem_ofFn, List.getD_eq_getElem?_getD,
    List.getElem?_map, List.getElem?_range hi,
    Option.map_some, Option.getD_some, registerWord,
    read_padded, UInt8.ofNat_toNat, hRegister]
  rfl

/- A snapshot is read back from its text. -/
theorem ofText?_text : ofText? s.text = some s := by
  rcases s.words_stackLine with ⟨stack, hStack, hReturns⟩
  have hStackRead :
      (numbers stack).map UInt16.ofNat = s.stack := by
    rw [hReturns, List.map_map]
    simp [Function.comp_def]
  have hNone :
      [].filter Hex.IsDigit = List.replicate 0 '0' :=
    rfl
  have hAddress :
      Hex.read (Hex.padded 3 s.windowStart.toNat ++ [':']) =
        s.windowStart.toNat :=
    Hex.read_framed hNone rfl 3 s.windowStart.toNat
  rw [ofText?, linesOf_text, lines]
  simp only [List.map_cons, List.map_nil,
    words_counterLine, words_indexLine, hStack,
    words_windowLine]
  rw [ofWords?, values_registerLines]
  simp only [read_padded, read_hexMarked, hStackRead,
    ofFn_registerWords, hAddress, bytes_windowWords,
    UInt8.ofNat_toNat, UInt16.ofNat_toNat]

/-
  No two snapshots have one text: everything that a snapshot
  shows is told by its text, from which it is read back.
-/
theorem text_tells_snapshot (s t : Snapshot) :
    ofText? s.text = some s ∧ (s.text = t.text ↔ s = t) := by
  refine ⟨s.ofText?_text, ?_, congrArg text⟩
  intro hText
  apply Option.some.inj
  calc some s = ofText? s.text := s.ofText?_text.symm
    _ = ofText? t.text := congrArg ofText? hText
    _ = some t := t.ofText?_text

end Snapshot

end ChipEight
