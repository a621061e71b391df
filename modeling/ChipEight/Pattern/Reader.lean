import ChipEight.Pattern.Bracket
import ChipEight.Pattern.Group

/-
  Reading a whole pattern.

  A pattern is read from left to right. What may be repeated
  is known when the repetition is met, so each repetition
  takes the last part that was read.

  Key definitions include:
    * `ChipEight.Pattern.readCounts`
    * `ChipEight.Pattern.Draft`
    * `ChipEight.Pattern.readBody`
    * `ChipEight.Pattern.Term.read`
-/

namespace ChipEight

namespace Pattern

open Reading

------------------------------------------------------------
-- Counts
------------------------------------------------------------

/- The greatest count. -/
def countLimit : Nat :=
  4294967295

/- Decimal digits, and where they stand. -/
structure Digits where
  digits : List Char
  span : Span

/- Read decimal digits between white space. -/
def readDecimal : Reading Digits := do
  let _ ← takeWhile isBlank
  let start ← here
  let digits ← takeSkipping Char.isDigit (← remaining)
  let span ← since start
  let _ ← takeSkipping isBlank (← remaining)
  return { digits := digits, span := span }

/- The count that digits stand for. -/
def Digits.count (d : Digits) : Reading Nat := do
  if d.digits.isEmpty then
    refuse .countEmpty d.span
  let n :=
    d.digits.foldl
      (fun n c => n * 10 + (c.toNat - '0'.toNat)) 0
  if countLimit < n then
    refuse .numberTooLarge d.span
  return n

/-
  Read the counts between braces: one for both, or a least
  one, which may be followed by a greatest one.
-/
def readCounts
    (start : Spot) : Reading (Nat × Option Nat) := do
  if !(← nextSkipping) then
    refuse .countOpen (← since start)
  let first ← readDecimal
  match ← peek? with
  | none => refuse .countOpen (← since start)
  | some ',' =>
      if !(← nextSkipping) then
        refuse .countOpen (← since start)
      if (← peek?) = some '\x7d' then
        return (← first.count, none)
      else
        let least ← first.count
        let most ← (← readDecimal).count
        return (least, some most)
  | some _ =>
      let count ← first.count
      return (count, some count)

------------------------------------------------------------
-- Drafts
------------------------------------------------------------

/- What was read of a group or of the whole pattern. -/
structure Draft where
  /- Where the first alternative starts. -/
  start : Spot
  /- Where the last alternative starts. -/
  branchStart : Spot
  /- The earlier alternatives, the last one first. -/
  branches : List Term
  /- The parts of the last alternative, the last one first. -/
  terms : List Term

namespace Draft

/- Nothing was read yet. -/
def initial (start : Spot) : Draft where
  start := start
  branchStart := start
  branches := []
  terms := []

/- A part was read. -/
def add
    (draft : Draft)
    (term : Term) : Draft :=
  { draft with terms := term :: draft.terms }

/- The last alternative, which stops at a place. -/
def branch
    (draft : Draft)
    (stop : Spot) : Term :=
  Term.ofList draft.terms.reverse
    { start := draft.branchStart, stop := stop }

/- A new alternative starts at a place. -/
def turn
    (draft : Draft)
    (stop start : Spot) : Draft :=
  { draft with
    branches := draft.branch stop :: draft.branches
    branchStart := start
    terms := [] }

/- All that was read, which stops at a place. -/
def whole
    (draft : Draft)
    (stop : Spot) : Term :=
  match draft.branches with
  | [] => draft.branch stop
  | branches =>
      .either (draft.branch stop :: branches).reverse
        { start := draft.start, stop := stop }

/- Take back the last part, for a repetition of it. -/
def takeLast (draft : Draft) : Reading (Term × Draft) := do
  match draft.terms with
  | [] => refuse .nothingRepeated (← point)
  | term :: terms =>
      if !term.isRepeatable then
        refuse .nothingRepeated (← point)
      return (term, { draft with terms := terms })

end Draft

------------------------------------------------------------
-- Repetitions
------------------------------------------------------------

/- The least and the greatest count of a repetition's mark. -/
def counts? : Char → Option (Nat × Option Nat)
  | '?' => some (0, some 1)
  | '*' => some (0, none)
  | '+' => some (1, none)
  | _ => none

/- Go on by the mark that makes a repetition short, if any. -/
def shortTaken : Reading Bool :=
  nextTaken "?"

/- Read a repetition's mark. -/
def readMarked
    (draft : Draft)
    (least : Nat)
    (most : Option Nat) : Reading Draft := do
  let (term, draft) ← draft.takeLast
  let _ ← next
  let isShort ← shortTaken
  let span ← since term.span.start
  return draft.add (.repeated term least most isShort span)

/- Read a repetition's counts. -/
def readCounted (draft : Draft) : Reading Draft := do
  let start ← here
  let (term, draft) ← draft.takeLast
  let (least, most) ← readCounts start
  if (← peek?) ≠ some '\x7d' then
    refuse .countOpen (← since start)
  let _ ← nextSkipping
  let isShort ← shortTaken
  let isReversed :=
    match most with
    | none => false
    | some most => most < least
  if isReversed then
    refuse .countReversed (← since start)
  let span ← since term.span.start
  return draft.add (.repeated term least most isShort span)

------------------------------------------------------------
-- Patterns
------------------------------------------------------------

/- Read a character that stands for itself, a dot or an edge. -/
def readPlain (c : Char) : Reading Term := do
  let span ← charSpan
  let _ ← next
  match c with
  | '.' => return .dot span
  | '^' => return .edge .lineStart span
  | '$' => return .edge .lineEnd span
  | c =>
      return .letter { char := c, isByte := false, span := span }

/- Leave out white space from now on, or not, if switched. -/
def applySpacing (switches : List Switch) : Reading Unit :=
  modify
    (fun cursor =>
      { cursor with
        isSpaced :=
          (switched? .spaced switches).getD cursor.isSpaced })

/-
  Read up to the end of the pattern or to a parenthesis that
  closes a group, behind what was read of the group.
-/
def readBody
    (draft : Draft) : Nat → Reading Term
  | 0 => return draft.whole (← here)
  | fuel + 1 => do
      skipBlanks
      match ← peek? with
      | none => return draft.whole (← here)
      | some ')' => return draft.whole (← here)
      | some '|' =>
          let stop ← here
          let _ ← next
          readBody (draft.turn stop (← here)) fuel
      | some '(' =>
          match ← readHead with
          | .switches switches span =>
              applySpacing switches
              readBody
                (draft.add (.switches switches span)) fuel
          | .group kind opening =>
              let outer := (← get).isSpaced
              applySpacing kind.switches
              let inner ←
                readBody (Draft.initial (← here)) fuel
              if ← atEnd then
                refuse .groupOpen opening
              modify
                (fun cursor => { cursor with isSpaced := outer })
              let _ ← next
              let span ← since opening.start
              readBody (draft.add (.group kind inner span)) fuel
      | some '[' =>
          let set ← readBracket
          readBody (draft.add (.charSet set)) fuel
      | some '\\' =>
          let term ← readEscape
          readBody (draft.add term) fuel
      | some '\x7b' =>
          readBody (← readCounted draft) fuel
      | some c =>
          match counts? c with
          | some (least, most) =>
              readBody (← readMarked draft least most) fuel
          | none =>
              let term ← readPlain c
              readBody (draft.add term) fuel

/- Read a whole pattern. -/
def readWhole : Reading Term := do
  let start ← here
  let term ←
    readBody (Draft.initial start) ((← remaining) + 1)
  if !(← atEnd) then
    refuse .groupUnopened (← charSpan)
  match term.tooDeep? depthLimit with
  | some span => refuse (.tooDeep depthLimit) span
  | none => return term

/- The pattern of a text, or what is wrong with it. -/
def Term.read (source : String) : Except Complaint Term :=
  readWhole.run' (Cursor.initial source)

end Pattern

end ChipEight
