import ChipEight.Pattern.Complaint
import ChipEight.Text.Blank

/-
  Reading the text of a pattern character by character.

  A cursor knows what is left of the pattern and where that
  starts, whether white space is left out, and which names of
  groups were used so far. A reading moves it, or stops with
  a complaint.

  Key definitions include:
    * `ChipEight.Pattern.Cursor`
    * `ChipEight.Pattern.Reading`
    * `ChipEight.Pattern.Reading.next`
    * `ChipEight.Pattern.Reading.nextTaken`
    * `ChipEight.Pattern.Reading.skipBlanks`
-/

namespace ChipEight

namespace Pattern

------------------------------------------------------------
-- Cursors
------------------------------------------------------------

/- A place in a pattern, and how it is read from there. -/
structure Cursor where
  spot : Spot
  rest : List Char
  isSpaced : Bool
  names : List (String × Span)

namespace Cursor

/- The cursor at the start of a pattern. -/
def initial (source : String) : Cursor where
  spot := Spot.first
  rest := source.toList
  isSpaced := false
  names := []

/- The cursor behind the next character. -/
def moved (cursor : Cursor) : Cursor :=
  match cursor.rest with
  | [] => cursor
  | c :: rest =>
      { cursor with spot := cursor.spot.after c, rest := rest }

/-
  The place and the rest behind white space and notes. A note
  starts with a number sign and ends with its line.
-/
def pastBlanks
    (inNote : Bool)
    (spot : Spot) : List Char → Spot × List Char
  | [] => (spot, [])
  | c :: rest =>
      if inNote then
        pastBlanks (c != '\n') (spot.after c) rest
      else if isBlank c then
        pastBlanks false (spot.after c) rest
      else if c = '#' then
        pastBlanks true (spot.after c) rest
      else
        (spot, c :: rest)

/- The cursor behind what is left out. -/
def skipped (cursor : Cursor) : Cursor :=
  if cursor.isSpaced then
    let (spot, rest) :=
      pastBlanks false cursor.spot cursor.rest
    { cursor with spot := spot, rest := rest }
  else
    cursor

/-
  The first character that is neither white space nor the one
  number sign that may start a note.
-/
def seen (noted : Bool) : List Char → Option Char
  | [] => none
  | c :: rest =>
      if isBlank c then
        seen noted rest
      else if c = '#' && !noted then
        seen true rest
      else
        some c

/- The character behind the next one. -/
def second? (cursor : Cursor) : Option Char :=
  if cursor.isSpaced then
    seen false cursor.rest.tail
  else
    cursor.rest.tail.head?

end Cursor

------------------------------------------------------------
-- Readings
------------------------------------------------------------

/- What reads a part of a pattern, or complains about it. -/
abbrev Reading (α : Type) :=
  StateT Cursor (Except Complaint) α

namespace Reading

/- Refuse a stretch of the pattern. -/
def refuse {α : Type}
    (fault : Fault)
    (span : Span) : Reading α :=
  throw { fault := fault, span := span }

/- The next character, unless the pattern ends. -/
def peek? : Reading (Option Char) :=
  return (← get).rest.head?

/- Whether the pattern ends. -/
def atEnd : Reading Bool :=
  return (← get).rest.isEmpty

/- The place of the next character. -/
def here : Reading Spot :=
  return (← get).spot

/- The empty stretch in front of the next character. -/
def point : Reading Span :=
  return Span.point (← here)

/- The stretch of the next character. -/
def charSpan : Reading Span := do
  let cursor ← get
  return { start := cursor.spot, stop := cursor.moved.spot }

/- The stretch from a place to the next character. -/
def since (start : Spot) : Reading Span :=
  return { start := start, stop := (← here) }

/- Go on by a character; is there another one? -/
def next : Reading Bool := do
  modify Cursor.moved
  return !(← atEnd)

/- Leave out white space and notes, if this is asked for. -/
def skipBlanks : Reading Unit :=
  modify Cursor.skipped

/-
  Go on by a character and what is left out behind it; is
  there another one?
-/
def nextSkipping : Reading Bool := do
  modify (fun cursor => cursor.moved.skipped)
  return !(← atEnd)

/- Go on by some characters. -/
def move (count : Nat) : Reading Unit :=
  modify (fun cursor => Nat.repeat Cursor.moved count cursor)

/- Go on by a text if it is what comes next. -/
def nextTaken (text : String) : Reading Bool := do
  if text.toList.isPrefixOf (← get).rest then
    move text.length
    return true
  else
    return false

/- Go on by the longest run of some characters. -/
def takeWhile (p : Char → Bool) : Reading (List Char) := do
  let taken := (← get).rest.takeWhile p
  move taken.length
  return taken

/-
  Go on by characters of a kind and what is left out behind
  each of them.
-/
def takeSkipping
    (p : Char → Bool) : Nat → Reading (List Char)
  | 0 => return []
  | fuel + 1 => do
      match ← peek? with
      | none => return []
      | some c =>
          if p c then
            let _ ← nextSkipping
            return c :: (← takeSkipping p fuel)
          else
            return []

/- How many characters are left. -/
def remaining : Reading Nat :=
  return (← get).rest.length

end Reading

end Pattern

end ChipEight
