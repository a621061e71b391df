import ChipEight.Pattern.Basic
import ChipEight.Pattern.Cursor

/-
  Reading what stands behind a backslash.

  Behind it a mark stands for itself, a letter for a control
  character, a set or a condition on a place, and a number of
  hexadecimal digits for the character with that code point.

  Key definitions include:
    * `ChipEight.Pattern.isMark`
    * `ChipEight.Pattern.readCode`
    * `ChipEight.Pattern.readProperty`
    * `ChipEight.Pattern.readEscape`
-/

namespace ChipEight

namespace Pattern

open Reading

------------------------------------------------------------
-- Characters
------------------------------------------------------------

/- Whether a character has a meaning in some pattern. -/
def isMark (c : Char) : Bool :=
  "\\.+*?()|[]\x7b\x7d^$#&-~".contains c

/-
  Whether a character stands for itself behind a backslash:
  a mark, or what is neither a letter nor a digit of ASCII.
  Angles are ends of words.
-/
def standsForItself (c : Char) : Bool :=
  isMark c ||
    (c.toNat < 128 && !c.isAlphanum && c ≠ '<' && c ≠ '>')

/- The control character of a letter. -/
def control? : Char → Option Char
  | 'a' => some '\x07'
  | 'f' => some '\x0c'
  | 't' => some '\t'
  | 'n' => some '\n'
  | 'r' => some '\r'
  | 'v' => some '\x0b'
  | _ => none

/- The condition of a letter. -/
def edge? : Char → Option Edge
  | 'A' => some .textStart
  | 'z' => some .textEnd
  | 'b' => some (.word .change)
  | 'B' => some (.word .noChange)
  | '<' => some (.word .start)
  | '>' => some (.word .stop)
  | _ => none

/- The set of a letter, in upper case without its members. -/
def shorthand? : Char → Option (Shorthand × Bool)
  | 'd' => some (.digit, false)
  | 's' => some (.space, false)
  | 'w' => some (.word, false)
  | 'D' => some (.digit, true)
  | 'S' => some (.space, true)
  | 'W' => some (.word, true)
  | _ => none

------------------------------------------------------------
-- Code Points
------------------------------------------------------------

/- The value of a hexadecimal digit. -/
def hexValue? (c : Char) : Option Nat :=
  if '0' ≤ c && c ≤ '9' then
    some (c.toNat - '0'.toNat)
  else if 'a' ≤ c && c ≤ 'f' then
    some (c.toNat - 'a'.toNat + 10)
  else if 'A' ≤ c && c ≤ 'F' then
    some (c.toNat - 'A'.toNat + 10)
  else
    none

/- The character with a code point, if there is one. -/
def scalar? (digits : List Nat) : Option Char :=
  let n := digits.foldl (fun n d => n * 16 + d) 0
  if n.isValidChar then
    some (Char.ofNat n)
  else
    none

/- Read as many hexadecimal digits as there have to be. -/
def readDigits : Nat → Reading (List Nat)
  | 0 => return []
  | count + 1 => do
      let some c ← peek?
        | refuse .escapeCut (← point)
      let some digit := hexValue? c
        | refuse .codeDigit (← charSpan)
      let more ← nextSkipping
      if count ≠ 0 && !more then
        refuse .escapeCut (← point)
      return digit :: (← readDigits count)

/- Read hexadecimal digits up to a closing brace. -/
def readDigitsBraced : Nat → Reading (List Nat)
  | 0 => return []
  | fuel + 1 => do
      if !(← nextSkipping) then
        return []
      match ← peek? with
      | none => return []
      | some '\x7d' => return []
      | some c =>
          let some digit := hexValue? c
            | refuse .codeDigit (← charSpan)
          return digit :: (← readDigitsBraced fuel)

/-
  Read a code point of as many digits as there have to be, or
  of any number of digits between braces.
-/
def readCode
    (start : Spot)
    (letter : Char) : Reading Letter := do
  if !(← nextSkipping) then
    refuse .escapeCut (← point)
  let brace ← here
  if (← peek?) = some '\x7b' then
    let inner := (← charSpan).stop
    let digits ← readDigitsBraced (← remaining)
    if ← atEnd then
      refuse .escapeCut (← since brace)
    let stop ← here
    let _ ← nextSkipping
    if digits.isEmpty then
      refuse .codeEmpty (← since brace)
    let some c := scalar? digits
      | refuse .codeInvalid { start := inner, stop := stop }
    return { char := c, isByte := false, span := ← since start }
  else
    let count :=
      match letter with
      | 'x' => 2
      | 'u' => 4
      | _ => 8
    let digits ← readDigits count
    let some c := scalar? digits
      | refuse .codeInvalid (← since brace)
    return { char := c
             isByte := letter = 'x'
             span := ← since start }

------------------------------------------------------------
-- Properties
------------------------------------------------------------

/- The texts in front of and behind the first of some marks. -/
def cut?
    (mark text : String) : Option (String × String) :=
  match text.splitOn mark with
  | head :: second :: rest =>
      some (head, mark.intercalate (second :: rest))
  | _ => none

/-
  The property that a text between braces names, and whether
  its complement is meant.
-/
def propertyNamed (text : String) : PropertyName × Bool :=
  match cut? "!=" text with
  | some (name, value) => (.value name value, true)
  | none =>
      match (cut? ":" text).or (cut? "=" text) with
      | some (name, value) => (.value name value, false)
      | none => (.word text, false)

/- Read the characters up to a closing brace. -/
def readBraced : Nat → Reading (List Char)
  | 0 => return []
  | fuel + 1 => do
      if !(← nextSkipping) then
        return []
      match ← peek? with
      | none => return []
      | some '\x7d' => return []
      | some c => return c :: (← readBraced fuel)

/- Read a property of characters behind its letter. -/
def readProperty
    (start : Spot)
    (negated : Bool) : Reading CharSet := do
  if !(← nextSkipping) then
    refuse .escapeCut (← point)
  match ← peek? with
  | none => refuse .escapeCut (← point)
  | some '\x7b' =>
      let text ← readBraced (← remaining)
      if ← atEnd then
        refuse .escapeCut (← point)
      let _ ← next
      let (name, inverted) := propertyNamed (String.ofList text)
      return .property name (negated != inverted)
        (← since start)
  | some c =>
      if c = '\\' then
        refuse .propertyInvalid (← charSpan)
      let _ ← nextSkipping
      return .property (.initial c) negated (← since start)

------------------------------------------------------------
-- Ends Of Words
------------------------------------------------------------

/- Whether a character belongs to the name of an end of words. -/
def isEdgeLetter (c : Char) : Bool :=
  c.isAlpha || c = '-'

/- The end of words of a name. -/
def edgeNamed? : String → Option WordEdge
  | "start" => some .start
  | "end" => some .stop
  | "start-half" => some .openLeft
  | "end-half" => some .openRight
  | _ => none

/-
  Read the name of an end of words between braces, unless the
  brace belongs to a repetition.
-/
def readEdge?
    (start : Spot) : Reading (Option WordEdge) := do
  let cursor ← get
  if !(← nextSkipping) then
    refuse .edgeCut (← since start)
  let inner ← here
  if ((← peek?).map isEdgeLetter).getD false then
    let name ← takeSkipping isEdgeLetter (← remaining)
    if (← peek?) ≠ some '\x7d' then
      refuse .edgeOpen (← since cursor.spot)
    let span ← since inner
    let _ ← next
    match edgeNamed? (String.ofList name) with
    | some edge => return some edge
    | none => refuse .edgeUnknown span
  else
    set cursor
    return none

------------------------------------------------------------
-- Escapes
------------------------------------------------------------

/- Read what a letter stands for behind a backslash. -/
def readLetterEscape
    (start : Spot)
    (c : Char) : Reading Term := do
  let _ ← next
  let span ← since start
  if standsForItself c then
    return .letter { char := c, isByte := false, span := span }
  match control? c, edge? c with
  | some c, _ =>
      return .letter { char := c, isByte := false, span := span }
  | _, some (.word .change) =>
      if (← peek?) = some '\x7b' then
        match ← readEdge? start with
        | some edge => return .edge (.word edge) (← since start)
        | none => return .edge (.word .change) span
      else
        return .edge (.word .change) span
  | _, some edge => return .edge edge span
  | _, _ => refuse .escapeUnknown span

/- Read a backslash and what belongs to it. -/
def readEscape : Reading Term := do
  let start ← here
  if !(← next) then
    refuse .escapeCut (← since start)
  let some c ← peek?
    | refuse .escapeCut (← since start)
  if c.isDigit then
    refuse .backReference
      { start := start, stop := (← charSpan).stop }
  else if c = 'x' || c = 'u' || c = 'U' then
    return .letter (← readCode start c)
  else if c = 'p' || c = 'P' then
    return .charSet (← readProperty start (c = 'P'))
  else
    match shorthand? c with
    | some (kind, negated) =>
        let _ ← next
        return .charSet
          (.shorthand kind negated (← since start))
    | none => readLetterEscape start c

end Pattern

end ChipEight
