import ChipEight.Pattern.Escape
import ChipEight.Text.Letter

/-
  Reading the head of a group.

  Behind the parenthesis may stand a name, or switches. The
  switches without a group change what follows in the group
  around them.

  Key definitions include:
    * `ChipEight.Pattern.Head`
    * `ChipEight.Pattern.readSwitches`
    * `ChipEight.Pattern.readName`
    * `ChipEight.Pattern.readHead`
-/

namespace ChipEight

namespace Pattern

open Reading

------------------------------------------------------------
-- Names
------------------------------------------------------------

/- Whether the name of a group may start with a character. -/
def startsName (c : Char) : Bool :=
  c = '_' || isLetter c

/- Whether the name of a group may go on with a character. -/
def continuesName (c : Char) : Bool :=
  startsName c || isNumeral c || "[].".contains c

/- Read the characters of a name up to its closing angle. -/
def readNameLetters
    (isFirst : Bool) : Nat → Reading (List Char)
  | 0 => return []
  | fuel + 1 => do
      match ← peek? with
      | none => return []
      | some '>' => return []
      | some c =>
          let isFit :=
            if isFirst then startsName c else continuesName c
          if !isFit then
            refuse .nameInvalid (← charSpan)
          let _ ← next
          return c :: (← readNameLetters false fuel)

/- Read the name of a group, which is used once. -/
def readName : Reading Unit := do
  let start ← here
  let letters ← readNameLetters true (← remaining)
  if ← atEnd then
    refuse .nameCut (← point)
  let span ← since start
  let _ ← next
  if letters.isEmpty then
    refuse .nameEmpty (Span.point start)
  let name := String.ofList letters
  match (← get).names.find? (fun entry => entry.1 = name) with
  | some (_, earlier) =>
      throw
        { fault := .nameTwice
          span := span
          earlier := some earlier }
  | none =>
      modify
        (fun cursor =>
          { cursor with names := (name, span) :: cursor.names })

------------------------------------------------------------
-- Switches
------------------------------------------------------------

/- A flag or the dash in front of flags, where it was read. -/
structure SwitchSign where
  flag : Option Flag
  span : Span
deriving DecidableEq

/- Read a flag or a dash. -/
def readSign : Reading SwitchSign := do
  let span ← charSpan
  match ← peek? with
  | none => refuse .flagCut (← point)
  | some '-' => return { flag := none, span := span }
  | some c =>
      match Flag.ofChar? c with
      | some flag => return { flag := some flag, span := span }
      | none => refuse .flagUnknown span

/-
  Read flags and dashes, the last one first, up to a colon or
  a closing parenthesis.
-/
def readSigns
    (signs : List SwitchSign) :
    Nat → Reading (List SwitchSign)
  | 0 => return signs
  | fuel + 1 => do
      let c? ← peek?
      if c? = some ':' || c? = some ')' then
        match signs with
        | { flag := none, span := span } :: _ =>
            refuse .flagDangling span
        | signs => return signs
      else
        let sign ← readSign
        match signs.find? (fun s => s.flag = sign.flag) with
        | some earlier =>
            throw
              { fault :=
                  if sign.flag.isNone then
                    .flagNegatedTwice
                  else
                    .flagTwice
                span := sign.span
                earlier := some earlier.span }
        | none =>
            if !(← next) then
              refuse .flagCut (← point)
            readSigns (sign :: signs) fuel

/- The switches of signs in their order. -/
def switchesOf
    (isOn : Bool) : List SwitchSign → List Switch
  | [] => []
  | { flag := none, span := _ } :: rest =>
      switchesOf false rest
  | { flag := some flag, span := _ } :: rest =>
      { flag := flag, isOn := isOn } :: switchesOf isOn rest

/- Read switches. -/
def readSwitches : Reading (List Switch) := do
  let signs ← readSigns [] ((← remaining) + 1)
  return switchesOf true signs.reverse

------------------------------------------------------------
-- Heads
------------------------------------------------------------

/- What an opening parenthesis starts. -/
inductive Head where
  | group (kind : GroupKind) (span : Span)
  | switches (switches : List Switch) (span : Span)

/- Go on by the mark of a look ahead or back, if it is next. -/
def lookAroundTaken : Reading Bool := do
  if ← nextTaken "?=" then
    return true
  else if ← nextTaken "?!" then
    return true
  else if ← nextTaken "?<=" then
    return true
  else
    nextTaken "?<!"

/- Go on by the mark of a name, if it is next. -/
def nameTaken : Reading Bool := do
  if ← nextTaken "?P<" then
    return true
  else
    nextTaken "?<"

/- Read an opening parenthesis and what belongs to it. -/
def readHead : Reading Head := do
  let opening ← charSpan
  let _ ← next
  skipBlanks
  if ← lookAroundTaken then
    refuse .lookAround (← since opening.start)
  let inner ← point
  if ← nameTaken then
    readName
    return .group .kept opening
  else if ← nextTaken "?" then
    if ← atEnd then
      refuse .groupOpen opening
    let switches ← readSwitches
    let isClosed := (← peek?) = some ')'
    let _ ← next
    if isClosed then
      if switches.isEmpty then
        refuse .nothingRepeated inner
      return .switches switches (← since opening.start)
    else
      return .group (.plain switches) opening
  else
    return .group .kept opening

end Pattern

end ChipEight
