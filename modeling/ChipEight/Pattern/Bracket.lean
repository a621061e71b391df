import ChipEight.Pattern.Escape

/-
  Reading sets of characters between brackets.

  Between the brackets stand characters, ranges, sets with a
  name, further brackets, and operators that combine what is
  on their left, all of it, with what is on their right.

  Key definitions include:
    * `ChipEight.Pattern.asciiClassAt?`
    * `ChipEight.Pattern.readRange`
    * `ChipEight.Pattern.readBracket`
-/

namespace ChipEight

namespace Pattern

open Reading

------------------------------------------------------------
-- Named Sets
------------------------------------------------------------

/- The set of a name between colons. -/
def AsciiClass.ofName? : String → Option AsciiClass
  | "alnum" => some .alnum
  | "alpha" => some .alpha
  | "ascii" => some .ascii
  | "blank" => some .blank
  | "cntrl" => some .cntrl
  | "digit" => some .digit
  | "graph" => some .graph
  | "lower" => some .lower
  | "print" => some .print
  | "punct" => some .punct
  | "space" => some .space
  | "upper" => some .upper
  | "word" => some .word
  | "xdigit" => some .xdigit
  | _ => none

/-
  The set with a name that a text starts with, whether it is
  turned into its complement, and how long its text is.
-/
def asciiClassAt? :
    List Char → Option (AsciiClass × Bool × Nat)
  | '[' :: ':' :: rest =>
      let negated := rest.head? = some '^'
      let rest := if negated then rest.tail else rest
      let name := rest.takeWhile (fun c => c ≠ ':')
      match rest.dropWhile (fun c => c ≠ ':') with
      | ':' :: ']' :: _ =>
          (AsciiClass.ofName? (String.ofList name)).map
            (fun kind =>
              (kind, negated,
                name.length + (if negated then 5 else 4)))
      | _ => none
  | _ => none

------------------------------------------------------------
-- Members
------------------------------------------------------------

/- Read a character or what is behind a backslash. -/
def readMember : Reading Term := do
  let some c ← peek?
    | refuse .escapeCut (← point)
  if c = '\\' then
    readEscape
  else
    let span ← charSpan
    let _ ← next
    return .letter { char := c, isByte := false, span := span }

/- What was read, as a set. -/
def memberSet : Term → Reading CharSet
  | .letter l => return .letter l
  | .charSet set => return set
  | other => refuse .setEscape other.span

/- What was read, as the end of a range. -/
def memberLetter : Term → Reading Letter
  | .letter l => return l
  | other => refuse .rangeBound other.span

/-
  Read a member or a range of them. A dash is no range in
  front of a closing bracket or of another dash.
-/
def readRange (opening : Span) : Reading CharSet := do
  let low ← readMember
  skipBlanks
  if ← atEnd then
    refuse .setOpen opening
  let second := (← get).second?
  if (← peek?) ≠ some '-' || second = some ']' ||
      second = some '-' then
    memberSet low
  else
    if !(← nextSkipping) then
      refuse .setOpen opening
    let high ← readMember
    let low ← memberLetter low
    let high ← memberLetter high
    let range := CharSet.range low high
    if high.char < low.char then
      refuse .rangeReversed range.span
    return range

------------------------------------------------------------
-- Brackets
------------------------------------------------------------

/- An opening bracket, and the members read with it. -/
structure Opening where
  negated : Bool
  /- The members, the last one first. -/
  members : List CharSet
  /- Where the members start. -/
  inner : Spot
  span : Span

/- Read dashes at the start of a set, the last one first. -/
def readDashes
    (start : Spot)
    (members : List CharSet) : Nat → Reading (List CharSet)
  | 0 => return members
  | fuel + 1 => do
      if (← peek?) ≠ some '-' then
        return members
      let span ← charSpan
      let dash : Letter :=
        { char := '-', isByte := false, span := span }
      if !(← nextSkipping) then
        refuse .setOpen (Span.point start)
      readDashes start (.letter dash :: members) fuel

/-
  Read an opening bracket. Dashes and a closing bracket stand
  for themselves right behind it, so no set is empty.
-/
def readOpening : Reading Opening := do
  let start ← here
  if !(← nextSkipping) then
    refuse .setOpen (← since start)
  let negated := (← peek?) = some '^'
  if negated then
    if !(← nextSkipping) then
      refuse .setOpen (← since start)
  let inner ← here
  let members ← readDashes start [] (← remaining)
  if members.isEmpty && (← peek?) = some ']' then
    let span ← charSpan
    let closing : Letter :=
      { char := ']', isByte := false, span := span }
    if !(← nextSkipping) then
      refuse .setOpen (← since start)
    return { negated := negated
             members := [.letter closing]
             inner := inner
             span := ← since start }
  else
    return { negated := negated
             members := members
             inner := inner
             span := ← since start }

/- The operator of a doubled character. -/
def operator? : Char → Option SetOperator
  | '&' => some .intersection
  | '-' => some .difference
  | '~' => some .symmetric
  | _ => none

/- The operator that a text starts with. -/
def operatorAt? : List Char → Option SetOperator
  | c :: d :: _ => if c = d then operator? c else none
  | _ => none

/- What was read up to an operator or the closing bracket. -/
def joined
    (left : Option (SetOperator × CharSet))
    (right : CharSet) : CharSet :=
  match left with
  | none => right
  | some (operator, left) =>
      .combined operator left right
        { start := left.span.start, stop := right.span.stop }

/-
  Read the members of a set up to its closing bracket, behind
  what was read of it.
-/
def readMembers
    (opening : Opening)
    (left : Option (SetOperator × CharSet)) :
    Nat → Reading CharSet
  | 0 => refuse .setOpen opening.span
  | fuel + 1 => do
      skipBlanks
      let rest := (← get).rest
      let members := opening.members
      let set :=
        joined left
          (CharSet.ofList members.reverse opening.inner)
      match rest with
      | [] => refuse .setOpen opening.span
      | ']' :: _ => return set
      | '[' :: _ =>
          let start ← here
          match asciiClassAt? rest with
          | some (kind, negated, length) =>
              move length
              let named :=
                CharSet.ascii kind negated (← since start)
              readMembers
                { opening with members := named :: members }
                left fuel
          | none =>
              let nested ← readOpening
              let inner ← readMembers nested none fuel
              let _ ← next
              let set :=
                CharSet.bracket nested.negated inner
                  (← since start)
              readMembers
                { opening with members := set :: members }
                left fuel
      | _ =>
          match operatorAt? rest with
          | some operator =>
              move 2
              readMembers
                { opening with members := [], inner := ← here }
                (some (operator, set)) fuel
          | none =>
              let set ← readRange opening.span
              readMembers
                { opening with members := set :: members }
                left fuel

/- Read a set of characters between brackets. -/
def readBracket : Reading CharSet := do
  let start ← here
  let opening ← readOpening
  let inner ← readMembers opening none ((← remaining) + 1)
  let _ ← next
  return .bracket opening.negated inner (← since start)

end Pattern

end ChipEight
