import ChipEight.Pattern.Complaint
import ChipEight.Pattern.Property
import ChipEight.Pattern.Shape

/-
  What a written pattern means.

  The flags that hold at a part of a pattern decide how the
  part is understood: a switch holds from where it stands to
  the end of the group around it.

  With the flag for Unicode a set is a set of characters of
  all scripts. Nothing is known about the scripts but the code
  points, so whatever needs to know digits, words, blanks or
  cases of letters is refused. Without the flag a set is a set
  of bytes. A set of bytes with members beyond ASCII is
  refused, since it would match parts of characters.

  Key definitions include:
    * `ChipEight.Pattern.Flags`
    * `ChipEight.Pattern.CharSet.addedTo`
    * `ChipEight.Pattern.Edge.condition`
    * `ChipEight.Pattern.Term.shape`
-/

namespace ChipEight

namespace Pattern

------------------------------------------------------------
-- Flags
------------------------------------------------------------

/- The flags that matter for what a pattern matches. -/
structure Flags where
  foldCase : Bool
  manyLines : Bool
  dotAll : Bool
  swapGreed : Bool
  unicode : Bool
  returns : Bool
deriving DecidableEq

namespace Flags

/- The flags at the start of a pattern. -/
def initial : Flags where
  foldCase := false
  manyLines := false
  dotAll := false
  swapGreed := false
  unicode := true
  returns := false

/- The flags behind switches. -/
def switched
    (flags : Flags)
    (switches : List Switch) : Flags :=
  let state (flag : Flag) (now : Bool) : Bool :=
    (switched? flag switches).getD now
  { foldCase := state .foldCase flags.foldCase
    manyLines := state .manyLines flags.manyLines
    dotAll := state .dotAll flags.dotAll
    swapGreed := state .swapGreed flags.swapGreed
    unicode := state .unicode flags.unicode
    returns := state .returns flags.returns }

end Flags

------------------------------------------------------------
-- Members Of Sets
------------------------------------------------------------

/- The interval of the characters between two characters. -/
def charRange (low high : Char) : Interval where
  low := low.toNat
  high := high.toNat

/- The members of a set with a name between colons. -/
def AsciiClass.ranges : AsciiClass → List Interval
  | .alnum =>
      [charRange '0' '9', charRange 'A' 'Z', charRange 'a' 'z']
  | .alpha => [charRange 'A' 'Z', charRange 'a' 'z']
  | .ascii => [charRange '\x00' '\x7f']
  | .blank => [charRange '\t' '\t', charRange ' ' ' ']
  | .cntrl => [charRange '\x00' '\x1f', charRange '\x7f' '\x7f']
  | .digit => [charRange '0' '9']
  | .graph => [charRange '!' '~']
  | .lower => [charRange 'a' 'z']
  | .print => [charRange ' ' '~']
  | .punct =>
      [charRange '!' '/', charRange ':' '@', charRange '[' '`',
        charRange '\x7b' '~']
  | .space => [charRange '\t' '\r', charRange ' ' ' ']
  | .upper => [charRange 'A' 'Z']
  | .word =>
      [charRange '0' '9', charRange 'A' 'Z', charRange '_' '_',
        charRange 'a' 'z']
  | .xdigit =>
      [charRange '0' '9', charRange 'A' 'F', charRange 'a' 'f']

/- The set with a name that a letter stands for in ASCII. -/
def Shorthand.asciiClass : Shorthand → AsciiClass
  | .digit => .digit
  | .space => .space
  | .word => .word

/- A set without regard to case, if this is asked for. -/
def folded
    (flags : Flags)
    (span : Span)
    (set : CodeSet) : Except Complaint CodeSet :=
  if !flags.foldCase then
    return set
  else if !flags.unicode then
    return set.withBothCases
  else if set.isFolded || set.ranges.isEmpty then
    return { set with isFolded := true }
  else
    throw { fault := .foldingMissing, span := span }

/- A set or its complement, which no set of bytes has. -/
def whether
    (flags : Flags)
    (negated : Bool)
    (span : Span)
    (set : CodeSet) : Except Complaint CodeSet :=
  if !negated then
    return set
  else if flags.unicode then
    return set.complement
  else
    throw { fault := .notText, span := span }

/- Refuse a byte beyond ASCII where bytes are meant. -/
def checkByte
    (flags : Flags)
    (l : Letter) : Except Complaint Unit :=
  if l.isByte && !flags.unicode && 128 ≤ l.char.toNat then
    throw { fault := .notText, span := l.span }
  else
    return ()

/- A character as a member of a set. -/
def memberChar
    (flags : Flags)
    (l : Letter) : Except Complaint Char := do
  checkByte flags l
  if !flags.unicode && 128 ≤ l.char.toNat then
    throw { fault := .notUnicode, span := l.span }
  return l.char

/- The set that two sets are combined to. -/
def SetOperator.combined
    (operator : SetOperator)
    (a b : CodeSet) : CodeSet :=
  match operator with
  | .intersection => a.inter b
  | .difference => a.diff b
  | .symmetric => a.symmDiff b

/- The members of a set, together with those of another set. -/
def CharSet.addedTo
    (flags : Flags)
    (others : CodeSet) : CharSet → Except Complaint CodeSet
  | .empty _ => return others
  | .letter l => do
      let c ← memberChar flags l
      return others.insert (charRange c c)
  | .range low high => do
      let low ← memberChar flags low
      let high ← memberChar flags high
      return others.insert (charRange low high)
  | .ascii kind negated span => do
      let set ← folded flags span (CodeSet.ofList kind.ranges)
      return others.union (← whether flags negated span set)
  | .shorthand kind negated span => do
      if flags.unicode then
        throw { fault := .shorthandMissing, span := span }
      let set := CodeSet.ofList kind.asciiClass.ranges
      return others.union (← whether flags negated span set)
  | .property name _ span =>
      let fault :=
        if flags.unicode then name.fault else .notUnicode
      throw { fault := fault, span := span }
  | .bracket negated inner span => do
      let set ← inner.addedTo flags CodeSet.empty
      let set ← folded flags span set
      return others.union (← whether flags negated span set)
  | .union sets _ => allAddedTo flags others sets
  | .combined operator a b _ => do
      let left ← a.addedTo flags CodeSet.empty
      let right ← b.addedTo flags CodeSet.empty
      let right ← folded flags b.span right
      let left ← folded flags a.span left
      return others.union (operator.combined left right)
where
  allAddedTo
      (flags : Flags)
      (others : CodeSet) :
      List CharSet → Except Complaint CodeSet
    | [] => return others
    | set :: rest => do
        allAddedTo flags (← set.addedTo flags others) rest

------------------------------------------------------------
-- Patterns
------------------------------------------------------------

/- The condition on a place where some flags hold. -/
def Edge.condition
    (flags : Flags) : Edge → Condition
  | .lineStart =>
      if flags.manyLines then
        .lineStart flags.returns
      else
        .textStart
  | .lineEnd =>
      if flags.manyLines then
        .lineEnd flags.returns
      else
        .textEnd
  | .textStart => .textStart
  | .textEnd => .textEnd
  | .word edge => .word edge flags.unicode

/- What a character means. -/
def Letter.shape
    (flags : Flags)
    (l : Letter) : Except Complaint Shape := do
  checkByte flags l
  let range := charRange l.char l.char
  if !flags.foldCase then
    return .literal [l.char]
  else if flags.unicode then
    throw { fault := .foldingMissing, span := l.span }
  else
    let set := (CodeSet.ofList [range]).withBothCases
    return .ofRanges set.ranges true

/- What a dot means. -/
def dotShape
    (flags : Flags)
    (span : Span) : Except Complaint Shape := do
  if !flags.unicode then
    throw { fault := .notText, span := span }
  let ends :=
    if flags.dotAll then
      []
    else if flags.returns then
      [charRange '\n' '\n', charRange '\r' '\r']
    else
      [charRange '\n' '\n']
  let set := (CodeSet.ofList ends).complement
  return .ofRanges set.ranges false

/-
  What a pattern means where some flags hold, and the flags
  behind it.
-/
def Term.shape
    (flags : Flags) :
    Term → Except Complaint (Shape × Flags)
  | .nothing _ => return (.empty, flags)
  | .switches changes _ =>
      return (.empty, flags.switched changes)
  | .letter l => return (← l.shape flags, flags)
  | .dot span => return (← dotShape flags span, flags)
  | .edge e _ => return (.check (e.condition flags), flags)
  | .charSet set => do
      let members ← set.addedTo flags CodeSet.empty
      return (.ofRanges members.ranges !flags.unicode, flags)
  | .repeated term least most isShort _ => do
      let (shape, flags) ← term.shape flags
      let isShort := isShort != flags.swapGreed
      return (shape.repeating least most isShort, flags)
  | .group kind term span => do
      let inner := flags.switched kind.switches
      let (shape, _) ← term.shape inner
      match kind with
      | .kept => return (.kept span.start.index shape, flags)
      | .plain _ => return (shape, flags)
  | .either terms _ => do
      let (shapes, flags) ← allShapes flags terms
      return (Shape.anyOf shapes, flags)
  | .inTurn terms _ => do
      let (shapes, flags) ← allShapes flags terms
      return (Shape.inTurn shapes, flags)
where
  allShapes
      (flags : Flags) :
      List Term → Except Complaint (List Shape × Flags)
    | [] => return ([], flags)
    | term :: rest => do
        let (shape, flags) ← term.shape flags
        let (shapes, flags) ← allShapes flags rest
        return (shape :: shapes, flags)

end Pattern

end ChipEight
