import ChipEight.Pattern.Span

/-
  Patterns as they are written.

  A pattern is built from characters, sets of characters and
  conditions on a place, by repetition, by groups, by one
  behind the other and by one or the other. Each part knows
  the stretch of text it was read from.

  Key definitions include:
    * `ChipEight.Pattern.Letter`
    * `ChipEight.Pattern.CharSet`
    * `ChipEight.Pattern.WordEdge`
    * `ChipEight.Pattern.Edge`
    * `ChipEight.Pattern.Flag`
    * `ChipEight.Pattern.Term`
    * `ChipEight.Pattern.Term.tooDeep?`
-/

namespace ChipEight

namespace Pattern

------------------------------------------------------------
-- Sets Of Characters
------------------------------------------------------------

/-
  A character, and whether it was written as the number of a
  byte.
-/
structure Letter where
  char : Char
  isByte : Bool
  span : Span
deriving DecidableEq

/- The sets with a name between colons, such as `[:alpha:]`. -/
inductive AsciiClass where
  | alnum
  | alpha
  | ascii
  | blank
  | cntrl
  | digit
  | graph
  | lower
  | print
  | punct
  | space
  | upper
  | word
  | xdigit
deriving DecidableEq

/- The sets with a letter of their own, such as `\d`. -/
inductive Shorthand where
  | digit
  | space
  | word
deriving DecidableEq

/- How a property of characters is named. -/
inductive PropertyName where
  /- By one letter behind the mark. -/
  | initial (c : Char)
  /- By a word between braces. -/
  | word (name : String)
  /- By two words, for a property and its value. -/
  | value (name value : String)
deriving DecidableEq

/- How two sets are combined. -/
inductive SetOperator where
  | intersection
  | difference
  | symmetric
deriving DecidableEq

/- A set of characters. -/
inductive CharSet where
  | empty (span : Span)
  | letter (letter : Letter)
  | range (low high : Letter)
  | ascii (kind : AsciiClass) (negated : Bool) (span : Span)
  | shorthand (kind : Shorthand) (negated : Bool)
      (span : Span)
  | property (name : PropertyName) (negated : Bool)
      (span : Span)
  | bracket (negated : Bool) (inner : CharSet) (span : Span)
  | union (sets : List CharSet) (span : Span)
  | combined (operator : SetOperator) (left right : CharSet)
      (span : Span)

/- The stretch of a set. -/
def CharSet.span : CharSet → Span
  | .empty span => span
  | .letter l => l.span
  | .range low high =>
      { start := low.span.start, stop := high.span.stop }
  | .ascii _ _ span => span
  | .shorthand _ _ span => span
  | .property _ _ span => span
  | .bracket _ _ span => span
  | .union _ span => span
  | .combined _ _ _ span => span

------------------------------------------------------------
-- Conditions On A Place
------------------------------------------------------------

/- A condition on the words on both sides of a place. -/
inductive WordEdge where
  /- One end of a word. -/
  | change
  /- No end of a word. -/
  | noChange
  /- The start of a word. -/
  | start
  /- The end of a word. -/
  | stop
  /- No word on the left. -/
  | openLeft
  /- No word on the right. -/
  | openRight
deriving DecidableEq

/- A condition on a place between two characters. -/
inductive Edge where
  /- The start of a line. -/
  | lineStart
  /- The end of a line. -/
  | lineEnd
  /- The start of the text. -/
  | textStart
  /- The end of the text. -/
  | textEnd
  | word (edge : WordEdge)
deriving DecidableEq

------------------------------------------------------------
-- Flags
------------------------------------------------------------

/- What can be switched within a pattern. -/
inductive Flag where
  /- Letters are the same in upper and lower case. -/
  | foldCase
  /- Lines have starts and ends. -/
  | manyLines
  /- A dot is also the end of a line. -/
  | dotAll
  /- Repetitions are short unless marked. -/
  | swapGreed
  /- Sets are sets of characters and not of bytes. -/
  | unicode
  /- A carriage return belongs to the end of a line. -/
  | returns
  /- White space and notes are left out. -/
  | spaced
deriving DecidableEq

/- The flag of a letter. -/
def Flag.ofChar? : Char → Option Flag
  | 'i' => some .foldCase
  | 'm' => some .manyLines
  | 's' => some .dotAll
  | 'U' => some .swapGreed
  | 'u' => some .unicode
  | 'R' => some .returns
  | 'x' => some .spaced
  | _ => none

/- A flag and whether it is switched on. -/
structure Switch where
  flag : Flag
  isOn : Bool
deriving DecidableEq

/- How switches leave a flag, if they name it. -/
def switched?
    (flag : Flag)
    (switches : List Switch) : Option Bool :=
  (switches.find? (fun s => s.flag = flag)).map Switch.isOn

------------------------------------------------------------
-- Patterns
------------------------------------------------------------

/- What a group is for. -/
inductive GroupKind where
  /- What the group matched is kept. -/
  | kept
  /- The group has switches of its own. -/
  | plain (switches : List Switch)
deriving DecidableEq

/- The switches of a group. -/
def GroupKind.switches : GroupKind → List Switch
  | .kept => []
  | .plain switches => switches

/- A pattern. -/
inductive Term where
  | nothing (span : Span)
  | switches (switches : List Switch) (span : Span)
  | letter (letter : Letter)
  | dot (span : Span)
  | edge (edge : Edge) (span : Span)
  | charSet (set : CharSet)
  | repeated (term : Term) (least : Nat) (most : Option Nat)
      (isShort : Bool) (span : Span)
  | group (kind : GroupKind) (term : Term) (span : Span)
  | either (terms : List Term) (span : Span)
  | inTurn (terms : List Term) (span : Span)

/- The stretch of a pattern. -/
def Term.span : Term → Span
  | .nothing span => span
  | .switches _ span => span
  | .letter l => l.span
  | .dot span => span
  | .edge _ span => span
  | .charSet set => set.span
  | .repeated _ _ _ _ span => span
  | .group _ _ span => span
  | .either _ span => span
  | .inTurn _ span => span

/- Whether a pattern can be repeated. -/
def Term.isRepeatable : Term → Bool
  | .nothing _ => false
  | .switches _ _ => false
  | _ => true

/- Patterns one behind the other. -/
def Term.ofList
    (terms : List Term)
    (span : Span) : Term :=
  match terms with
  | [] => .nothing span
  | [term] => term
  | terms => .inTurn terms span

/- The set of the members of sets. -/
def CharSet.ofList
    (sets : List CharSet)
    (spot : Spot) : CharSet :=
  match sets with
  | [] => .empty (Span.point spot)
  | [set] => set
  | first :: rest =>
      let last := rest.getLast?.getD first
      .union (first :: rest)
        { start := first.span.start, stop := last.span.stop }

------------------------------------------------------------
-- Depth
------------------------------------------------------------

/- How many groups and sets may be within one another. -/
def depthLimit : Nat :=
  250

/- The stretch of the first set below more than some others. -/
def CharSet.tooDeep?
    (left : Nat) : CharSet → Option Span
  | .bracket _ inner span =>
      match left with
      | 0 => some span
      | left + 1 => inner.tooDeep? left
  | .union sets span =>
      match left with
      | 0 => some span
      | left + 1 => anyTooDeep? left sets
  | .combined _ a b span =>
      match left with
      | 0 => some span
      | left + 1 => (a.tooDeep? left).or (b.tooDeep? left)
  | _ => none
where
  anyTooDeep? (left : Nat) : List CharSet → Option Span
    | [] => none
    | set :: rest =>
        (set.tooDeep? left).or (anyTooDeep? left rest)

/- The stretch of the first part below more than some others. -/
def Term.tooDeep?
    (left : Nat) : Term → Option Span
  | .charSet set => set.tooDeep? left
  | .repeated term _ _ _ span =>
      match left with
      | 0 => some span
      | left + 1 => term.tooDeep? left
  | .group _ term span =>
      match left with
      | 0 => some span
      | left + 1 => term.tooDeep? left
  | .either terms span =>
      match left with
      | 0 => some span
      | left + 1 => anyTooDeep? left terms
  | .inTurn terms span =>
      match left with
      | 0 => some span
      | left + 1 => anyTooDeep? left terms
  | _ => none
where
  anyTooDeep? (left : Nat) : List Term → Option Span
    | [] => none
    | term :: rest =>
        (term.tooDeep? left).or (anyTooDeep? left rest)

end Pattern

end ChipEight
