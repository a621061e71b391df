import ChipEight.Pattern.Shape

/-
  Where the shape of a pattern is met in a text.

  The places of a text with `n` characters are the numbers up
  to `n`, and a set of places is a number with their bits.
  From a set of places a shape leads to the places behind what
  it matches; it occurs in the text if it leads anywhere from
  all places together.

  Key definitions include:
    * `ChipEight.Pattern.Condition.holds`
    * `ChipEight.Pattern.Plan`
    * `ChipEight.Pattern.Plan.reach`
    * `ChipEight.Pattern.Shape.plan`
    * `ChipEight.Pattern.Shape.occursIn`
-/

namespace ChipEight

namespace Pattern

------------------------------------------------------------
-- Conditions
------------------------------------------------------------

/- Whether a character belongs to a word. -/
def isWordChar (c : Char) : Bool :=
  c.isAlphanum || c = '_'

/- Whether there is a character that belongs to a word. -/
def inWord (c? : Option Char) : Bool :=
  (c?.map isWordChar).getD false

/- Whether a condition on words holds between characters. -/
def WordEdge.holds
    (edge : WordEdge)
    (before after : Option Char) : Bool :=
  match edge with
  | .change => inWord before != inWord after
  | .noChange => inWord before == inWord after
  | .start => !inWord before && inWord after
  | .stop => inWord before && !inWord after
  | .openLeft => !inWord before
  | .openRight => !inWord after

/- Whether a condition holds between two characters. -/
def Condition.holds
    (condition : Condition)
    (before after : Option Char) : Bool :=
  match condition with
  | .textStart => before = none
  | .textEnd => after = none
  | .lineStart false => before = none || before = some '\n'
  | .lineStart true =>
      before = none || before = some '\n' ||
        (before = some '\r' && after ≠ some '\n')
  | .lineEnd false => after = none || after = some '\n'
  | .lineEnd true =>
      after = none || after = some '\r' ||
        (after = some '\n' && before ≠ some '\r')
  | .word edge _ => edge.holds before after

------------------------------------------------------------
-- Sets Of Places
------------------------------------------------------------

/- The places in front of characters that pass a test. -/
def placesBefore
    (test : Char → Bool) : List Char → Nat
  | [] => 0
  | c :: rest => 2 * placesBefore test rest + (test c).toNat

/- The places that meet a condition, behind a character. -/
def Condition.places
    (condition : Condition)
    (before : Option Char) : List Char → Nat
  | [] => (condition.holds before none).toNat
  | c :: rest =>
      2 * condition.places (some c) rest +
        (condition.holds before (some c)).toNat

/- Lead on from places a number of times, while there are any. -/
def stepped
    (step : Nat → Nat) : Nat → Nat → Nat
  | 0, places => places
  | count + 1, places =>
      if places = 0 then
        0
      else
        stepped step count (step places)

/- Add what places lead to, a number of times at most. -/
def widened
    (step : Nat → Nat) : Nat → Nat → Nat
  | 0, places => places
  | count + 1, places =>
      let wider := places ||| step places
      if wider = places then
        places
      else
        widened step count wider

------------------------------------------------------------
-- Plans
------------------------------------------------------------

/-
  A shape for one text, with the places of the text at which
  a character belongs to a set or a condition holds.
-/
inductive Plan where
  | always
  | oneOf (places : Nat)
  | check (places : Nat)
  | repeated (plan : Plan) (least : Nat) (most : Option Nat)
  | both (first rest : Plan)
  | either (first rest : Plan)

/-
  The places behind what is matched from some places, in a
  text of a length.

  A place never leads back. So beyond one step more than the
  text is long a repetition adds nothing, and counts that are
  larger are cut down to that.
-/
def Plan.reach
    (length : Nat) : Plan → Nat → Nat
  | .always, places => places
  | .oneOf fit, places => (places &&& fit) <<< 1
  | .check fit, places => places &&& fit
  | .repeated a least most, places =>
      let started :=
        stepped (a.reach length) (min least (length + 1)) places
      let more :=
        match most with
        | none => length + 1
        | some most => min (most - least) (length + 1)
      widened (a.reach length) more started
  | .both a b, places =>
      b.reach length (a.reach length places)
  | .either a b, places =>
      a.reach length places ||| b.reach length places

/- The plan for characters one behind the other. -/
def textPlan
    (text : List Char) : List Char → Plan
  | [] => .always
  | c :: rest =>
      .both (.oneOf (placesBefore (fun d => d = c) text))
        (textPlan text rest)

/- The plan of a shape for a text. -/
def Shape.plan
    (text : List Char) : Shape → Plan
  | .empty => .always
  | .literal chars => textPlan text chars
  | .oneOf ranges _ =>
      .oneOf
        (placesBefore
          (fun c => ranges.any (fun r => r.holds c.toNat))
          text)
  | .check condition => .check (condition.places none text)
  | .repeated a least most _ =>
      .repeated (a.plan text) least most
  | .kept _ a => a.plan text
  | .both a b => .both (a.plan text) (b.plan text)
  | .either a b => .either (a.plan text) (b.plan text)

/- Whether a shape occurs anywhere in a text. -/
def Shape.occursIn
    (shape : Shape)
    (text : List Char) : Bool :=
  let anywhere := (1 <<< (text.length + 1)) - 1
  (shape.plan text).reach text.length anywhere ≠ 0

end Pattern

end ChipEight
