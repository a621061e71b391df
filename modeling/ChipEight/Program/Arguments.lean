import ChipEight.Engine.Basic

/-
  The command line of the program.

  One argument names the program file; the others are options
  with a value (`--scale 3` or `--scale=3`), switches, and
  `--`, behind which nothing is an option any more. The value
  of an option never starts with a dash unless it is attached.

  A value is looked at only when the next option, switch or
  file name has been recognised, or at the end of the line.
  So an unknown argument is reported before a bad value that
  stands right in front of it, and a bad value before
  anything that follows.

  Key definitions include:
    * `ChipEight.Arguments`
    * `ChipEight.UsageError`
    * `ChipEight.Arguments.Slot`
    * `ChipEight.Arguments.Token`
    * `ChipEight.Arguments.Reader`
    * `ChipEight.Arguments.Reader.read`
    * `ChipEight.Arguments.parse`
-/

namespace ChipEight

------------------------------------------------------------
-- Results
------------------------------------------------------------

/- What the command line asks for. -/
structure Arguments where
  path : String
  rate : Nat
  scale : UInt32
  seed : Option UInt64
  listOnly : Bool
deriving DecidableEq

/- Why a command line is not carried out. -/
inductive UsageError where
  /- No program file is named. -/
  | fileMissing
  /- An option or a further file that is not known. -/
  | unknown
  /- A value that is no number or out of its range. -/
  | badValue
  /- An option without its value, or an empty file name. -/
  | noValue
  /- An option or switch that is given twice. -/
  | repeated
  /- A switch with a value. -/
  | extraValue
  /- The user asks how the program is used. -/
  | help
  /- The user asks for the version. -/
  | version
deriving DecidableEq

namespace Arguments

/- How large a pixel is unless a scale is given. -/
def standardScale : UInt32 :=
  10

------------------------------------------------------------
-- Numbers
------------------------------------------------------------

/- A digit's value. -/
def digit? (c : Char) : Option Nat :=
  if c.isDigit then
    some (c.toNat - '0'.toNat)
  else
    none

/- A number from decimal digits, at least one. -/
def natural? (digits : List Char) : Option Nat :=
  if digits.isEmpty then
    none
  else
    digits.foldl
      (fun total c =>
        match total, digit? c with
        | some n, some d => some (n * 10 + d)
        | _, _ => none)
      (some 0)

/- A number that may be marked as positive. -/
def unsigned? : List Char → Option Nat
  | '+' :: digits => natural? digits
  | digits => natural? digits

/-
  A number that may be marked as positive, or zero marked as
  negative.
-/
def nonNegative? : List Char → Option Nat
  | '-' :: digits =>
      match natural? digits with
      | some 0 => some 0
      | _ => none
  | text => unsigned? text

/- A number from a least to a greatest one. -/
def within?
    (least greatest : Nat)
    (n : Option Nat) : Option Nat :=
  n.filter (fun n => least ≤ n && n ≤ greatest)

------------------------------------------------------------
-- Values
------------------------------------------------------------

/- What takes a value. -/
inductive Slot where
  | path
  | rate
  | scale
  | seed
deriving DecidableEq

/- The values that were given so far. -/
structure Draft where
  path : Option String := none
  rate : Option Nat := none
  scale : Option UInt32 := none
  seed : Option UInt64 := none
  listOnly : Bool := false

namespace Draft

/- Whether a slot has its value. -/
def isFilled
    (d : Draft) : Slot → Bool
  | .path => d.path.isSome
  | .rate => d.rate.isSome
  | .scale => d.scale.isSome
  | .seed => d.seed.isSome

/- Give a slot its value. -/
def fill
    (d : Draft)
    (slot : Slot)
    (text : String) : Except UsageError Draft :=
  match slot with
  | .path =>
      if text.isEmpty then
        .error .noValue
      else
        .ok { d with path := some text }
  | .rate =>
      match
        within? 1 Clock.rateLimit (nonNegative? text.toList)
      with
      | none => .error .badValue
      | some n => .ok { d with rate := some n }
  | .scale =>
      match within? 0 4294967295 (nonNegative? text.toList) with
      | none => .error .badValue
      | some n => .ok { d with scale := some (UInt32.ofNat n) }
  | .seed =>
      match
        within? 0 18446744073709551615 (unsigned? text.toList)
      with
      | none => .error .badValue
      | some n => .ok { d with seed := some (UInt64.ofNat n) }

/- Give a slot its value, which must be there and be new. -/
def settle
    (d : Draft)
    (slot : Slot) : Option String → Except UsageError Draft
  | none => .error .noValue
  | some text =>
      if d.isFilled slot then
        .error .repeated
      else
        d.fill slot text

end Draft

------------------------------------------------------------
-- Tokens
------------------------------------------------------------

/- The form of an argument. -/
inductive Token where
  /- The end of options. -/
  | dashes
  /- A long name, with what stands behind an equals sign. -/
  | long (name : String) (value : Option String)
  /- One letter names, of which the first one decides. -/
  | short (name : Char)
  /- A value or a file name. -/
  | plain (text : String)

/- A long name and its attached value. -/
def splitLong (body : List Char) : Token :=
  let name := body.takeWhile (· ≠ '=')
  match body.drop name.length with
  | [] => .long (String.ofList name) none
  | _ :: value =>
      .long (String.ofList name) (some (String.ofList value))

/- The form of an argument. -/
def Token.ofText (text : String) : Token :=
  match text.toList with
  | ['-', '-'] => .dashes
  | '-' :: '-' :: body => splitLong body
  | '-' :: name :: _ => .short name
  | _ => .plain text

/- The slot that a long name fills. -/
def Slot.ofName? : String → Option Slot
  | "clock-hz" => some .rate
  | "scale" => some .scale
  | "seed" => some .seed
  | _ => none

/- What a name without a value asks for. -/
inductive Switch where
  | listOnly
  | help
  | version
deriving DecidableEq

/- The switch of a long name. -/
def Switch.ofName? : String → Option Switch
  | "disassemble" => some .listOnly
  | "help" => some .help
  | "version" => some .version
  | _ => none

/- The switch of a letter. -/
def Switch.ofLetter? : Char → Option Switch
  | 'h' => some .help
  | 'V' => some .version
  | _ => none

------------------------------------------------------------
-- Reading
------------------------------------------------------------

/-
  The values so far, the slot whose value was not looked at
  yet, and whether a file was named and options have ended.
-/
structure Reader where
  draft : Draft := {}
  open? : Option (Slot × Option String) := none
  fileNamed : Bool := false
  optionsEnded : Bool := false

namespace Reader

/- Look at the value that was not looked at yet. -/
def settle (r : Reader) : Except UsageError Reader :=
  match r.open? with
  | none => .ok r
  | some (slot, value) => do
      let draft ← r.draft.settle slot value
      .ok { r with draft := draft, open? := none }

/- Take a slot whose value follows. -/
def begin
    (r : Reader)
    (slot : Slot)
    (value : Option String) : Except UsageError Reader := do
  let r ← r.settle
  .ok { r with open? := some (slot, value) }

/- Take a file name, of which there is only one. -/
def takeFile
    (r : Reader)
    (text : String) : Except UsageError Reader :=
  if r.fileNamed then
    .error .unknown
  else do
    let r ← r.begin .path (some text)
    .ok { r with fileNamed := true }

/- Take a switch. -/
def takeSwitch
    (r : Reader)
    (switch : Switch) : Except UsageError Reader := do
  let r ← r.settle
  match switch with
  | .help => .error .help
  | .version => .error .version
  | .listOnly =>
      if r.draft.listOnly then
        .error .repeated
      else
        .ok { r with draft := { r.draft with listOnly := true } }

/- Take a long name. -/
def takeLong
    (r : Reader)
    (name : String)
    (value : Option String) : Except UsageError Reader :=
  match Slot.ofName? name, Switch.ofName? name, value with
  | some slot, _, none => r.begin slot none
  | some slot, _, some text => do
      let r ← r.begin slot (some text)
      r.settle
  | none, some switch, none => r.takeSwitch switch
  | none, some _, some _ => .error .extraValue
  | none, none, _ => .error .unknown

/- Take a value, or a file name if none is awaited. -/
def takePlain
    (r : Reader)
    (text : String) : Except UsageError Reader :=
  match r.open? with
  | some (slot, none) =>
      .ok { r with open? := some (slot, some text) }
  | _ => r.takeFile text

/- Take an argument. -/
def read
    (r : Reader)
    (text : String) : Except UsageError Reader :=
  if r.optionsEnded then
    r.takeFile text
  else
    match Token.ofText text with
    | .dashes => .ok { r with optionsEnded := true }
    | .long name value => r.takeLong name value
    | .short letter =>
        match Switch.ofLetter? letter with
        | some switch => r.takeSwitch switch
        | none => .error .unknown
    | .plain text => r.takePlain text

/- The arguments at the end of the line. -/
def finish (r : Reader) : Except UsageError Arguments := do
  let r ← r.settle
  match r.draft.path with
  | none => .error .fileMissing
  | some path =>
      .ok
        { path := path
          rate := r.draft.rate.getD Rates.standard.cycles
          scale := r.draft.scale.getD standardScale
          seed := r.draft.seed
          listOnly := r.draft.listOnly }

end Reader

/- What the arguments of a command line ask for. -/
def parse
    (args : List String) : Except UsageError Arguments := do
  let r ← args.foldlM Reader.read {}
  r.finish

end Arguments

end ChipEight
