import ChipEight.Pattern.Span

/-
  What can be wrong with the text of a pattern.

  A complaint points at a stretch of the pattern, and at a
  second one where something was said before. It is told with
  the lines of the pattern and marks below the stretches.

  Key definitions include:
    * `ChipEight.Pattern.Fault`
    * `ChipEight.Pattern.Fault.message`
    * `ChipEight.Pattern.Complaint`
    * `ChipEight.Pattern.Complaint.lines`
-/

namespace ChipEight

namespace Pattern

------------------------------------------------------------
-- Faults
------------------------------------------------------------

/- Why a pattern is refused. -/
inductive Fault where
  /- An escape that stands for no character of a set. -/
  | setEscape
  /- A range of characters whose end is before its start. -/
  | rangeReversed
  /- A range of characters that is bounded by a set. -/
  | rangeBound
  /- A set of characters that is not closed. -/
  | setOpen
  /- A number that is too large. -/
  | numberTooLarge
  /- An escaped code point without digits. -/
  | codeEmpty
  /- A number that is the code point of no character. -/
  | codeInvalid
  /- A character that is no hexadecimal digit. -/
  | codeDigit
  /- An escape at the end of the pattern. -/
  | escapeCut
  /- An escape without a meaning. -/
  | escapeUnknown
  /- A dash without a flag behind it. -/
  | flagDangling
  /- A flag that is named twice. -/
  | flagTwice
  /- A second dash between flags. -/
  | flagNegatedTwice
  /- Flags that are not closed. -/
  | flagCut
  /- A letter that is no flag. -/
  | flagUnknown
  /- A group name that is used twice. -/
  | nameTwice
  /- A group name without characters. -/
  | nameEmpty
  /- A character that no group name has. -/
  | nameInvalid
  /- A group name that is not closed. -/
  | nameCut
  /- A group that is not closed. -/
  | groupOpen
  /- A closing parenthesis without a group. -/
  | groupUnopened
  /- Groups and sets within one another beyond a limit. -/
  | tooDeep (limit : Nat)
  /- Counts of a repetition in the wrong order. -/
  | countReversed
  /- A repetition without its count. -/
  | countEmpty
  /- A count that is not closed. -/
  | countOpen
  /- A repetition of nothing. -/
  | nothingRepeated
  /- A kind of word edge that is not closed. -/
  | edgeOpen
  /- A kind of word edge that is not known. -/
  | edgeUnknown
  /- A brace behind a word edge at the end of the pattern. -/
  | edgeCut
  /- A property of characters that cannot be read. -/
  | propertyInvalid
  /- A reference to what a group matched. -/
  | backReference
  /- A look ahead or back. -/
  | lookAround
  /- A character beyond ASCII in a set of bytes. -/
  | notUnicode
  /- Bytes that are part of no text. -/
  | notText
  /- A property of characters that is not known. -/
  | propertyUnknown
  /- A value of such a property that is not known. -/
  | valueUnknown
  /- A set with a letter of its own, of all scripts. -/
  | shorthandMissing
  /- Upper and lower case of the letters of all scripts. -/
  | foldingMissing
deriving DecidableEq

/- What is told about a fault. -/
def Fault.message : Fault → String
  | .setEscape =>
      "invalid escape sequence found in character class"
  | .rangeReversed =>
      "invalid character class range, " ++
        "the start must be <= the end"
  | .rangeBound =>
      "invalid range boundary, must be a literal"
  | .setOpen => "unclosed character class"
  | .numberTooLarge => "decimal literal invalid"
  | .codeEmpty => "hexadecimal literal empty"
  | .codeInvalid =>
      "hexadecimal literal is not a Unicode scalar value"
  | .codeDigit => "invalid hexadecimal digit"
  | .escapeCut =>
      "incomplete escape sequence, " ++
        "reached end of pattern prematurely"
  | .escapeUnknown => "unrecognized escape sequence"
  | .flagDangling => "dangling flag negation operator"
  | .flagTwice => "duplicate flag"
  | .flagNegatedTwice => "flag negation operator repeated"
  | .flagCut => "expected flag but got end of regex"
  | .flagUnknown => "unrecognized flag"
  | .nameTwice => "duplicate capture group name"
  | .nameEmpty => "empty capture group name"
  | .nameInvalid => "invalid capture group character"
  | .nameCut => "unclosed capture group name"
  | .groupOpen => "unclosed group"
  | .groupUnopened => "unopened group"
  | .tooDeep limit =>
      "exceed the maximum number of nested " ++
        "parentheses/brackets (" ++ toString limit ++ ")"
  | .countReversed =>
      "invalid repetition count range, " ++
        "the start must be <= the end"
  | .countEmpty =>
      "repetition quantifier expects a valid decimal"
  | .countOpen => "unclosed counted repetition"
  | .nothingRepeated =>
      "repetition operator missing expression"
  | .edgeOpen =>
      "special word boundary assertion is either " ++
        "unclosed or contains an invalid character"
  | .edgeUnknown =>
      "unrecognized special word boundary assertion, " ++
        "valid choices are: start, end, start-half or end-half"
  | .edgeCut =>
      "found either the beginning of a special word " ++
        "boundary or a bounded repetition on a \\b with " ++
        "an opening brace, but no closing brace"
  | .propertyInvalid => "invalid Unicode character class"
  | .backReference => "backreferences are not supported"
  | .lookAround =>
      "look-around, including look-ahead and " ++
        "look-behind, is not supported"
  | .notUnicode => "Unicode not allowed here"
  | .notText => "pattern can match invalid UTF-8"
  | .propertyUnknown => "Unicode property not found"
  | .valueUnknown => "Unicode property value not found"
  | .shorthandMissing =>
      "Unicode-aware Perl class not found " ++
        "(make sure the unicode-perl feature is enabled)"
  | .foldingMissing =>
      "Unicode-aware case insensitivity matching " ++
        "is not available " ++
        "(make sure the unicode-case feature is enabled)"

------------------------------------------------------------
-- Complaints
------------------------------------------------------------

/- A fault, where it is, and what was there before it. -/
structure Complaint where
  fault : Fault
  span : Span
  earlier : Option Span := none
deriving DecidableEq

namespace Complaint

/- The stretches a complaint points at, the first one first. -/
def spans (complaint : Complaint) : List Span :=
  match complaint.earlier with
  | none => [complaint.span]
  | some span =>
      if span.isUpTo complaint.span then
        [span, complaint.span]
      else
        [complaint.span, span]

/-
  The marks below a line, up to a column, for the stretches
  that lie in the line. Each of them has one mark at least.
-/
def marks
    (column : Nat) : List Span → List Char
  | [] => []
  | span :: rest =>
      let width := max 1 (span.stop.column - span.start.column)
      let gap := span.start.column - column
      List.replicate gap ' ' ++ List.replicate width '^' ++
        marks (column + gap + width) rest

/- A line's own text, which leaves out a carriage return. -/
def withoutReturn (line : String) : String :=
  match line.toList.reverse with
  | '\r' :: rest => String.ofList rest.reverse
  | _ => line

/- The lines of a pattern; an end of line ends the last one. -/
def linesOf (source : String) : List String :=
  let parts := source.splitOn "\n"
  let ended := parts.dropLast.map withoutReturn
  match parts.getLast? with
  | none => ended
  | some "" => ended
  | some last => ended ++ [last]

/- A line of a pattern with the marks that belong below it. -/
def markedLine
    (head : String)
    (indent : Nat)
    (line : String)
    (spans : List Span) : List String :=
  match spans with
  | [] => [head ++ line]
  | spans =>
      [head ++ line,
        String.ofList
          (List.replicate indent ' ' ++ marks 1 spans)]

/- The lines of a pattern of one line, with marks. -/
def plainLines
    (source : String)
    (spans : List Span) : List String :=
  (linesOf source).flatMap
    (fun line => markedLine "    " 4 line spans)

/- The numbered lines of a pattern, with marks. -/
def numberedLines
    (source : String)
    (spans : List Span) : List String :=
  let lines := linesOf source
  let count :=
    if source.endsWith "\n" then
      lines.length + 1
    else
      lines.length
  let width := (toString count).length
  lines.zipIdx.flatMap
    (fun (line, k) =>
      let number := toString (k + 1)
      let gap := List.replicate (width - number.length) ' '
      markedLine
        (String.ofList gap ++ number ++ ": ")
        (width + 2)
        line
        (spans.filter
          (fun span =>
            span.isWithinLine && span.start.line = k + 1)))

/- What is told about a stretch over several lines. -/
def extent (span : Span) : String :=
  "on line " ++ toString span.start.line ++
    " (column " ++ toString span.start.column ++
    ") through line " ++ toString span.stop.line ++
    " (column " ++ toString (span.stop.column - 1) ++ ")"

/- What is told about a pattern with a fault. -/
def lines
    (source : String)
    (complaint : Complaint) : List String :=
  let spans := complaint.spans
  let told := "error: " ++ complaint.fault.message
  if source.contains '\n' then
    let border := String.ofList (List.replicate 79 '~')
    ["regex parse error:", border] ++
      numberedLines source spans ++ [border] ++
      (spans.filter (fun span => !span.isWithinLine)).map
        extent ++
      [told]
  else
    ["regex parse error:"] ++ plainLines source spans ++
      [told]

end Complaint

end Pattern

end ChipEight
