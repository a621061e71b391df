import ChipEight.Log.Record
import ChipEight.Pattern.Finder

/-
  Which records of the log are written, as the user sets it.

  A setting is a list of directives between commas: a level
  for everything (`info`), a part of the program for all of
  its records (`chipvm::memory`), or both
  (`chipvm::memory=debug`). Behind a slash may stand a text
  that a record must contain. For a record the longest part
  that its origin starts with counts.

  Key definitions include:
    * `ChipEight.Directive`
    * `ChipEight.LogFilter`
    * `ChipEight.LogFilter.parse`
    * `ChipEight.LogFilter.admits`
    * `ChipEight.Record.written`
-/

namespace ChipEight

------------------------------------------------------------
-- Filters
------------------------------------------------------------

/-
  A part of the program, or all of it, and the level up to
  which its records are written, or none to write nothing.
-/
structure Directive where
  scope : Option String
  limit : Option Level
deriving DecidableEq

/- Directives, the more special ones last, and a pattern. -/
structure LogFilter where
  directives : List Directive
  pattern : Option Finder

namespace LogFilter

/- Whether a directive speaks about an origin. -/
def concerns
    (target : String)
    (d : Directive) : Bool :=
  match d.scope with
  | none => true
  | some scope => scope.toList.isPrefixOf target.toList

/- Whether a record is written. -/
def admits
    (f : LogFilter)
    (record : Record) : Bool :=
  let deciding? :=
    f.directives.reverse.find? (concerns record.target)
  let levelAdmits :=
    match deciding? with
    | none => false
    | some d =>
        match d.limit with
        | none => false
        | some limit => limit.covers record.level
  let textAdmits :=
    match f.pattern with
    | none => true
    | some finder => finder.occursIn record.message
  levelAdmits && textAdmits

------------------------------------------------------------
-- Settings
------------------------------------------------------------

/- The limit that a word names, in any case of letters. -/
def limit? (word : String) : Option (Option Level) :=
  match word.toLower with
  | "off" => some none
  | "error" => some (some .error)
  | "warn" => some (some .warn)
  | "info" => some (some .info)
  | "debug" => some (some .debug)
  | "trace" => some (some .trace)
  | _ => none

/-
  The directive that a part of a setting stands for, or the
  word that cannot be understood.
-/
def directiveOf (part : String) : Except String Directive :=
  match part.splitOn "=" with
  | [word] =>
      match limit? word with
      | some limit => .ok { scope := none, limit := limit }
      | none => .ok { scope := some word, limit := some .trace }
  | [scope, word] =>
      let word := trimmed word
      if word.isEmpty then
        .ok { scope := some scope, limit := some .trace }
      else
        match limit? word with
        | some limit =>
            .ok { scope := some scope, limit := limit }
        | none => .error word
  | _ => .error part

/- Add a directive, in place of one about the same part. -/
def replaceOrAdd
    (d : Directive) : List Directive → List Directive
  | [] => [d]
  | e :: rest =>
      if e.scope = d.scope then
        d :: rest
      else
        e :: replaceOrAdd d rest

/- How special a directive is. -/
def scopeSize (d : Directive) : Nat :=
  match d.scope with
  | none => 0
  | some scope => scope.utf8ByteSize

/- A warning about a word that cannot be understood. -/
def warning (word : String) : String :=
  "warning: invalid logging spec '" ++ word ++
    "', ignoring it"

/- The directives of the parts of a setting, and warnings. -/
def directivesOf
    (parts : List String) : List Directive × List String :=
  parts.foldl
    (fun (directives, warnings) part =>
      match directiveOf part with
      | .ok d => (replaceOrAdd d directives, warnings)
      | .error word =>
          (directives, warnings ++ [warning word]))
    ([], [])

/- A filter from directives; without any, errors are left. -/
def ofDirectives
    (directives : List Directive)
    (pattern : Option Finder) : LogFilter where
  directives :=
    match directives with
    | [] => [{ scope := none, limit := some .error }]
    | given =>
        given.mergeSort (fun d e => scopeSize d ≤ scopeSize e)
  pattern := pattern

/- The finder of a pattern, or lines that warn about it. -/
def finderOf
    (pattern : String) : Option Finder × List String :=
  match Finder.ofPattern pattern with
  | .ok finder => (some finder, [])
  | .error refusal =>
      match refusal.lines pattern with
      | [] => (none, [])
      | first :: rest =>
          (none, ("warning: invalid regex filter - " ++ first) ::
            rest)

/- The parts of a setting between commas, but not empty ones. -/
def partsOf (text : String) : List String :=
  ((text.splitOn ",").map trimmed).filter
    (fun part => !part.isEmpty)

/-
  The filter that a setting stands for, and the lines of the
  warnings about it.
-/
def parse (setting : String) : LogFilter × List String :=
  match setting.splitOn "/" with
  | [scopes] =>
      let (directives, warnings) :=
        directivesOf (partsOf scopes)
      (ofDirectives directives none,
        warnings.flatMap (fun w => w.splitOn "\n"))
  | [scopes, pattern] =>
      let (directives, warnings) :=
        directivesOf (partsOf scopes)
      let (finder, complaints) := finderOf pattern
      (ofDirectives directives finder,
        warnings.flatMap (fun w => w.splitOn "\n") ++
          complaints)
  | _ =>
      let told := warning setting ++ " (too many '/'s)"
      (ofDirectives [] none, told.splitOn "\n")

/- The setting that holds unless the user makes one. -/
def standardSetting : String :=
  "info"

end LogFilter

------------------------------------------------------------
-- Writing
------------------------------------------------------------

/- The lines of a record, the later ones indented. -/
def Record.written (record : Record) : List String :=
  let name := record.level.name
  let padding :=
    String.ofList (List.replicate (5 - name.length) ' ')
  let head :=
    "[" ++ name ++ padding ++ " " ++ record.target ++ "] "
  match record.message.splitOn "\n" with
  | [] => [head]
  | first :: rest =>
      (head ++ first) :: rest.map (fun line => "    " ++ line)

/- The lines of the records that a filter admits. -/
def LogFilter.written
    (f : LogFilter)
    (records : List Record) : List String :=
  (records.filter f.admits).flatMap Record.written

end ChipEight
