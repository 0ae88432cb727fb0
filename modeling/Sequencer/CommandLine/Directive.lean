import Sequencer.CommandLine.Pattern.Fault
import Sequencer.Decimal.Reading
import Sequencer.Text.Blank
import Sequencer.Text.Bytes

/-!
# Directives

One part of a filter: `target[span{field=value}]=level`, of which most may be left out.
-/

namespace Sequencer

/-- The most detailed level there is. -/
def maxDetail : Nat := 5

/-- Lets notices through up to `detail` if everything else that it asks for is there. -/
structure Directive where
  /-- The beginning of the name under which a part of the program speaks. -/
  target : Option String := none
  /-- The name of a stretch of work around the notice. -/
  span : Option String := none
  field : Option String := none
  /-- What a field of a stretch of work has to hold. -/
  value : Option String := none
  detail : Nat := maxDetail
deriving DecidableEq

inductive DirectiveError where
  | form
  | level
  | value (fault : PatternFault)
  /-- A cut within a character. -/
  | cut
deriving DecidableEq

def DirectiveError.message : DirectiveError → String
  | .form => "invalid filter directive"
  | .level =>
    "error parsing level filter: expected one of \"off\", \"error\", \"warn\", \"info\", \"debug\", " ++
      "\"trace\", or a number 0-5"
  | .value fault => "invalid field filter: " ++ fault.message
  | .cut => "a cut within a character"

namespace Directive

/-! ## Levels -/

/-- A level by its name in any case, or by its number. -/
def detail? (s : String) : Option Nat :=
  match Decimal.unsigned64? s with
  | some detail => if detail ≤ maxDetail then some detail else none
  | none =>
    match String.ofList (s.toList.map Char.toLower) with
    | "off" => some 0
    | "error" => some 1
    | "warn" => some 2
    | "info" => some 3
    | "debug" => some 4
    | "trace" => some 5
    | _ => none

/-! ## Reading

Positions count from the first character that is no blank, but texts are cut from the part with its blanks:
behind blanks every text begins and ends that much too early. -/

abbrev Reading := Except DirectiveError

def cutOut (part : List Char) (first last : Nat) : Reading String :=
  match Text.between? first last part with
  | some cs => .ok (String.ofList cs)
  | none => .error .cut

def cutFrom (part : List Char) (first : Nat) : Reading String :=
  match Text.from? first part with
  | some cs => .ok (String.ofList cs)
  | none => .error .cut

/-- The first of the marks with its position, and what follows it. -/
def findMark (marks : List Char) (cs : List (Nat × Char)) : Option (Nat × Char × List (Nat × Char)) :=
  match cs.dropWhile fun (_, c) => !marks.contains c with
  | [] => none
  | (position, c) :: rest => some (position, c, rest)

/-- A level from `first` on; none means all. -/
def readLevel (part : List Char) (first : Nat) : Reading Nat := do
  let level ← cutFrom part first
  if level = "" then return maxDetail
  match detail? level with
  | some detail => return detail
  | none => throw .level

/-- Behind the brackets stands nothing, or a level. -/
def readEnd (part : List Char) (d : Directive) : List (Nat × Char) → Reading Directive
  | [] => return d
  | (position, c) :: _ =>
    if c = '=' then return { d with detail := ← readLevel part (position + 1) } else throw .form

/-- Truth values and numbers. -/
def isPlainValue (s : String) : Bool :=
  s = "true" || s = "false" || (Decimal.unsigned64? s).isSome || (Decimal.signed64? s).isSome ||
    (Binary.ofText? s).isSome

/-- The value of a field is plain or a pattern. -/
def valueFault? (s : String) : Option PatternFault := if isPlainValue s then none else Pattern.fault? s

/-- A field by its name, perhaps with a value; a second equals sign ends the value. -/
def readField (d : Directive) (s : String) : Reading Directive :=
  match s.splitOn "=" with
  | [] | [""] => throw .form
  | [name] => return { d with field := some name }
  | name :: value :: _ =>
    match valueFault? value with
    | none => return { d with field := some name, value := some value }
    | some fault => throw (.value fault)

/-- What stands between the brackets, from `first` on. -/
def readBrackets (part : List Char) (target : Option String) (first : Nat) (cs : List (Nat × Char)) :
    Reading Directive := do
  match findMark [']', '\x7b'] cs with
  | none => throw .form
  | some (position, mark, rest) =>
    let span ← cutOut part first position
    if mark = ']' then readEnd part { target, span := some span } rest
    else
      match findMark ['\x7d'] rest with
      | none => throw .form
      | some (last, _, rest) =>
        let span := if span = "" then none else some span
        let d ← readField { target, span } (← cutOut part (position + 1) last)
        match rest with
        | (_, ']') :: rest => readEnd part d rest
        | _ => throw .form

def isTargetStart (c : Char) : Bool := Text.isAlphanumeric c || ['-', ':', '_'].contains c

/-- A level, or a directive with its parts. -/
def ofString (s : String) : Reading Directive := do
  let part := s.toList
  match Text.placed 0 (Text.trim part) with
  | [] => throw .form
  | (_, first) :: rest =>
    if first = '[' then readBrackets part none 1 rest
    else if !isTargetStart first then throw .form
    else
      match findMark ['=', '['] rest with
      | none =>
        match detail? s with
        | some detail => return { detail }
        | none => return { target := some s }
      | some (position, mark, rest) =>
        let target ← cutOut part 0 position
        if mark = '[' then readBrackets part (some target) (position + 1) rest
        else return { target := some target, detail := ← readLevel part (position + 1) }

/-! ## Matching -/

/-- Only directives that ask for no stretch of work concern notices. -/
def isForNotices (d : Directive) : Bool := d.span.isNone && d.value.isNone

/-- Whether the directive is about a notice of that target with those fields. -/
def isAbout (d : Directive) (target : String) (fields : List String) : Bool :=
  d.isForNotices && (d.target.getD "").isPrefixOf target && d.field.all fields.contains

/-- Directives count more the longer their target is, and more with a field than without. -/
def rank (d : Directive) : List Nat :=
  let target := match d.target with
    | none => 0
    | some target => target.utf8ByteSize + 1
  match d.field with
  | none => [target, 0]
  | some field => target :: 1 :: field.toList.map Char.toNat

end Directive

end Sequencer
