import Sequencer.Text.Alphanumeric

/-!
# Values of variables

A value may be quoted and may refer to other variables: `$NAME`, where the name has letters and digits only,
or with any name between braces. Within single quotes everything stands for itself.
-/

namespace Sequencer.Variables

/-- How far the value of a line has come. -/
inductive Mode where
  | bare
  | single
  | double
  /-- The name of a variable, perhaps within double quotes. -/
  | name (quoted : Bool) (read : String)
  /-- The name of a variable between braces. -/
  | braced (quoted : Bool) (read : String)
  /-- Behind the value only blanks and a comment may follow. -/
  | ended

/-- What goes on behind the name of a variable. -/
def Mode.around (quoted : Bool) : Mode := if quoted then .double else .bare

def escaped? : Char → Option Char
  | 'n' => some '\n'
  | '\\' => some '\\'
  | '\'' => some '\''
  | '"' => some '"'
  | '$' => some '$'
  | ' ' => some ' '
  | _ => none

def isGap (c : Char) : Bool := c = ' ' || c = '\t'

/--
The value at the front of the rest of a line. The character that ends a name belongs to the value, even if
it is a quote.
-/
def readValue (valueOf : String → String) : Mode → List Char → Option (List Char)
  | .bare, [] | .ended, [] | .bare, ['\\'] => some []
  | .name false name, [] => some (valueOf name).toList
  | .single, [] | .double, [] | .name true _, [] | .braced .., [] => none
  | .ended, c :: rest =>
    if c = '#' then some [] else if isGap c then readValue valueOf .ended rest else none
  | .single, c :: rest =>
    if c = '\'' then readValue valueOf .bare rest else (readValue valueOf .single rest).map (c :: ·)
  | .name quoted name, c :: rest =>
    if Text.isAlphanumeric c then readValue valueOf (.name quoted (name.push c)) rest
    else if c = '\x7b' ∧ name = "" then readValue valueOf (.braced quoted "") rest
    else if c = '$' then
      (readValue valueOf (.name quoted "") rest).map ((valueOf name).toList ++ ·)
    else (readValue valueOf (.around quoted) rest).map ((valueOf name).toList ++ c :: ·)
  | .braced quoted name, c :: rest =>
    if c = '\x7d' then
      (readValue valueOf (.around quoted) rest).map ((valueOf name).toList ++ ·)
    else readValue valueOf (.braced quoted (name.push c)) rest
  | .bare, '\\' :: c :: rest =>
    match escaped? c with
    | none => none
    | some e => (readValue valueOf .bare rest).map (e :: ·)
  | .double, '\\' :: c :: rest =>
    match escaped? c with
    | none => none
    | some e => (readValue valueOf .double rest).map (e :: ·)
  | .double, c :: rest =>
    if c = '$' then readValue valueOf (.name true "") rest
    else if c = '"' then readValue valueOf .bare rest
    else (readValue valueOf .double rest).map (c :: ·)
  | .bare, c :: rest =>
    if c = '$' then readValue valueOf (.name false "") rest
    else if c = '\'' then readValue valueOf .single rest
    else if c = '"' then readValue valueOf .double rest
    else if isGap c then readValue valueOf .ended rest
    else (readValue valueOf .bare rest).map (c :: ·)

end Sequencer.Variables
