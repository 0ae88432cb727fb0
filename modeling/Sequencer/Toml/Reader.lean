import Sequencer.Toml.Text
import Sequencer.Toml.Scalar
import Sequencer.Toml.Tree

/-!
# Reading TOML

A document is a list of statements: table headers and pairs of a key and a value, one a line.
-/

namespace Sequencer.Toml

open Text (Reader)

def skipSpace (cs : List Char) : List Char := cs.dropWhile isSpace

/-- Drops a comment up to the end of its line. -/
def skipComment : List Char → List Char
  | '#' :: rest => rest.dropWhile isPlain
  | cs => cs

/-- Nothing but blanks and a comment up to the end of the line or of the text. -/
def endLine (cs : List Char) : Option (List Char) :=
  match skipComment (skipSpace cs) with
  | [] => some []
  | '\n' :: rest => some rest
  | '\r' :: '\n' :: rest => some rest
  | _ => none

/-- Drops blanks, comments and line breaks between the items of a list. -/
def skipLines : (fuel : Nat) → List Char → List Char
  | 0, cs => cs
  | fuel + 1, cs =>
    match skipSpace cs with
    | '\n' :: rest => skipLines fuel rest
    | '\r' :: '\n' :: rest => skipLines fuel rest
    | '#' :: rest => skipLines fuel (rest.dropWhile isPlain)
    | cs => cs

/-! ## Keys -/

def isBareKeyChar (c : Char) : Bool := c.isAlphanum || c = '_' || c = '-'

def readKeyPart : Reader String := fun cs =>
  match cs with
  | '"' :: _ | '\'' :: _ => (readShort cs).map fun (key, rest) => (String.ofList key, rest)
  | _ =>
    let (key, rest) := Text.readWhile isBareKeyChar cs
    if key.isEmpty then none else some (String.ofList key, rest)

/-- A key of fewer than that many parts. -/
def maxParts : Nat := 80

/-- A dotted key: the parts in front of the last, and the last. -/
def readKey : (parts : Nat) → Reader (List String × String)
  | 0, _ => none
  | parts + 1, cs => do
    let (part, rest) ← readKeyPart (skipSpace cs)
    match skipSpace rest with
    | '.' :: rest =>
      let ((path, last), rest) ← readKey parts rest
      some ((part :: path, last), rest)
    | rest => some (([], part), rest)

/-! ## Values -/

/-- Lists and inline tables lie less deep than that in each other. -/
def maxDepth : Nat := 80

mutual

/-- Reads a value. Every recursive call comes behind at least one character, so fuel for each suffices. -/
def readValue : (fuel depth : Nat) → Reader Toml
  | 0, _, _ => none
  | fuel + 1, depth, cs =>
    match cs with
    | '"' :: _ | '\'' :: _ => (readText cs).map fun (chars, rest) => (.text (String.ofList chars), rest)
    | '[' :: rest =>
      if maxDepth ≤ depth + 1 then none
      else (readItems fuel (depth + 1) rest).map fun (items, rest) => (.list items, rest)
    | '\x7b' :: rest =>
      if maxDepth ≤ depth + 1 then none
      else
        match skipSpace rest with
        | '\x7d' :: rest => some (.table [], rest)
        | rest => (readPairs fuel (depth + 1) [] rest).map fun (entries, rest) =>
          (.table (entriesToToml entries), rest)
    | cs => readScalar cs

/-- The items up to the closing bracket; a comma may stand behind the last. -/
def readItems : (fuel depth : Nat) → Reader (List Toml)
  | 0, _, _ => none
  | fuel + 1, depth, cs =>
    match skipLines (cs.length + 1) cs with
    | ']' :: rest => some ([], rest)
    | cs => do
      let (item, rest) ← readValue fuel depth cs
      match skipLines (rest.length + 1) rest with
      | ',' :: rest =>
        let (items, rest) ← readItems fuel depth rest
        some (item :: items, rest)
      | ']' :: rest => some ([item], rest)
      | _ => none

/-- The pairs up to the closing brace, all on one line, added to `entries`. -/
def readPairs : (fuel depth : Nat) → (entries : Entries) → Reader Entries
  | 0, _, _, _ => none
  | fuel + 1, depth, entries, cs => do
    let ((path, key), rest) ← readKey (maxParts - 1) cs
    let rest ← Text.expect? ['='] rest
    let (value, rest) ← readValue fuel depth (skipSpace rest)
    let entries ← insertAt path key value entries
    match skipSpace rest with
    | ',' :: rest => readPairs fuel depth entries rest
    | '\x7d' :: rest => some (entries, rest)
    | _ => none

end

/-! ## Statements -/

inductive Statement where
  | table (path : List String) (key : String)
  | element (path : List String) (key : String)
  | pair (path : List String) (key : String) (value : Toml)

def readPair (cs : List Char) : Option (Statement × List Char) := do
  let ((path, key), rest) ← readKey (maxParts - 1) cs
  let rest ← Text.expect? ['='] rest
  let rest := skipSpace rest
  let (value, rest) ← readValue (rest.length + 1) 0 rest
  some (.pair path key value, rest)

/-- One statement, if there is one on the line. -/
def readStatement (cs : List Char) : Option (Option Statement × List Char) :=
  match cs with
  | [] | '\n' :: _ | '\r' :: _ | '#' :: _ => some (none, cs)
  | '[' :: '[' :: rest => do
    let ((path, key), rest) ← readKey (maxParts - 1) rest
    let rest ← Text.expect? [']', ']'] rest
    some (some (.element path key), rest)
  | '[' :: rest => do
    let ((path, key), rest) ← readKey (maxParts - 1) rest
    let rest ← Text.expect? [']'] rest
    some (some (.table path key), rest)
  | cs => (readPair cs).map fun (statement, rest) => (some statement, rest)

/-- The statements of a text. Every line takes at least one character. -/
def readStatements : (fuel : Nat) → List Char → Option (List Statement)
  | 0, _ => none
  | _ + 1, [] => some []
  | fuel + 1, cs => do
    let (statement, rest) ← readStatement (skipSpace cs)
    let rest ← endLine rest
    let statements ← readStatements fuel rest
    some (statement.toList ++ statements)

/-! ## Documents -/

/-- The tables so far, and the path of the table that pairs go to. -/
structure Draft where
  entries : Entries := []
  path : List String := []

/-- Pairs go to the table of the last header. -/
def Draft.add (d : Draft) : Statement → Option Draft
  | .table path key => (openTable path key d.entries).map fun entries => ⟨entries, path ++ [key]⟩
  | .element path key => (openElement path key d.entries).map fun entries => ⟨entries, path ++ [key]⟩
  | .pair path key value =>
    (changeAt false (fun _ entries => insertAt path key value entries) d.path .header d.entries).map
      fun entries => { d with entries }

def build : Draft → List Statement → Option Draft
  | d, [] => some d
  | d, statement :: rest => (d.add statement).bind fun d => build d rest

/-- A mark at the very beginning that says which way round the bytes are. -/
def dropMark : List Char → List Char
  | '\ufeff' :: rest => rest
  | cs => cs

/-- The entries of the root table, which stands for no moment. -/
def rootEntries? (entries : List (String × Toml)) : Option (List (String × Toml)) :=
  if entries.head?.any fun entry => entry.1 = momentKey then none else entriesWithMoments? entries

/-- Reads a whole text as the entries of its root table. -/
def ofText? (s : String) : Option (List (String × Toml)) := do
  let cs := dropMark s.toList
  let statements ← readStatements (cs.length + 1) cs
  let draft ← build {} statements
  rootEntries? (entriesToToml draft.entries)

end Sequencer.Toml
