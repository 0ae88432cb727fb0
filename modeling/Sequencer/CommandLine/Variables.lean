import Sequencer.CommandLine.Variables.Line
import Sequencer.CommandLine.Variables.Value
import Sequencer.Config.Load

/-!
# Variables from a file

Lines of the form `KEY=VALUE`, where a value may be quoted and a comment may follow. Variables that are
set already keep their values.
-/

namespace Sequencer.Variables

/-! ## Lines -/

def isKeyStart (c : Char) : Bool := c.isAlpha || c = '_'

def isKeyChar (c : Char) : Bool := c.isAlphanum || c = '_' || c = '.'

def readKey : Text.Reader String
  | c :: rest =>
    if isKeyStart c then some (String.ofList (c :: rest.takeWhile isKeyChar), rest.dropWhile isKeyChar)
    else none
  | [] => none

/-- The key of a line, which the word for exporting may precede, up to the equals sign. -/
def readName (cs : List Char) : Option (String × List Char) := do
  let (key, rest) ← readKey cs
  match rest.dropWhile Text.isBlank with
  | '=' :: rest => some (key, rest)
  | rest =>
    if key = "export" then
      let (key, rest) ← readKey rest
      some (key, ← Text.expect? ['='] (rest.dropWhile Text.isBlank))
    else none

/-- A line is nothing, a variable, or an error. -/
inductive Line where
  | nothing
  | variable (name value : String)
  | error

def Line.ofChars (valueOf : String → String) (cs : List Char) : Line :=
  match Text.trim cs with
  | [] | '#' :: _ => .nothing
  | cs =>
    match readName cs with
    | none => .error
    | some (name, rest) =>
      match rest.dropWhile Text.isBlank with
      | [] | '#' :: _ => .variable name ""
      | value =>
        match readValue valueOf .bare value with
        | none => .error
        | some value => .variable name (String.ofList value)

/-- The variables of an environment block: each `NAME=VALUE`, with a null character behind it. -/
def ofBlock (s : String) : Texts :=
  (s.splitOn "\x00").filterMap fun item =>
    let cs := item.toList
    match cs.dropWhile (· ≠ '=') with
    | [] => none
    | _ :: value => some (String.ofList (cs.takeWhile (· ≠ '=')), String.ofList value)

/-! ## Files -/

/-- What a variable of the environment holds; one that is not there holds nothing. -/
def valueIn (env : Texts) (name : String) : String := (env.get? name).getD ""

/--
Adds the variables that are not there yet, up to the first line that is wrong. There is no environment if a
value has a null character in it.
-/
def addPieces? (env : Texts) : List Piece → Option Texts
  | [] | .unfinished :: _ => some env
  | .line cs :: rest =>
    match Line.ofChars (valueIn env) cs with
    | .nothing => addPieces? env rest
    | .error => some env
    | .variable name value =>
      if (env.get? name).isSome then addPieces? env rest
      else if value.contains '\x00' then none
      else addPieces? (env ++ [(name, value)]) rest

/-- The environment with the variables of a file. -/
def withFile? (env : Texts) (file : Option String) : Option Texts :=
  match file with
  | none => some env
  | some text => addPieces? env (piecesOf text)

end Sequencer.Variables
