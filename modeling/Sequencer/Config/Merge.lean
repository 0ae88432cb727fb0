import Sequencer.Config.Setting
import Sequencer.Toml.Basic

/-!
# Merging settings

Settings are put at paths into one tree. Keys count in lowercase, tables are merged key by key, and
anything else replaces what was there.
-/

namespace Sequencer

namespace Setting

/-! ## Merging -/

mutual

/-- Puts a value under a key. A table goes into the table that is there, key by key. -/
def mergeKey (key : String) (value : Setting) (into : List (String × Setting)) :
    List (String × Setting) :=
  let key := Text.lowercase key
  match value with
  | .table incoming =>
    let target := (Table.find? key into).getD (.table [])
    Table.upsert key (if incoming.isEmpty then target else .table (mergeEntries incoming target.entries)) into
  | value => Table.upsert key value into

def mergeEntries : (incoming into : List (String × Setting)) → List (String × Setting)
  | [], into => into
  | (key, value) :: rest, into => mergeEntries rest (mergeKey key value into)

end

/-! ## Paths -/

inductive Step where
  | key (name : String)
  /-- A place in a list; a negative subscript counts from the end. -/
  | index (subscript : Int)
deriving DecidableEq

/-- More items than a list can have. -/
def itemLimit : Nat := Nat.pow 2 32

/-- The position that a subscript means in a list of the given length, or behind its end. -/
def position? (length : Nat) (subscript : Int) : Option Nat :=
  let position := if subscript < 0 then length + subscript else subscript
  if 0 ≤ position ∧ position < itemLimit then some position.toNat else none

/-- Changes the item that a subscript means; the list grows as far as that. -/
def changeItem? (subscript : Int) (change : Setting → Option Setting) (items : List Setting) :
    Option (List Setting) := do
  let position ← position? items.length subscript
  let items := items ++ List.replicate (position + 1 - items.length) .empty
  let item ← change (items[position]?.getD .empty)
  some (items.set position item)

/--
Puts a value at the end of a path. What is in the way gives way to a table or a list; there is no result
only if a subscript means no position.
-/
def assign? (value : Setting) : List Step → Setting → Option Setting
  | [], _ => some value
  | [.key name], old => some (.table (mergeKey name value old.entries))
  | .key name :: path, old => do
    let key := Text.lowercase name
    let inner ← assign? value path ((Table.find? key old.entries).getD .empty)
    some (.table (Table.upsert key inner old.entries))
  | .index subscript :: path, old => do
    some (.list (← changeItem? subscript (assign? value path) old.items))

/-- The characters of a step. -/
def isStepChar (c : Char) : Bool := c.isAlphanum || c = '_' || c = '-' || c = ' '

def readName (cs : List Char) : Option (String × List Char) :=
  match cs.takeWhile isStepChar with
  | [] => none
  | name => some (String.ofList name, cs.dropWhile isStepChar)

def isGap (c : Char) : Bool := c = ' ' || c = '\t'

/-- A number of 64 bits with its sign, and blanks around it. -/
def readSubscript (cs : List Char) : Option (Int × List Char) := do
  let (negative, cs) := match cs.dropWhile isGap with
    | '-' :: rest => (true, rest)
    | rest => (false, rest)
  let (digits, rest) := Text.readWhile Text.isDigit cs
  if digits.isEmpty then none
  some (← Word.signed? negative (Text.decimal digits), rest.dropWhile isGap)

/-- The steps behind the first: names behind points, and subscripts between brackets. -/
def readSteps : (fuel : Nat) → List Char → Option (List Step)
  | 0, _ => none
  | _ + 1, [] => some []
  | fuel + 1, '.' :: rest => do
    let (name, rest) ← readName rest
    some (.key name :: (← readSteps fuel rest))
  | fuel + 1, '[' :: rest => do
    let (subscript, rest) ← readSubscript rest
    let rest ← Text.expect? [']'] rest
    some (.index subscript :: (← readSteps fuel rest))
  | _ + 1, _ => none

/-- The path that a name spells; a name that spells none is one step. -/
def pathOf (name : String) : List Step :=
  let steps? : Option (List Step) := do
    let (first, rest) ← readName name.toList
    some (.key first :: (← readSteps (rest.length + 1) rest))
  steps?.getD [.key name]

/-! ## From files -/

mutual

def ofToml : Toml → Setting
  | .text value => .text value
  | .integer value => .integer value
  | .float value => .float value
  | .bool value => .bool value
  | .moment literal => .text literal
  | .list items => .list (ofItems items)
  | .table entries => .table (ofEntries entries)

def ofItems : List Toml → List Setting
  | [] => []
  | item :: rest => ofToml item :: ofItems rest

def ofEntries : List (String × Toml) → List (String × Setting)
  | [] => []
  | (key, value) :: rest => (key, ofToml value) :: ofEntries rest

end

/-! ## From variables -/

/-- The text of a variable is a boolean in any case, else a whole number, else a number, else a text. -/
def ofVariable (s : String) : Setting :=
  match Text.lowercase s with
  | "true" => .bool true
  | "false" => .bool false
  | _ =>
    match Decimal.signed64? s with
    | some value => .integer value
    | none =>
      match Binary.ofText? s with
      | some value => .float value
      | none => .text s

end Setting

end Sequencer
