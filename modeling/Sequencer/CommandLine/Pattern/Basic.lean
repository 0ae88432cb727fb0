/-!
# Patterns

Regular expressions, as they are written. Flags stand where they begin to count, and what a character or a
class means is left open, because it depends on them.
-/

namespace Sequencer

namespace Pattern

/-- A character that stands for itself. -/
structure Literal where
  char : Char
  /-- It is written in two hexadecimal digits. -/
  isByte : Bool := false
deriving DecidableEq

/-- What matches one character, or one place between characters. -/
inductive Atom where
  | literal (l : Literal)
  /-- Any character of a line. -/
  | dot
  /-- The beginning or the end of a line or of the text. -/
  | edge
  /-- A place where a word may begin or end, or where none does. -/
  | boundary
  /-- Digits, blanks or the characters of words, or all others. -/
  | shorthand (negated : Bool)
deriving DecidableEq

/-- A set of characters, as it is written between brackets. -/
inductive ClassSet where
  | empty
  | literal (l : Literal)
  | range (first last : Literal)
  /-- One of the classes of ASCII that have a name. -/
  | named (negated : Bool)
  | shorthand (negated : Bool)
  | bracketed (negated : Bool) (inner : ClassSet)
  | union (members : List ClassSet)
  /-- Two sets with an operator between them. -/
  | combined (left right : ClassSet)

/-- The letters of the flags that are set, and of those that are taken back. -/
structure Flags where
  on : List Char := []
  off : List Char := []
deriving DecidableEq

/-- What becomes of a flag, if it is among them. -/
def Flags.state? (f : Flags) (letter : Char) : Option Bool :=
  if f.on.contains letter then some true
  else if f.off.contains letter then some false
  else none

end Pattern

open Pattern in
/-- A regular expression. -/
inductive Pattern where
  | empty
  | atom (a : Atom)
  | bracketed (negated : Bool) (set : ClassSet)
  /-- Flags that count up to the end of the group around them. -/
  | flags (f : Flags)
  | repeated (inner : Pattern)
  | group (name : Option String) (f : Flags) (inner : Pattern)
  | sequence (items : List Pattern)
  | choice (branches : List Pattern)

namespace Pattern

/-! ## Several parts as one -/

/-- The members of a class as a set. -/
def ClassSet.ofMembers : List ClassSet → ClassSet
  | [] => .empty
  | [member] => member
  | members => .union members

/-- The items that follow each other as a pattern. -/
def ofItems : List Pattern → Pattern
  | [] => .empty
  | [item] => item
  | items => .sequence items

/-- The branches of a choice as a pattern. -/
def ofBranches : List Pattern → Pattern
  | [branch] => branch
  | branches => .choice branches

/-! ## Depth -/

mutual

/-- How deep the parts of a set lie in each other. -/
def ClassSet.depth : ClassSet → Nat
  | .empty | .literal _ | .range _ _ | .named _ | .shorthand _ => 0
  | .bracketed _ inner => inner.depth + 1
  | .union members => depthOfMembers members + 1
  | .combined left right => max left.depth right.depth + 1

def depthOfMembers : List ClassSet → Nat
  | [] => 0
  | member :: rest => max member.depth (depthOfMembers rest)

end

mutual

/-- How deep the parts of a pattern lie in each other. -/
def depth : Pattern → Nat
  | .empty | .atom _ | .flags _ => 0
  | .bracketed _ set => set.depth + 1
  | .repeated inner | .group _ _ inner => inner.depth + 1
  | .sequence items => depthOfItems items + 1
  | .choice branches => depthOfItems branches + 1

def depthOfItems : List Pattern → Nat
  | [] => 0
  | item :: rest => max item.depth (depthOfItems rest)

end

/-! ## Names -/

mutual

/-- The names of the groups, in the order in which the groups open. -/
def names : Pattern → List String
  | .empty | .atom _ | .bracketed _ _ | .flags _ => []
  | .repeated inner => inner.names
  | .group name _ inner => name.toList ++ inner.names
  | .sequence items => namesOfItems items
  | .choice branches => namesOfItems branches

def namesOfItems : List Pattern → List String
  | [] => []
  | item :: rest => item.names ++ namesOfItems rest

end

end Pattern

end Sequencer
