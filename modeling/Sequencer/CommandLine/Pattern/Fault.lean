import Sequencer.CommandLine.Pattern.Reader

/-!
# Faults of patterns

Not every pattern can be used. Patterns know no tables of Unicode: where Unicode counts, letters are read with
their case and classes are spelled out. Where it does not count, nothing may match a part of a character.
-/

namespace Sequencer

/-- What keeps a text from being used as a pattern. -/
inductive PatternFault where
  | form
  /-- A boundary of words where Unicode counts. -/
  | boundary
deriving DecidableEq

def PatternFault.message : PatternFault → String
  | .form => "error building NFA"
  | .boundary =>
    "unsupported regex feature for DFAs: cannot build DFAs for regexes with Unicode word boundaries; switch " ++
      "to ASCII word boundaries, or heuristically enable Unicode word boundaries or use a different regex " ++
      "engine"

namespace Pattern

/-! ## Modes -/

/-- How characters are read. -/
structure Mode where
  unicode : Bool := true
  caseless : Bool := false
deriving DecidableEq

def Mode.change (m : Mode) (f : Flags) : Mode :=
  ⟨(f.state? 'u').getD m.unicode, (f.state? 'i').getD m.caseless⟩

/-- What has no patterns in it. -/
inductive Leaf where
  | atom (a : Atom)
  | bracketed (negated : Bool) (set : ClassSet)

mutual

/-- The leaves of a pattern, each with its mode, and the mode behind them; a group leaves it as it was. -/
def leaves (m : Mode) : Pattern → List (Mode × Leaf) × Mode
  | .empty => ([], m)
  | .atom a => ([(m, .atom a)], m)
  | .bracketed negated set => ([(m, .bracketed negated set)], m)
  | .flags f => ([], m.change f)
  | .repeated inner => leaves m inner
  | .group _ f inner => ((leaves (m.change f) inner).1, m)
  | .sequence items => leavesOfItems m items
  | .choice branches => leavesOfItems m branches

def leavesOfItems (m : Mode) : List Pattern → List (Mode × Leaf) × Mode
  | [] => ([], m)
  | item :: rest =>
    let (first, m) := leaves m item
    let (others, m) := leavesOfItems m rest
    (first ++ others, m)

end

/-! ## What can be used -/

def isASCII (l : Literal) : Bool := l.char.toNat < 0x80

/-- A character may be in a class if its case counts, or without Unicode if it is ASCII. -/
def Mode.allowsMember (m : Mode) (l : Literal) : Bool := if m.unicode then !m.caseless else isASCII l

mutual

def Mode.allowsSet (m : Mode) : ClassSet → Bool
  | .empty => true
  | .literal l => m.allowsMember l
  | .range first last => m.allowsMember first && m.allowsMember last
  | .named negated => if m.unicode then !m.caseless else !negated
  | .shorthand negated => !m.unicode && !negated
  | .bracketed negated inner => (m.unicode || !negated) && m.allowsSet inner
  | .union members => m.allowsMembers members
  | .combined left right => m.allowsSet left && m.allowsSet right

def Mode.allowsMembers (m : Mode) : List ClassSet → Bool
  | [] => true
  | member :: rest => m.allowsSet member && m.allowsMembers rest

end

def Mode.allowsAtom (m : Mode) : Atom → Bool
  | .literal l => if m.unicode then !m.caseless else !l.isByte || isASCII l
  | .dot => m.unicode
  | .edge | .boundary => true
  | .shorthand negated => !m.unicode && !negated

def Mode.allows (m : Mode) : Leaf → Bool
  | .atom a => m.allowsAtom a
  | .bracketed negated set => m.allowsSet (.bracketed negated set)

def Leaf.isBoundary : Leaf → Bool
  | .atom .boundary => true
  | _ => false

/-- What is wrong with a text as a pattern; of two faults the boundary comes second. -/
def fault? (s : String) : Option PatternFault :=
  match ofString? s with
  | none => some .form
  | some p =>
    let (leaves, _) := p.leaves {}
    if !leaves.all fun (m, leaf) => m.allows leaf then some .form
    else if leaves.any fun (m, leaf) => m.unicode && leaf.isBoundary then some .boundary
    else none

end Pattern

end Sequencer
