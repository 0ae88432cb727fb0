import Sequencer.CommandLine.Pattern.Basic
import Sequencer.Text.Alphanumeric
import Sequencer.Text.Blank
import Sequencer.Text.Reading

/-!
# Reading patterns

While the flag `x` is set, blanks and comments do not count; `spaced` says so.
-/

namespace Sequencer.Pattern

open Text (Reader)

/-! ## Space -/

/-- Drops blanks, and comments up to the end of their line. -/
def dropSpace (inComment : Bool) : List Char → List Char
  | [] => []
  | c :: rest =>
    if inComment then dropSpace (c ≠ '\n') rest
    else if c = '#' then dropSpace true rest
    else if Text.isBlank c then dropSpace false rest
    else c :: rest

def skipSpace (spaced : Bool) (cs : List Char) : List Char := if spaced then dropSpace false cs else cs

theorem length_dropSpace_le (inComment : Bool) (cs : List Char) :
    (dropSpace inComment cs).length ≤ cs.length := by
  induction cs generalizing inComment with
  | nil => simp [dropSpace]
  | cons c rest ih =>
    simp only [dropSpace]
    split
    · exact Nat.le_succ_of_le (ih _)
    · split
      · exact Nat.le_succ_of_le (ih _)
      · split
        · exact Nat.le_succ_of_le (ih _)
        · exact Nat.le_refl _

theorem length_skipSpace_le (spaced : Bool) (cs : List Char) : (skipSpace spaced cs).length ≤ cs.length := by
  unfold skipSpace
  split
  · exact length_dropSpace_le false cs
  · exact Nat.le_refl _

/-! ## Escapes -/

def control? : Char → Option Char
  | 'a' => some '\x07'
  | 'f' => some '\x0c'
  | 't' => some '\t'
  | 'n' => some '\n'
  | 'r' => some '\r'
  | 'v' => some '\x0b'
  | _ => none

/-- How many digits a code point has behind the letter. -/
def codeLength? : Char → Option Nat
  | 'x' => some 2
  | 'u' => some 4
  | 'U' => some 8
  | _ => none

/-- What ASCII has besides letters and digits stands for itself, but for the signs of a word's edges. -/
def isSign (c : Char) : Bool := c.toNat < 0x80 && !c.isAlphanum && c ≠ '<' && c ≠ '>'

/-- What a backslash makes of one character. -/
def escape? (c : Char) : Option Atom :=
  match control? c with
  | some control => some (.literal ⟨control, false⟩)
  | none =>
    if ['A', 'z'].contains c then some .edge
    else if ['b', 'B', '<', '>'].contains c then some .boundary
    else if ['d', 's', 'w'].contains c then some (.shorthand false)
    else if ['D', 'S', 'W'].contains c then some (.shorthand true)
    else if isSign c then some (.literal ⟨c, false⟩)
    else none

/-- As many characters as are asked for. -/
def readDigits (spaced : Bool) : (count : Nat) → Reader (List Char)
  | 0, cs => some ([], cs)
  | count + 1, cs =>
    match skipSpace spaced cs with
    | [] => none
    | digit :: rest => (readDigits spaced count rest).map fun (digits, rest) => (digit :: digits, rest)

/-- An escape behind its backslash. -/
def readEscape (spaced : Bool) : Reader Atom
  | [] => none
  | c :: rest =>
    match codeLength? c with
    | none => (escape? c).map fun a => (a, rest)
    | some count => do
      let (digits, rest) ← readDigits spaced count rest
      let code ← Text.hexadecimal? digits
      some (.literal ⟨← Text.char? code, c = 'x'⟩, rest)

/-! ## Classes -/

def classNames : List String :=
  ["alnum", "alpha", "ascii", "blank", "cntrl", "digit", "graph", "lower", "print", "punct", "space", "upper",
    "word", "xdigit"]

/-- A class by its name between colons, behind the opening bracket; a circumflex turns it round. -/
def readNamed : Reader ClassSet
  | ':' :: rest => do
    let (negated, rest) := match rest with
      | '^' :: rest => (true, rest)
      | rest => (false, rest)
    let (name, rest) := Text.readWhile (· ≠ ':') rest
    let rest ← Text.expect? [':', ']'] rest
    if classNames.contains (String.ofList name) then some (.named negated, rest) else none
  | _ => none

/-- Hyphens that stand first in a class. -/
def readHyphens (spaced : Bool) : List Char → List ClassSet × List Char
  | '-' :: rest =>
    let (hyphens, rest) := readHyphens spaced (skipSpace spaced rest)
    (.literal ⟨'-', false⟩ :: hyphens, rest)
  | cs => ([], cs)
termination_by cs => cs.length
decreasing_by exact Nat.lt_succ_of_le (length_skipSpace_le spaced rest)

/-- What stands first in a class: a sign that turns it round, then hyphens or one closing bracket. -/
def readStart (spaced : Bool) (cs : List Char) : (Bool × List ClassSet) × List Char :=
  let (negated, cs) := match skipSpace spaced cs with
    | '^' :: rest => (true, skipSpace spaced rest)
    | cs => (false, cs)
  match cs with
  | ']' :: rest => ((negated, [.literal ⟨']', false⟩]), rest)
  | cs =>
    let (hyphens, rest) := readHyphens spaced cs
    ((negated, hyphens), rest)

/-- A member of a class, or an end of a range. -/
def readMember (spaced : Bool) : Reader Atom
  | [] => none
  | '\\' :: rest => readEscape spaced rest
  | c :: rest => some (.literal ⟨c, false⟩, rest)

def Atom.literal? : Atom → Option Literal
  | .literal l => some l
  | _ => none

/-- Places are no members of a class. -/
def Atom.member? : Atom → Option ClassSet
  | .literal l => some (.literal l)
  | .shorthand negated => some (.shorthand negated)
  | _ => none

/-- The character behind a hyphen, behind blanks and one sign of a comment if anything is there. -/
def lookAhead? (spaced : Bool) (cs : List Char) : Option Char :=
  if spaced then
    let ahead := match cs.dropWhile Text.isBlank with
      | '#' :: rest => rest.dropWhile Text.isBlank
      | rest => rest
    ahead.head?.or cs.head?
  else cs.head?

/-- A hyphen makes no range in front of a closing bracket or of another hyphen. -/
def isRangeEnd : Option Char → Bool
  | some ']' | some '-' => false
  | _ => true

/-- A member of a class, or a range of members that does not go backwards. -/
def readRange (spaced : Bool) (cs : List Char) : Option (ClassSet × List Char) := do
  let (first, rest) ← readMember spaced cs
  match skipSpace spaced rest with
  | '-' :: behind =>
    if isRangeEnd (lookAhead? spaced behind) then
      let (last, rest) ← readMember spaced (skipSpace spaced behind)
      let first ← first.literal?
      let last ← last.literal?
      if first.char ≤ last.char then some (.range first last, rest) else none
    else some (← first.member?, '-' :: behind)
  | rest => some (← first.member?, rest)

/-- The members of a class together with what is in front of their operator; the last member comes first. -/
def ClassSet.close (left : Option ClassSet) (members : List ClassSet) : ClassSet :=
  match left with
  | none => ofMembers members.reverse
  | some left => .combined left (ofMembers members.reverse)

/-- The rest of a class up to its bracket. Every recursive call comes behind at least one character. -/
def readSet (spaced : Bool) :
    (fuel : Nat) → (left : Option ClassSet) → (members : List ClassSet) → Reader ClassSet
  | 0, _, _, _ => none
  | fuel + 1, left, members, cs =>
    match skipSpace spaced cs with
    | [] => none
    | ']' :: rest => some (.close left members, rest)
    | '[' :: rest =>
      match readNamed rest with
      | some (member, rest) => readSet spaced fuel left (member :: members) rest
      | none => do
        let ((negated, first), rest) := readStart spaced rest
        let (inner, rest) ← readSet spaced fuel none first.reverse rest
        readSet spaced fuel left (.bracketed negated inner :: members) rest
    | '&' :: '&' :: rest | '-' :: '-' :: rest | '~' :: '~' :: rest =>
      readSet spaced fuel (some (.close left members)) [] rest
    | cs => do
      let (member, rest) ← readRange spaced cs
      readSet spaced fuel left (member :: members) rest

/-- A class behind its opening bracket. -/
def readClass (spaced : Bool) (cs : List Char) : Option (Pattern × List Char) := do
  let ((negated, first), rest) := readStart spaced cs
  let (set, rest) ← readSet spaced (rest.length + 1) none first.reverse rest
  some (.bracketed negated set, rest)

/-! ## Groups -/

def isNameStart (c : Char) : Bool := c = '_' || Text.isAlphabetic c

def isNameChar (c : Char) : Bool := Text.isAlphanumeric c || ['_', '.', '[', ']'].contains c

/-- The name of a group, up to the bracket behind it. -/
def readName (cs : List Char) : Option (String × List Char) := do
  let (name, rest) := Text.readWhile (· ≠ '>') cs
  let first ← name.head?
  if isNameStart first && name.all isNameChar then
    some (String.ofList name, ← Text.expect? ['>'] rest)
  else none

def flagLetters : List Char := ['i', 'm', 's', 'U', 'u', 'R', 'x']

/-- No letter stands twice; behind a hyphen, of which there is at most one, flags are taken back. -/
def flagsOf? (letters : List Char) : Option Flags :=
  if letters.all ('-' :: flagLetters).contains && decide letters.Nodup && letters.getLast? ≠ some '-' then
    some ⟨letters.takeWhile (· ≠ '-'), (letters.dropWhile (· ≠ '-')).drop 1⟩
  else none

/-- What an opening bracket begins. -/
inductive Opening where
  /-- Flags alone, with the closing bracket. -/
  | flags (f : Flags)
  | group (name : Option String) (f : Flags)

/-- What stands behind an opening bracket; nothing looks around. -/
def readOpening : Reader Opening
  | '?' :: 'P' :: '<' :: rest | '?' :: '<' :: rest =>
    (readName rest).map fun (name, rest) => (.group name {}, rest)
  | '?' :: rest => do
    let (letters, rest) := Text.readWhile (fun c => c ≠ ':' && c ≠ ')') rest
    let f ← flagsOf? letters
    match rest with
    | ':' :: rest => some (.group none f, rest)
    | ')' :: rest => if letters.isEmpty then none else some (.flags f, rest)
    | _ => none
  | rest => some (.group none {}, rest)

/-! ## Patterns -/

/-- Whether blanks do not count behind flags. -/
def Flags.spaced (f : Flags) (spaced : Bool) : Bool := (f.state? 'x').getD spaced

/-- One character, with what its backslash or bracket takes with it. -/
def readItem (spaced : Bool) : Reader Pattern
  | [] => none
  | '[' :: rest => readClass spaced rest
  | '\\' :: rest => (readEscape spaced rest).map fun (a, rest) => (.atom a, rest)
  | '.' :: rest => some (.atom .dot, rest)
  | '^' :: rest | '$' :: rest => some (.atom .edge, rest)
  | '\x7b' :: _ => none
  | c :: rest => some (.atom (.literal ⟨c, false⟩), rest)

/-- A sign of repetition may be followed by one that makes it modest. -/
def dropModest : List Char → List Char
  | '?' :: rest => rest
  | cs => cs

/-- The last item, repeated; there has to be one, and flags are none. -/
def repeatLast? : List Pattern → Option (List Pattern)
  | [] | .flags _ :: _ => none
  | last :: items => some (.repeated last :: items)

/--
A pattern up to a closing bracket or to the end. The last of `items` comes first, and so does the last of
the `branches` in front of them. Every recursive call comes behind at least one character.
-/
def readBranches : (fuel : Nat) → (spaced : Bool) → (branches items : List Pattern) → Reader Pattern
  | 0, _, _, _, _ => none
  | fuel + 1, spaced, branches, items, cs =>
    match skipSpace spaced cs with
    | [] => some (ofBranches (ofItems items.reverse :: branches).reverse, [])
    | c :: rest =>
      match c with
      | ')' => some (ofBranches (ofItems items.reverse :: branches).reverse, c :: rest)
      | '|' => readBranches fuel spaced (ofItems items.reverse :: branches) [] rest
      | '?' | '*' | '+' => do readBranches fuel spaced branches (← repeatLast? items) (dropModest rest)
      | '(' => do
        match ← readOpening (skipSpace spaced rest) with
        | (.flags f, rest) => readBranches fuel (f.spaced spaced) branches (.flags f :: items) rest
        | (.group name f, rest) =>
          let (inner, rest) ← readBranches fuel (f.spaced spaced) [] [] rest
          readBranches fuel spaced branches (.group name f inner :: items) (← Text.expect? [')'] rest)
      | _ => do
        let (item, rest) ← readItem spaced (c :: rest)
        readBranches fuel spaced branches (item :: items) rest

/-- The parts of a pattern lie at most that deep in each other. -/
def maxDepth : Nat := 250

/-- Reads a whole text; no two groups have one name. -/
def ofString? (s : String) : Option Pattern := do
  let (p, rest) ← readBranches (s.length + 1) false [] [] s.toList
  if rest.isEmpty && p.depth ≤ maxDepth && decide p.names.Nodup then some p else none

end Sequencer.Pattern
