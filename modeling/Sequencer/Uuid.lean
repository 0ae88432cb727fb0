import Sequencer.Text.Reading

/-!
# Unique identifiers

128-bit identifiers and their text: 32 hexadecimal digits, in groups of 8, 4, 4, 4 and 12.
-/

namespace Sequencer

structure Uuid where
  bits : BitVec 128
deriving DecidableEq, Inhabited

namespace Uuid

def hyphen : Char := '-'

/-- A random identifier says so: it has version 4 and the usual variant. -/
def ofRandom (bits : BitVec 128) : Uuid :=
  let version := (bits &&& ~~~(0xF#128 <<< 76)) ||| (0x4#128 <<< 76)
  ⟨(version &&& ~~~(0x3#128 <<< 62)) ||| (0x2#128 <<< 62)⟩

/-! ## Writing -/

def digitChar (n : Nat) : Char := Nat.digitChar n

/-- All 32 digits, the highest first. -/
def digits (u : Uuid) : List Nat :=
  (List.range 32).map fun i => u.bits.toNat / Nat.pow 16 (31 - i) % 16

/-- The digits of a text in the five groups. -/
def grouped (cs : List Char) : List Char :=
  cs.take 8 ++ hyphen :: (cs.drop 8).take 4 ++ hyphen :: (cs.drop 12).take 4 ++
    hyphen :: (cs.drop 16).take 4 ++ hyphen :: cs.drop 20

def toText (u : Uuid) : String := String.ofList (grouped (u.digits.map digitChar))

/-! ## Reading -/

/-- Exactly 32 digits. -/
def ofDigits? (cs : List Char) : Option Uuid :=
  if cs.length = 32 then (Text.hexadecimal? cs).map fun n => ⟨BitVec.ofNat 128 n⟩ else none

/-- The digits of a text in five groups, with the hyphens in their places. -/
def ungrouped? (cs : List Char) : Option (List Char) :=
  let digits := cs.filter (· ≠ hyphen)
  if digits.length = 32 ∧ grouped digits = cs then some digits else none

def ofGrouped? (cs : List Char) : Option Uuid := (ungrouped? cs).bind ofDigits?

/-- What stands between a pair of braces. -/
def inBraces? : List Char → Option (List Char)
  | '\x7b' :: rest => if rest.getLast? = some '\x7d' then some rest.dropLast else none
  | _ => none

/-- What stands behind the name space of identifiers, in letters of any case. -/
def inNameSpace? (cs : List Char) : Option (List Char) :=
  if (cs.take 9).map Char.toLower = "urn:uuid:".toList then some (cs.drop 9) else none

/-- Four spellings: the digits alone, in groups, in groups between braces or behind the name space. -/
def ofText? (s : String) : Option Uuid :=
  let cs := s.toList
  ofDigits? cs <|> ofGrouped? cs <|> (inBraces? cs).bind ofGrouped? <|> (inNameSpace? cs).bind ofGrouped?

end Uuid

end Sequencer
