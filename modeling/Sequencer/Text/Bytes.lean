/-!
# Cutting text at bytes

Positions in a text may count its bytes in UTF-8. A cut then has to fall between two characters.
-/

namespace Sequencer.Text

/-- The characters with the number of bytes in front of each, where `position` bytes precede them all. -/
def placed (position : Nat) : List Char → List (Nat × Char)
  | [] => []
  | c :: rest => (position, c) :: placed (position + c.utf8Size) rest

/-- The front of a text and its rest, cut behind `count` bytes; a text that has fewer is all front. -/
def cutAt? : (count : Nat) → List Char → Option (List Char × List Char)
  | 0, cs => some ([], cs)
  | _ + 1, [] => some ([], [])
  | count + 1, c :: rest =>
    if c.utf8Size ≤ count + 1 then do
      let (front, rest) ← cutAt? (count + 1 - c.utf8Size) rest
      some (c :: front, rest)
    else none

/-- The text from one position to another. -/
def between? (first last : Nat) (cs : List Char) : Option (List Char) := do
  let (_, rest) ← cutAt? first cs
  let (middle, _) ← cutAt? (last - first) rest
  some middle

/-- The text from a position to the end. -/
def from? (first : Nat) (cs : List Char) : Option (List Char) := (cutAt? first cs).map Prod.snd

end Sequencer.Text
