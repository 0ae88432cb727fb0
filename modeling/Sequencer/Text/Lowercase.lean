import Sequencer.Text.CaseMap

/-!
# Lowercase text

The full lowercase mapping of Unicode, without the rules of a particular language.
-/

namespace Sequencer.Text

def isCased (c : Char) : Bool := inSpans casedSpans c

def isCaseIgnorable (c : Char) : Bool := inSpans caseIgnorableSpans c

/-- The first character that is not case-ignorable is cased. -/
def startsCased (cs : List Char) : Bool :=
  match cs.dropWhile isCaseIgnorable with
  | [] => false
  | c :: _ => isCased c

/-- The lowercase form of one character outside any context. A capital I with a dot keeps the dot. -/
def lowerChar (c : Char) : List Char :=
  if c.toNat < 0x80 then [c.toLower]
  else if c = '\u0130' then ['i', '\u0307']
  else [((lowercaseRuns.findSome? (caseRunImage c.toNat)).map Char.ofNat).getD c]

/--
Lowercases `rest`, where `before` holds the characters in front of it, the nearest first. A capital sigma
becomes the final form at the end of a word: behind a cased character and not in front of one.
-/
def lowerFrom (before : List Char) : List Char → List Char
  | [] => []
  | c :: rest =>
    (if c = 'Σ' then if startsCased before && !startsCased rest then ['ς'] else ['σ'] else lowerChar c)
      ++ lowerFrom (c :: before) rest

def lowercase (s : String) : String := String.ofList (lowerFrom [] s.toList)

end Sequencer.Text
