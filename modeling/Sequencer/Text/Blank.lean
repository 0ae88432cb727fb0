import Sequencer.Text.Span

/-!
# Blank text

White space as Unicode defines it, and text that holds nothing else.
-/

namespace Sequencer.Text

/-- Property White_Space. -/
def blankSpans : List Span :=
  [(0x9, 0xD), (0x20, 0x20), (0x85, 0x85), (0xA0, 0xA0), (0x1680, 0x1680), (0x2000, 0x200A),
   (0x2028, 0x2029), (0x202F, 0x202F), (0x205F, 0x205F), (0x3000, 0x3000)]

def isBlank (c : Char) : Bool := inSpans blankSpans c

/-- Without the blanks at the end. -/
def trimEnd (cs : List Char) : List Char := (cs.reverse.dropWhile isBlank).reverse

/-- Without the blanks at both ends. -/
def trim (cs : List Char) : List Char := trimEnd (cs.dropWhile isBlank)

/-- Nothing is left of the text once its blanks are trimmed. -/
def allBlank (s : String) : Bool := s.toList.all isBlank

end Sequencer.Text
