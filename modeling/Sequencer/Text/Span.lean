/-!
# Spans of code points

The tables of this folder list code points as spans, first and last included, in ascending order.
-/

namespace Sequencer.Text

/-- The first and the last code point of a run. -/
abbrev Span := Nat × Nat

/-- Whether `c` lies in one of the spans. -/
def inSpans (spans : List Span) (c : Char) : Bool :=
  spans.any fun (first, last) => first ≤ c.toNat && c.toNat ≤ last

end Sequencer.Text
