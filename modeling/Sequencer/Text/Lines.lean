/-!
# Lines of text

A line ends with a line feed, which a carriage return may precede; the last one may end without.
-/

namespace Sequencer.Text

/-- The lines with the breaks that end them. -/
def brokenLines : List Char → List (List Char)
  | [] => []
  | c :: rest =>
    if c = '\n' then [c] :: brokenLines rest
    else
      match brokenLines rest with
      | [] => [[c]]
      | line :: lines => (c :: line) :: lines

/-- A line without its break. -/
def dropBreak (line : List Char) : List Char :=
  match line.reverse with
  | '\n' :: '\r' :: rest => rest.reverse
  | '\n' :: rest => rest.reverse
  | _ => line

def lines (s : String) : List String := (brokenLines s.toList).map fun line => String.ofList (dropBreak line)

end Sequencer.Text
