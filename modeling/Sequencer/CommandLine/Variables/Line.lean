import Sequencer.Text.Blank
import Sequencer.Text.Lines

/-!
# Lines of a variable file

A line goes on behind its break while quotes are open, and ends early at a comment, which stands behind a
blank that follows no blank.
-/

namespace Sequencer.Variables

/-- What the next character of a line is read as. -/
inductive Mark where
  | plain
  | blank
  | escaped
  | double
  | doubleEscaped
  | single
  | singleEscaped
deriving DecidableEq

/-- What a character outside quotes opens. -/
def Mark.opened (c : Char) (otherwise : Mark) : Mark :=
  match c with
  | '\\' => .escaped
  | '"' => .double
  | '\'' => .single
  | _ => otherwise

def Mark.next (mark : Mark) (c : Char) : Mark :=
  match mark with
  | .plain => .opened c (if Text.isBlank c && c ≠ '\n' && c ≠ '\r' then .blank else .plain)
  | .blank => .opened c .plain
  | .escaped => .plain
  | .double => if c = '\\' then .doubleEscaped else if c = '"' then .plain else .double
  | .doubleEscaped => .double
  | .single => if c = '\\' then .singleEscaped else if c = '\'' then .plain else .single
  | .singleEscaped => .single

/-- How a line of text ends. -/
inductive Ending where
  | reached (mark : Mark)
  /-- A comment begins behind that much of the line. -/
  | comment (front : List Char)

/-- Reads a line of text to its end or to a comment. -/
def Mark.run (mark : Mark) : List Char → Ending
  | [] => .reached mark
  | c :: rest =>
    if mark = .blank ∧ c = '#' then .comment []
    else
      match (mark.next c).run rest with
      | .comment front => .comment (c :: front)
      | .reached mark => .reached mark

/-- A line that is complete, or the reason why there are no more. -/
inductive Piece where
  | line (cs : List Char)
  /-- The file ends within quotes, or behind a backslash or a blank. -/
  | unfinished

/-- Nothing but blanks is in front of a comment. -/
def isComment (cs : List Char) : Bool := (cs.dropWhile Text.isBlank).head? = some '#'

/-- The pieces of a file, where `held` is the beginning of a line that is not complete. -/
def pieces (held : List Char) (mark : Mark) : List (List Char) → List Piece
  | [] => if mark = .plain then [] else [.unfinished]
  | line :: rest =>
    let text := held ++ line
    if isComment text then .line [] :: pieces [] .plain rest
    else
      match mark.run line with
      | .comment front => .line (held ++ front) :: pieces [] .plain rest
      | .reached .plain => .line (Text.dropBreak text) :: pieces [] .plain rest
      | .reached mark => pieces text mark rest

/-- A mark at the beginning of the file that says how it is encoded does not count. -/
def dropByteOrderMark : List Char → List Char
  | '\ufeff' :: rest => rest
  | cs => cs

def piecesOf (s : String) : List Piece := pieces [] .plain (Text.brokenLines (dropByteOrderMark s.toList))

end Sequencer.Variables
