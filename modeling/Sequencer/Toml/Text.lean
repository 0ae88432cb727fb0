import Sequencer.Text.Reading

/-!
# TOML strings

A string has four forms: basic with escapes or literal without, on one line or over several. Written is
the plainest form that can hold the text.
-/

namespace Sequencer.Toml

open Text (Reader)

/-- Control characters except the tab may not stand in a string as they are. -/
def isPlain (c : Char) : Bool := c = '\t' || (0x20 ≤ c.toNat && c.toNat ≠ 0x7f)

def isSpace (c : Char) : Bool := c = ' ' || c = '\t'

/-! ## Reading -/

def escaped? : Char → Option Char
  | 'b' => some '\x08'
  | 't' => some '\t'
  | 'n' => some '\n'
  | 'f' => some '\x0c'
  | 'r' => some '\r'
  | '"' => some '"'
  | '\\' => some '\\'
  | _ => none

/-- The character whose code point is written in hexadecimal digits. -/
def coded? (digits : List Char) : Option Char := (Text.hexadecimal? digits).bind Text.char?

/-- A character in front of what follows it. -/
def consRead (c : Char) : Option (List Char × List Char) → Option (List Char × List Char)
  | none => none
  | some (cs, rest) => some (c :: cs, rest)

/-- A basic string behind its opening quote. -/
def readBasic : Reader (List Char)
  | [] => none
  | '"' :: rest => some ([], rest)
  | '\\' :: 'u' :: a :: b :: c :: d :: rest =>
    match coded? [a, b, c, d] with
    | none => none
    | some char => consRead char (readBasic rest)
  | '\\' :: 'U' :: a :: b :: c :: d :: e :: f :: g :: h :: rest =>
    match coded? [a, b, c, d, e, f, g, h] with
    | none => none
    | some char => consRead char (readBasic rest)
  | '\\' :: e :: rest =>
    match escaped? e with
    | none => none
    | some char => consRead char (readBasic rest)
  | c :: rest => if isPlain c && c ≠ '\\' then consRead c (readBasic rest) else none

/-- A literal string behind its opening quote. -/
def readLiteral : Reader (List Char)
  | [] => none
  | '\'' :: rest => some ([], rest)
  | c :: rest => if isPlain c then consRead c (readLiteral rest) else none

/-- Only blanks are left on the line. -/
def restIsBlank (cs : List Char) : Bool :=
  match cs.dropWhile isSpace with
  | '\n' :: _ | '\r' :: '\n' :: _ => true
  | _ => false

/--
A basic string of several lines behind its opening quotes. A backslash at the end of a line skips to the
next character that is no blank and no line break.
-/
def readLongBasic (skipping : Bool) : Reader (List Char)
  | [] => none
  | '"' :: '"' :: '"' :: '"' :: '"' :: rest => some (['"', '"'], rest)
  | '"' :: '"' :: '"' :: '"' :: rest => some (['"'], rest)
  | '"' :: '"' :: '"' :: rest => some ([], rest)
  | '\\' :: 'u' :: a :: b :: c :: d :: rest =>
    match coded? [a, b, c, d] with
    | none => none
    | some char => consRead char (readLongBasic false rest)
  | '\\' :: 'U' :: a :: b :: c :: d :: e :: f :: g :: h :: rest =>
    match coded? [a, b, c, d, e, f, g, h] with
    | none => none
    | some char => consRead char (readLongBasic false rest)
  | '\\' :: e :: rest =>
    if restIsBlank (e :: rest) then readLongBasic true (e :: rest)
    else match escaped? e with
      | none => none
      | some char => consRead char (readLongBasic false rest)
  | '\r' :: '\n' :: rest =>
    if skipping then readLongBasic true rest else consRead '\n' (readLongBasic false rest)
  | c :: rest =>
    if skipping && (isSpace c || c = '\n') then readLongBasic true rest
    else if (isPlain c || c = '\n') && c ≠ '\\' then consRead c (readLongBasic false rest)
    else none

/-- A literal string of several lines behind its opening quotes. -/
def readLongLiteral : Reader (List Char)
  | [] => none
  | '\'' :: '\'' :: '\'' :: '\'' :: '\'' :: rest => some (['\'', '\''], rest)
  | '\'' :: '\'' :: '\'' :: '\'' :: rest => some (['\''], rest)
  | '\'' :: '\'' :: '\'' :: rest => some ([], rest)
  | '\r' :: '\n' :: rest => consRead '\n' (readLongLiteral rest)
  | c :: rest => if isPlain c || c = '\n' then consRead c (readLongLiteral rest) else none

/-- A line break directly behind the opening quotes does not count. -/
def dropFirstBreak : List Char → List Char
  | '\n' :: rest => rest
  | '\r' :: '\n' :: rest => rest
  | cs => cs

/-- A string of one line. -/
def readShort : Reader (List Char)
  | '"' :: rest => readBasic rest
  | '\'' :: rest => readLiteral rest
  | _ => none

/-- A string of any form. -/
def readText : Reader (List Char)
  | '"' :: '"' :: '"' :: rest => readLongBasic false (dropFirstBreak rest)
  | '\'' :: '\'' :: '\'' :: rest => readLongLiteral (dropFirstBreak rest)
  | cs => readShort cs

/-! ## Writing -/

inductive Form where
  | basic
  | literal
  | longBasic
  | longLiteral
deriving DecidableEq

/-- The length of the longest run of `c`, where the run so far has length `run`. -/
def longestRun (c : Char) (run : Nat) : List Char → Nat
  | [] => run
  | d :: rest => if d = c then longestRun c (run + 1) rest else max run (longestRun c 0 rest)

/-- The longest run of quotes that is counted before a text is written. -/
def maxRun : Nat := 255

/-- No run of quotes, of either kind, is too long to be counted. -/
def isCountable (cs : List Char) : Bool :=
  longestRun '"' 0 cs ≤ maxRun && longestRun '\'' 0 cs ≤ maxRun

/-- The first form that can hold the text as it is; else a basic one with escapes. -/
def formFor (cs : List Char) : Form :=
  let controls := cs.any fun c => !isPlain c && c ≠ '\n'
  let backslashes := cs.contains '\\'
  let lines := cs.contains '\n'
  let doubles := longestRun '"' 0 cs
  let singles := longestRun '\'' 0 cs
  if !controls && !backslashes && doubles = 0 && !lines then .basic
  else if !controls && singles = 0 && !lines then .literal
  else if !controls && !backslashes && doubles ≤ 2 then .longBasic
  else if !controls && singles ≤ 2 then .longLiteral
  else if lines then .longBasic
  else .basic

/-- Four hexadecimal digits, in capitals. -/
def fourDigits (n : Nat) : List Char :=
  [n / 4096 % 16, n / 256 % 16, n / 16 % 16, n % 16].map fun d => (Nat.digitChar d).toUpper

/-- A character other than a quote in a basic string. -/
def escapeChar (c : Char) : List Char :=
  match c with
  | '\x08' => ['\\', 'b']
  | '\t' => ['\\', 't']
  | '\x0c' => ['\\', 'f']
  | '\r' => ['\\', 'r']
  | '\n' => ['\\', 'n']
  | '\\' => ['\\', '\\']
  | c => if isPlain c then [c] else '\\' :: 'u' :: fourDigits c.toNat

def escapeBasic : List Char → List Char
  | [] => []
  | '"' :: rest => '\\' :: '"' :: escapeBasic rest
  | c :: rest => escapeChar c ++ escapeBasic rest

/-- Over several lines only every third quote of a run needs an escape; `run` quotes stand in front. -/
def escapeLong (run : Nat) : List Char → List Char
  | [] => []
  | '"' :: rest =>
    if run = 2 then '\\' :: '"' :: escapeLong 0 rest else '"' :: escapeLong (run + 1) rest
  | '\n' :: rest => '\n' :: escapeLong 0 rest
  | c :: rest => escapeChar c ++ escapeLong 0 rest

/-- Text with a line break begins on a line of its own. -/
def firstBreak (cs : List Char) : List Char := if cs.contains '\n' then ['\n'] else []

def writeForm (cs : List Char) : Form → List Char
  | .basic => '"' :: escapeBasic cs ++ ['"']
  | .literal => '\'' :: cs ++ ['\'']
  | .longBasic => '"' :: '"' :: '"' :: firstBreak cs ++ escapeLong 0 cs ++ ['"', '"', '"']
  | .longLiteral => '\'' :: '\'' :: '\'' :: firstBreak cs ++ cs ++ ['\'', '\'', '\'']

def writeText (cs : List Char) : List Char := writeForm cs (formFor cs)

end Sequencer.Toml
