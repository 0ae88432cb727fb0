import Sequencer.Json.Basic

/-!
# Writing JSON

On one line, or with one item or member a line.
-/

namespace Sequencer.Json

/-! ## Strings -/

def hexDigit (n : Nat) : Char := Nat.digitChar n

def escapeChar (c : Char) : String :=
  match c with
  | '"' => "\\\""
  | '\\' => "\\\\"
  | '\n' => "\\n"
  | '\r' => "\\r"
  | '\t' => "\\t"
  | '\x08' => "\\b"
  | '\x0c' => "\\f"
  | c =>
    if c.toNat < 0x20 then "\\u00" ++ String.ofList [hexDigit (c.toNat / 16), hexDigit (c.toNat % 16)]
    else c.toString

def quote (s : String) : String := "\"" ++ String.join (s.toList.map escapeChar) ++ "\""

/-! ## Values -/

/-- Whether a value is written over several lines, and how deep it lies. -/
inductive Style where
  | compact
  | indented (depth : Nat)

def Style.deeper : Style → Style
  | .compact => .compact
  | .indented depth => .indented (depth + 1)

def Style.lineBreak : Style → String
  | .compact => ""
  | .indented depth => "\n" ++ String.ofList (List.replicate (2 * depth) ' ')

def Style.colon : Style → String
  | .compact => ":"
  | .indented _ => ": "

/-- Parts between a pair of brackets, each on its own line if the style has lines. -/
def bracket (style : Style) (first last : String) (parts : List String) : String :=
  if parts.isEmpty then first ++ last
  else
    first ++ style.deeper.lineBreak ++ ("," ++ style.deeper.lineBreak).intercalate parts ++
      style.lineBreak ++ last

mutual

def render (style : Style) : Json → String
  | .null | .broken => "null"
  | .bool value => toString value
  | .natural value => toString value
  | .number literal => literal
  | .text value => quote value
  | .list items => bracket style "[" "]" (renderItems style.deeper items)
  | .object members => bracket style "\x7b" "\x7d" (renderMembers style.deeper members)

def renderItems (style : Style) : List Json → List String
  | [] => []
  | item :: rest => render style item :: renderItems style rest

def renderMembers (style : Style) : List (String × Json) → List String
  | [] => []
  | (key, value) :: rest =>
    (quote key ++ style.colon ++ render style value) :: renderMembers style rest

end

def compact (value : Json) : String := value.render .compact

def indented (value : Json) : String := value.render (.indented 0)

end Sequencer.Json
