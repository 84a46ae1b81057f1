import TargetConfig.Json.Value
import TargetConfig.Text

/-! # Writing JSON

`render` writes a value on one line without spaces, `pretty` with two spaces of indentation for
each level. Strings escape the quote, the backslash and the characters below the space; all other
characters are written as they are.
-/

namespace TargetConfig.Json

open Text

/-- How one character is written in a string. -/
def escapeChar (c : Char) : List Char :=
  match c with
  | '"' => ['\\', '"']
  | '\\' => ['\\', '\\']
  | '\x08' => ['\\', 'b']
  | '\x0c' => ['\\', 'f']
  | '\n' => ['\\', 'n']
  | '\r' => ['\\', 'r']
  | '\t' => ['\\', 't']
  | c => if c.toNat < 0x20 then '\\' :: 'u' :: hexFour c.toNat else [c]

/-- A string between quotes. -/
def renderString (s : String) : String :=
  "\"" ++ String.ofList (s.toList.flatMap escapeChar) ++ "\""

/-- The text of a value without parts. -/
def renderScalar : Json → String
  | null => "null"
  | boolean value => if value then "true" else "false"
  | integer value => toString value
  | number value => numberLayout.render value
  | string value => renderString value
  | array _ => "[]"
  | object _ => "\x7b\x7d"

mutual

/-- The text of a value on one line. -/
def render : Json → String
  | array items => "[" ++ renderItems items ++ "]"
  | object entries => "\x7b" ++ renderEntries entries ++ "\x7d"
  | value => renderScalar value

/-- Values with commas between them. -/
def renderItems : List Json → String
  | [] => ""
  | [item] => render item
  | item :: next :: items => render item ++ "," ++ renderItems (next :: items)

/-- Entries with commas between them. -/
def renderEntries : List (String × Json) → String
  | [] => ""
  | [(key, value)] => renderString key ++ ":" ++ render value
  | (key, value) :: next :: entries =>
    renderString key ++ ":" ++ render value ++ "," ++ renderEntries (next :: entries)

end

/-- A new line indented to a level. -/
def newLine (level : Nat) : String := "\n" ++ String.ofList (List.replicate (2 * level) ' ')

mutual

/-- The text of a value over several lines, with its parts indented below `level`. -/
def pretty (level : Nat) : Json → String
  | array (item :: items) => "[" ++ prettyItems (level + 1) (item :: items) ++ newLine level ++ "]"
  | object (entry :: entries) =>
    "\x7b" ++ prettyEntries (level + 1) (entry :: entries) ++ newLine level ++ "\x7d"
  | value => renderScalar value

/-- Values on lines of their own. -/
def prettyItems (level : Nat) : List Json → String
  | [] => ""
  | [item] => newLine level ++ pretty level item
  | item :: next :: items =>
    newLine level ++ pretty level item ++ "," ++ prettyItems level (next :: items)

/-- Entries on lines of their own. -/
def prettyEntries (level : Nat) : List (String × Json) → String
  | [] => ""
  | [(key, value)] => newLine level ++ renderString key ++ ": " ++ pretty level value
  | (key, value) :: next :: entries =>
    newLine level ++ renderString key ++ ": " ++ pretty level value ++ "," ++
      prettyEntries level (next :: entries)

end

end TargetConfig.Json
