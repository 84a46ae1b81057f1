import TargetConfig.Text
import TargetConfig.Text.Reader

/-! # TOML strings

The four written forms of a string: between double quotes with escapes (basic) or between single
quotes without (literal), each on one line or, with three quotes on each side, over several lines.

`StringForm.choose` picks the form in which a text is easiest to read, and `StringForm.write` writes
it. The forms without escapes are chosen only for texts that need none, so `readString` takes every
written text back to the text itself.
-/

namespace TargetConfig.Toml

open Text

/-! ## Characters

What may stand in each place. Every character beyond ASCII is allowed wherever text is. -/

def isSpace (c : Char) : Bool := c = ' ' || c = '\t'

/-- What a comment may hold: all but control characters, the tab excepted. -/
def isCommentChar (c : Char) : Bool := c = '\t' || (0x20 ≤ c.toNat && c.toNat ≠ 0x7F)

/-- What stands for itself between double quotes. -/
def isBasicChar (c : Char) : Bool := isCommentChar c && c ≠ '"' && c ≠ '\\'

/-- What stands for itself between single quotes. -/
def isLiteralChar (c : Char) : Bool := isCommentChar c && c ≠ '\''

/-! ## Reading -/

/-- The character that a one-letter escape stands for. -/
def escaped? : Char → Option Char
  | 'b' => some '\x08'
  | 't' => some '\t'
  | 'n' => some '\n'
  | 'f' => some '\x0c'
  | 'r' => some '\r'
  | '"' => some '"'
  | '\\' => some '\\'
  | _ => none

/-- Puts a character in front of what a reader has read. -/
def consResult (c : Char) (result : Option (List Char × List Char)) :
    Option (List Char × List Char) :=
  result.map fun r => (c :: r.1, r.2)

/-- Reads the rest of a one-line basic string, with the closing quote. -/
def basicBody : Reader (List Char)
  | [] => none
  | '\\' :: 'u' :: a :: b :: c :: d :: s =>
    match (hexNumber? [a, b, c, d]).bind charOfCode? with
    | some x => consResult x (basicBody s)
    | none => none
  | '\\' :: 'U' :: a :: b :: c :: d :: e :: f :: g :: h :: s =>
    match (hexNumber? [a, b, c, d, e, f, g, h]).bind charOfCode? with
    | some x => consResult x (basicBody s)
    | none => none
  | '\\' :: c :: s =>
    match escaped? c with
    | some x => consResult x (basicBody s)
    | none => none
  | c :: s =>
    if c = '"' then some ([], s)
    else if isBasicChar c then consResult c (basicBody s)
    else none

/-- Reads the rest of a one-line literal string, with the closing quote. -/
def literalBody : Reader (List Char)
  | [] => none
  | c :: s =>
    if c = '\'' then some ([], s)
    else if isLiteralChar c then consResult c (literalBody s)
    else none

/-- After a first quote: whether two more follow and so the string ends. Up to two of the quotes in
front of the last three belong to the text; their number is given with the rest. -/
def closing? (quote : Char) : List Char → Option (Nat × List Char)
  | a :: b :: c :: d :: s =>
    if a = quote && b = quote then
      if c = quote then if d = quote then some (2, s) else some (1, d :: s)
      else some (0, c :: d :: s)
    else none
  | [a, b, c] =>
    if a = quote && b = quote then if c = quote then some (1, []) else some (0, [c]) else none
  | [a, b] => if a = quote && b = quote then some (0, []) else none
  | _ => none

/-- Where a reader stands in a basic string of several lines. -/
inductive Continuation where
  /-- In the text. -/
  | text
  /-- After a backslash at the end of a line, in front of the line end. -/
  | beforeLineEnd
  /-- After such a line end, where blanks and further line ends do not count. -/
  | afterLineEnd
  deriving DecidableEq

/-- Reads the rest of a basic string of several lines, with the closing quotes. A backslash at the
end of a line joins the line to the next text. -/
def multilineBasicBody : Continuation → Reader (List Char)
  | _, [] => none
  | .beforeLineEnd, '\r' :: '\n' :: s => multilineBasicBody .afterLineEnd s
  | .beforeLineEnd, c :: s =>
    if c = '\n' then multilineBasicBody .afterLineEnd s
    else if isSpace c then multilineBasicBody .beforeLineEnd s
    else none
  | mode, '\r' :: '\n' :: s =>
    if mode = .afterLineEnd then multilineBasicBody .afterLineEnd s
    else consResult '\n' (multilineBasicBody .text s)
  | _, '\\' :: 'u' :: a :: b :: c :: d :: s =>
    match (hexNumber? [a, b, c, d]).bind charOfCode? with
    | some x => consResult x (multilineBasicBody .text s)
    | none => none
  | _, '\\' :: 'U' :: a :: b :: c :: d :: e :: f :: g :: h :: s =>
    match (hexNumber? [a, b, c, d, e, f, g, h]).bind charOfCode? with
    | some x => consResult x (multilineBasicBody .text s)
    | none => none
  | _, '\\' :: '\r' :: '\n' :: s => multilineBasicBody .afterLineEnd s
  | _, '\\' :: c :: s =>
    match escaped? c with
    | some x => consResult x (multilineBasicBody .text s)
    | none =>
      if c = '\n' then multilineBasicBody .afterLineEnd s
      else if isSpace c then multilineBasicBody .beforeLineEnd s
      else none
  | mode, c :: s =>
    if mode = .afterLineEnd && (c = '\n' || isSpace c) then multilineBasicBody .afterLineEnd s
    else if c = '"' then
      match closing? '"' s with
      | some (quotes, rest) => some (List.replicate quotes '"', rest)
      | none => consResult '"' (multilineBasicBody .text s)
    else if c = '\n' || isBasicChar c then consResult c (multilineBasicBody .text s)
    else none

/-- Reads the rest of a literal string of several lines, with the closing quotes. -/
def multilineLiteralBody : Reader (List Char)
  | [] => none
  | '\r' :: '\n' :: s => consResult '\n' (multilineLiteralBody s)
  | c :: s =>
    if c = '\'' then
      match closing? '\'' s with
      | some (quotes, rest) => some (List.replicate quotes '\'', rest)
      | none => consResult '\'' (multilineLiteralBody s)
    else if c = '\n' || isLiteralChar c then consResult c (multilineLiteralBody s)
    else none

/-- Passes over a line end directly after opening quotes; it does not belong to the text. -/
def skipFirstLineEnd : List Char → List Char
  | '\n' :: s => s
  | '\r' :: '\n' :: s => s
  | s => s

def readOneLine : Reader (List Char)
  | '"' :: s => basicBody s
  | '\'' :: s => literalBody s
  | _ => none

/-- Reads a string in any of the four forms. -/
def readString : Reader (List Char)
  | '"' :: '"' :: '"' :: s => multilineBasicBody .text (skipFirstLineEnd s)
  | '\'' :: '\'' :: '\'' :: s => multilineLiteralBody (skipFirstLineEnd s)
  | s => readOneLine s

/-! ## Writing -/

/-- The four written forms of a string. -/
inductive StringForm where
  | basic
  | literal
  | multilineBasic
  | multilineLiteral
  deriving DecidableEq, Repr

/-- The length of the longest run of a character, given the length of the run before the text. -/
def longestRun (x : Char) (current : Nat) : List Char → Nat
  | [] => current
  | c :: s =>
    if c = x then longestRun x (current + 1) s else max current (longestRun x 0 s)

/-- Whether a character is a control character other than the tab and the line feed. -/
def isHiddenControl (c : Char) : Bool :=
  (c.toNat < 0x20 && c ≠ '\t' && c ≠ '\n') || c.toNat = 0x7F

namespace StringForm

/-- The form for a text: the first of basic, literal, multi-line basic and multi-line literal in
which it needs no escapes, and a basic form with escapes if there is none. Line feeds need a
multi-line form, hidden control characters a basic one, and a backslash a literal one. -/
def choose (s : List Char) : StringForm :=
  let plain := !s.any isHiddenControl
  let straight := plain && !s.contains '\\'
  let oneLine := !s.contains '\n'
  if straight && oneLine && !s.contains '"' then basic
  else if plain && oneLine && !s.contains '\'' then literal
  else if straight && longestRun '"' 0 s ≤ 2 then multilineBasic
  else if plain && longestRun '\'' 0 s ≤ 2 then multilineLiteral
  else if oneLine then basic
  else multilineBasic

/-- How a character other than the quote and the line feed is written between double quotes. -/
def escapeChar (c : Char) : List Char :=
  match c with
  | '\x08' => ['\\', 'b']
  | '\t' => ['\\', 't']
  | '\x0c' => ['\\', 'f']
  | '\r' => ['\\', 'r']
  | '\\' => ['\\', '\\']
  | c =>
    if isHiddenControl c then '\\' :: 'u' :: (hexFour c.toNat).map Char.toUpper else [c]

/-- The inside of a one-line basic string. -/
def writeBasic : List Char → List Char
  | [] => []
  | c :: s =>
    (if c = '"' then ['\\', '"'] else if c = '\n' then ['\\', 'n'] else escapeChar c)
      ++ writeBasic s

/-- The inside of a multi-line basic string. Of three quotes in a row the third is escaped;
`quotes` counts those directly before the text. -/
def writeMultilineBasic (quotes : Nat) : List Char → List Char
  | [] => []
  | c :: s =>
    if c = '"' then
      if quotes = 2 then '\\' :: '"' :: writeMultilineBasic 0 s
      else '"' :: writeMultilineBasic (quotes + 1) s
    else if c = '\n' then '\n' :: writeMultilineBasic 0 s
    else escapeChar c ++ writeMultilineBasic 0 s

/-- The opening of a multi-line string: a line end that does not count follows the quotes if the
text itself has several lines. -/
def opening (quotes s : List Char) : List Char :=
  if s.contains '\n' then quotes ++ ['\n'] else quotes

/-- A text in a given form. The literal forms show it as it is. -/
def write (s : List Char) : StringForm → List Char
  | basic => '"' :: writeBasic s ++ ['"']
  | literal => '\'' :: s ++ ['\'']
  | multilineBasic => opening ['"', '"', '"'] s ++ writeMultilineBasic 0 s ++ ['"', '"', '"']
  | multilineLiteral => opening ['\'', '\'', '\''] s ++ s ++ ['\'', '\'', '\'']

end StringForm

/-- A text as a TOML string, in the form chosen for it. -/
def writeString (s : List Char) : List Char := (StringForm.choose s).write s

end TargetConfig.Toml
