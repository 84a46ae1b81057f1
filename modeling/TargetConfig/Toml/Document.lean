import TargetConfig.Toml.Assembly
import TargetConfig.Toml.Quoted
import TargetConfig.Toml.Scalar

/-! # Reading TOML documents

`Document.statements?` reads the lines of a document one by one, and `Document.parse` puts the
statements together. A document is refused as a whole: there is one kind of failure, whichever line
it comes from.

Arrays and inline tables may be nested 79 deep, and a dotted key may have 79 parts.
-/

namespace TargetConfig.Toml

open Text

/-! ## Blanks and comments -/

def skipSpace (s : List Char) : List Char := s.dropWhile isSpace

/-- Passes over blanks, line ends and comments; `inComment` tells that a comment has begun. It stops
in front of anything else, which may be a character that no comment may hold. -/
def skipTrivia (inComment : Bool) : List Char → List Char
  | [] => []
  | c :: s =>
    if inComment && isCommentChar c then skipTrivia true s
    else if c = '\n' || isSpace c then skipTrivia false s
    else if c = '#' then skipTrivia true s
    else if c = '\r' then
      match s with
      | '\n' :: rest => skipTrivia false rest
      | _ => c :: s
    else c :: s

/-! ## Keys -/

/-- What a key without quotes is made of. -/
def isBareKeyChar (c : Char) : Bool :=
  ('a' ≤ c && c ≤ 'z') || ('A' ≤ c && c ≤ 'Z') || ('0' ≤ c && c ≤ '9') || c = '-' || c = '_'

/-- The greatest depth of nested arrays and inline tables, and the greatest length of a dotted
key. -/
def nestingLimit : Nat := 79

/-- Reads one part of a dotted key: characters without quotes, or a one-line string. -/
def readKeyPart : Reader String
  | [] => none
  | c :: s =>
    if c = '"' || c = '\'' then (readOneLine (c :: s)).map fun r => (String.ofList r.1, r.2)
    else if isBareKeyChar c then
      let (name, rest) := (c :: s).span isBareKeyChar
      some (String.ofList name, rest)
    else none

/-- Reads the parts of a dotted key, at most `limit`, with blanks around each. -/
def readKeyParts : Nat → Reader (List String)
  | 0, _ => none
  | limit + 1, s =>
    match readKeyPart (skipSpace s) with
    | none => none
    | some (part, rest) =>
      match skipSpace rest with
      | '.' :: rest => (readKeyParts limit rest).map fun r => (part :: r.1, r.2)
      | rest => some ([part], rest)

def readPath : Reader Path := fun s =>
  match readKeyParts nestingLimit s with
  | some (parts, rest) => (parts.getLast?).map fun key => (⟨parts.dropLast, key⟩, rest)
  | none => none

/-! ## Values -/

/-- Reads a value without parts, starting with a character that starts no string, array or table. -/
def readScalar : Reader Value
  | 't' :: 'r' :: 'u' :: 'e' :: s => some (.boolean true, s)
  | 'f' :: 'a' :: 'l' :: 's' :: 'e' :: s => some (.boolean false, s)
  | s => (readDatetime s).or ((readFloat s).or (readInteger s))

/-- Reads an entry: a dotted key, an equals sign and a value. -/
def readEntry (value : Reader Value) : Reader Entry := fun s =>
  match readPath s with
  | some (path, '=' :: rest) => (value (skipSpace rest)).map fun r => (⟨path, r.1⟩, r.2)
  | _ => none

/-- Reads a value that is nested at most `depth` deep. Line ends and comments may stand between the
items of an array, but not between the entries of an inline table. -/
def readValue : Nat → Reader Value
  | _, [] => none
  | depth, c :: s =>
    if c = '"' || c = '\'' then
      (readString (c :: s)).map fun r => (.string (String.ofList r.1), r.2)
    else if c = '[' then
      match depth with
      | 0 => none
      | depth + 1 =>
        (Reader.list (skipTrivia false) ']' true (readValue depth) s).map
          fun r => (.array r.1, r.2)
    else if c = '\x7b' then
      match depth with
      | 0 => none
      | depth + 1 =>
        (Reader.list skipSpace '\x7d' false (readEntry (readValue depth)) s).bind fun r =>
          (Table.putAll r.1 []).map fun entries => (.table .inline entries, r.2)
    else readScalar (c :: s)

/-! ## Lines -/

/-- Passes over a line end; the end of the document counts as one. -/
def readLineEnd : List Char → Option (List Char)
  | [] => some []
  | '\n' :: s => some s
  | '\r' :: '\n' :: s => some s
  | _ => none

/-- Passes over blanks, a comment and the line end. -/
def readLineRest (s : List Char) : Option (List Char) :=
  match skipSpace s with
  | '#' :: rest => readLineEnd (rest.dropWhile isCommentChar)
  | rest => readLineEnd rest

/-- Reads a header after its opening brackets. -/
def readHeader (isElement : Bool) : Reader Statement := fun s =>
  match isElement, readPath s with
  | true, some (path, ']' :: ']' :: rest) => some (.element path, rest)
  | false, some (path, ']' :: rest) => some (.table path, rest)
  | _, _ => none

/-- Reads a statement that starts here. -/
def readStatement : Reader Statement
  | '[' :: '[' :: s => readHeader true s
  | '[' :: s => readHeader false s
  | s => (readEntry (readValue nestingLimit) s).map fun r => (.entry r.1, r.2)

/-- Whether nothing but a comment or a line end stands here. -/
def isLineRest : List Char → Bool
  | [] => true
  | c :: _ => c = '#' || c = '\n' || c = '\r'

/-- Reads a line: at most one statement, blanks and a comment, and the line end. -/
def readLine : Reader (Option Statement) := fun s =>
  let s := skipSpace s
  if isLineRest s then (readLineRest s).map fun rest => (none, rest)
  else
    (readStatement s).bind fun (statement, rest) =>
      (readLineRest rest).map fun rest => (some statement, rest)

namespace Document

/-- A document without the byte order mark that may open it. -/
def withoutMark : List Char → List Char
  | '\ufeff' :: s => s
  | s => s

def statements? (s : List Char) : Option (List Statement) :=
  (Reader.untilEnd readLine s).map fun lines => lines.filterMap id

/-- The table that a document defines. -/
def parse (text : String) : Option Table :=
  (statements? (withoutMark text.toList)).bind Table.ofStatements

end Document

end TargetConfig.Toml
