import TargetConfig.Setting
import TargetConfig.Text.Quoted

/-! # Taking typed values out of documents

A document format is a type of values. An instance of `Format` says how a text, a truth value, a
list, a choice among labels and a record are taken out of a value of the format, and what is wrong
when the value does not fit. Records are described once, over any format.
-/

namespace TargetConfig

/-- What a message says was found in a place where it does not fit. -/
inductive Found where
  | null
  | boolean (value : Bool)
  | integer (value : Int)
  /-- A floating-point number, with its text in the format. -/
  | float (text : String)
  | string (value : String)
  | sequence
  | map
  deriving DecidableEq, Repr

def Found.message : Found → String
  | null => "null"
  | boolean value => "boolean `" ++ (if value then "true" else "false") ++ "`"
  | integer value => "integer `" ++ toString value ++ "`"
  | float text => "floating point `" ++ text ++ "`"
  | string value => "string " ++ Text.quoted value
  | sequence => "sequence"
  | map => "map"

/-- Why a document does not describe what it should. -/
inductive Mismatch where
  /-- A value has the wrong type. -/
  | wrongType (found : Found) (expected : String)
  /-- A label is none of the labels of the choice. -/
  | unknownLabel (label : String) (labels : List String)
  /-- A record lacks a key that it must have. -/
  | missingKey (key : String)
  /-- A list that stands for a record has the wrong length. -/
  | wrongLength (length : Nat) (expected : String)
  /-- A table that stands for a label does not have exactly one key. -/
  | notOneElement (more : Bool)
  /-- An object that stands for a label does not have exactly one key. -/
  | notSingleKey
  /-- A choice is neither a text nor a table. -/
  | notStringOrTable
  /-- What belongs to a label is not empty. -/
  | notEmptyTable
  | notEmptyArray
  /-- What belongs to a label is no table. -/
  | notTable (found : String)
  deriving DecidableEq, Repr

namespace Mismatch

/-- The labels of a choice, as a message lists them. -/
def listLabels : List String → String
  | [] => "there are no variants"
  | [a] => "expected `" ++ a ++ "`"
  | [a, b] => "expected `" ++ a ++ "` or `" ++ b ++ "`"
  | labels => "expected one of " ++ ", ".intercalate (labels.map fun l => "`" ++ l ++ "`")

def message : Mismatch → String
  | wrongType found expected => "invalid type: " ++ found.message ++ ", expected " ++ expected
  | unknownLabel label labels => "unknown variant `" ++ label ++ "`, " ++ listLabels labels
  | missingKey key => "missing field `" ++ key ++ "`"
  | wrongLength length expected =>
    "invalid length " ++ toString length ++ ", expected " ++ expected
  | notOneElement more =>
    "wanted exactly 1 element, " ++ (if more then "more than 1 element" else "found 0 elements")
  | notSingleKey => "invalid value: map, expected map with a single key"
  | notStringOrTable => "wanted string or table"
  | notEmptyTable => "expected empty table"
  | notEmptyArray => "expected empty array"
  | notTable found => "expected table, found " ++ found

end Mismatch

/-- What stands for a record: its entries by key, or its values in the order of its keys. -/
inductive Fields (V : Type) where
  | entries (entries : List (String × V))
  | items (items : List V)

/-- A document format with values in `V`. -/
class Format (V : Type) where
  /-- What a value is called in messages. -/
  found : V → Found
  text? : V → Option String
  truth? : V → Option Bool
  list? : V → Option (List V)
  fields? : V → Option (Fields V)
  /-- A choice among labels. -/
  choice : {α : Type} → [Enumerated α] → V → Except Mismatch α
  /-- Whether a list that stands for a record may be longer than the record. -/
  allowsExcess : Bool

namespace Format

variable {V : Type} [Format V]

/-- The value, or the complaint that something else was expected. -/
def expect {α : Type} (expected : String) (view : V → Option α) (v : V) : Except Mismatch α :=
  match view v with
  | some a => .ok a
  | none => .error (.wrongType (found v) expected)

def text : V → Except Mismatch String := expect "a string" text?

def truth : V → Except Mismatch Bool := expect "a boolean" truth?

def texts (v : V) : Except Mismatch (List String) := do
  let items ← expect "a sequence" list? v
  items.mapM text

def ofLabel {α : Type} [Enumerated α] (label : String) : Except Mismatch α :=
  match Enumerated.ofLabel? label with
  | some a => .ok a
  | none => .error (.unknownLabel label (Enumerated.labels α))

/-- Complains about a list that is longer than the record it stands for. -/
def checkExcess (V : Type) [Format V] (length limit : Nat) : Except Mismatch Unit :=
  if limit < length && !allowsExcess V then
    .error (.wrongLength length "fewer elements in array")
  else .ok ()

end Format

end TargetConfig
