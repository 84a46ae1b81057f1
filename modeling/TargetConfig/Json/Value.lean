import TargetConfig.Number.Shortest

/-! # JSON values

A number written as a whole number is kept apart from one written with a fraction or an exponent,
because a setting may accept neither and its message shows which it was. The entries of an object
keep their order, and a key may occur twice.
-/

namespace TargetConfig

inductive Json where
  | null
  | boolean (value : Bool)
  | integer (value : Int)
  | number (value : Binary64)
  | string (value : String)
  | array (items : List Json)
  | object (entries : List (String × Json))

namespace Json

/-- Numbers are written positionally when the leading digit stands for a power of ten from
`10 ^ -5` to `10 ^ 15`; half way, the decimal with an even last digit is written. -/
def numberLayout : Binary64.Layout := ⟨.toEven, fun exponent => -5 ≤ exponent && exponent ≤ 15⟩

/-- The value of the last entry with a key, if the value is an object that has one. -/
def get? (key : String) : Json → Option Json
  | object entries => (entries.reverse.find? (·.1 = key)).map (·.2)
  | _ => none

/-- Puts an entry into a list in ascending order of keys; an entry with the same key is replaced. -/
def insertEntry (entry : String × Json) : List (String × Json) → List (String × Json)
  | [] => [entry]
  | other :: entries =>
    if entry.1 < other.1 then entry :: other :: entries
    else if entry.1 = other.1 then entry :: entries
    else other :: insertEntry entry entries

/-- The entries in ascending order of keys, each key once; the last entry of a key counts. -/
def sortedEntries (entries : List (String × Json)) : List (String × Json) :=
  entries.foldl (fun sorted entry => insertEntry entry sorted) []

end Json

end TargetConfig
