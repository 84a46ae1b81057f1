import TargetConfig.Number.Shortest

/-! # TOML values and tables

A table is the list of its entries in the order in which their keys came into being, and no key
occurs twice in a table that was read from a document. A table remembers how it came about, because
that decides what a later line of the document may still add to it.
-/

namespace TargetConfig.Toml

/-- A day of the calendar. -/
structure Date where
  year : Nat
  month : Nat
  day : Nat
  deriving DecidableEq, Repr

/-- A time of day; the fraction of a second is kept as its digits. -/
structure Time where
  hour : Nat
  minute : Nat
  second : Nat
  fraction : List Char
  deriving DecidableEq, Repr

/-- A date, a time of day, or both, the last with an optional offset in minutes. -/
structure Datetime where
  date : Option Date
  time : Option Time
  offset : Option Int
  deriving DecidableEq, Repr

/-- How a table came about. -/
inductive Origin where
  /-- Written between braces. Nothing can be added. -/
  | inline
  /-- Named by a header, or an element of an array of tables. -/
  | header
  /-- Passed through by the path of a header. A later header may still name it. -/
  | implied
  /-- Passed through by a dotted key. More dotted keys may add to it. -/
  | dotted
  deriving DecidableEq, Repr

/-- A TOML value. An array written with brackets is kept apart from one made of `[[...]]`
headers. -/
inductive Value where
  | string (text : String)
  | integer (value : Int)
  | float (value : Binary64)
  | boolean (value : Bool)
  | datetime (value : Datetime)
  | array (items : List Value)
  | tables (elements : List (List (String × Value)))
  | table (origin : Origin) (entries : List (String × Value))

/-- The entries of a table, in order. -/
abbrev Table := List (String × Value)

namespace Table

def get? (key : String) (table : Table) : Option Value := table.lookup key

/-- The table with another value in the place of a key's old one. -/
def replace (key : String) (value : Value) : Table → Table
  | [] => []
  | entry :: entries =>
    if entry.1 = key then (key, value) :: entries else entry :: replace key value entries

def erase (key : String) (table : Table) : Table := table.filter (·.1 ≠ key)

/-- The table with a new key at its end, unless it has that key already. -/
def add? (key : String) (value : Value) (table : Table) : Option Table :=
  if (table.get? key).isSome then none else some (table ++ [(key, value)])

end Table

end TargetConfig.Toml
