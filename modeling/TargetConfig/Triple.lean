import TargetConfig.Arch.Spelling
import TargetConfig.Text

/-! # Target triples

A triple is a text of the form `arch-vendor-os[-environment]`. Splitting one never fails: parts that
are missing are empty, an architecture that nobody knows is `unknown`, and all hyphens after the
third belong to the environment.
-/

namespace TargetConfig

open Text

/-- A triple in its parts. -/
structure Triple where
  arch : Arch
  /-- The first part as it is written. -/
  archName : String
  vendor : String
  os : String
  /-- The part after the third hyphen, if there is one. -/
  environment : Option String
  deriving DecidableEq, Repr

namespace Triple

/-- Splits what is left of a triple, if anything is. -/
def nextPart (rest : Option (List Char)) : List Char × Option (List Char) :=
  match rest with
  | none => ([], none)
  | some s => cut '-' s

def ofString (s : String) : Triple :=
  let (archName, rest) := cut '-' s.toList
  let (vendor, rest) := nextPart rest
  let (os, environment) := nextPart rest
  { arch := Arch.ofSpelling archName
    archName := String.ofList archName
    vendor := String.ofList vendor
    os := String.ofList os
    environment := environment.map String.ofList }

end Triple

/-- The architecture that a triple names: what its text before the first hyphen spells. -/
def archOf (triple : String) : Arch := Arch.ofSpelling (triple.toList.takeWhile (· ≠ '-'))

end TargetConfig
