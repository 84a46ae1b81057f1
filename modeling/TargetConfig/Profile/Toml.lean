import TargetConfig.Profile
import TargetConfig.Toml.Document

/-! # Profiles as TOML documents

`Profile.parse` reads a document and `Profile.render` writes one: an entry per part in a fixed
order, without the processor if it is the empty text, and a table with the options at the end.
Reading what was written gives the profile back.
-/

namespace TargetConfig

namespace Toml

/-- Floating-point values in messages never have an exponent; half way, the decimal further from
zero is shown. -/
def messageLayout : Binary64.Layout := ⟨.up, fun _ => true⟩

/-- What messages call a value. A date counts as a table. -/
def found : Value → Found
  | .string text => .string text
  | .integer value => .integer value
  | .float value => .float (messageLayout.render value)
  | .boolean value => .boolean value
  | .datetime _ => .map
  | .array _ => .sequence
  | .tables _ => .sequence
  | .table _ _ => .map

/-- The items of an array. An array of tables is an array like any other. -/
def items? : Value → Option (List Value)
  | .array items => some items
  | .tables elements => some (elements.map (.table .header))
  | _ => none

/-- What may stand for a record: a table, an array, or a date, which has no keys that count. -/
def fields? : Value → Option (Fields Value)
  | .table _ entries => some (.entries entries)
  | .datetime _ => some (.entries [])
  | v => (items? v).map .items

/-- Whether a value can belong to a label, that is, says nothing. -/
def checkNothing : Value → Except Mismatch Unit
  | .table _ [] => .ok ()
  | .table _ _ => .error .notEmptyTable
  | .array [] => .ok ()
  | .array _ => .error .notEmptyTable
  | .tables [] => .ok ()
  | .tables _ => .error .notEmptyArray
  | .string _ => .error (.notTable "string")
  | .integer _ => .error (.notTable "integer")
  | .float _ => .error (.notTable "float")
  | .boolean _ => .error (.notTable "boolean")
  | .datetime _ => .error (.notTable "datetime")

/-- A choice: its label, or a table with the label as its only key and nothing as its value. -/
def choice {α : Type} [Enumerated α] : Value → Except Mismatch α
  | .string label => Format.ofLabel label
  | .table _ [] => .error (.notOneElement false)
  | .table _ [(label, v)] => do
    let a ← Format.ofLabel label
    checkNothing v
    return a
  | .table _ _ => .error (.notOneElement true)
  | _ => .error .notStringOrTable

instance : Format Value where
  found := found
  text?
    | .string text => some text
    | _ => none
  truth?
    | .boolean value => some value
    | _ => none
  list? := items?
  fields? := fields?
  choice := choice
  allowsExcess := true

/-! ## Writing -/

def writeLine (key : String) (value : List Char) : List Char :=
  key.toList ++ ' ' :: '=' :: ' ' :: value ++ ['\n']

def writeBoolean (value : Bool) : List Char := (if value then "true" else "false").toList

/-- A list of texts: on one line if there are fewer than two, else one text on each line. -/
def writeTexts : List String → List Char
  | [] => ['[', ']']
  | [text] => '[' :: writeString text.toList ++ [']']
  | texts =>
    '[' :: '\n' :: texts.flatMap (fun text =>
      ' ' :: ' ' :: ' ' :: ' ' :: writeString text.toList ++ [',', '\n']) ++ [']']

def writeChoice {α : Type} [Enumerated α] (a : α) : List Char :=
  writeString (Enumerated.label a).toList

end Toml

open Toml in
def TargetOptions.render (options : TargetOptions) : List Char :=
  writeLine "float-abi" (writeChoice options.floatAbi)
    ++ writeLine "no-frame-pointer-elim" (writeBoolean options.noFramePointerElim)
    ++ writeLine "unsafe-fp-math" (writeBoolean options.unsafeFpMath)
    ++ writeLine "no-infs-fp-math" (writeBoolean options.noInfsFpMath)
    ++ writeLine "no-nans-fp-math" (writeBoolean options.noNansFpMath)
    ++ writeLine "use-init-array" (writeBoolean options.useInitArray)
    ++ writeLine "function-sections" (writeBoolean options.functionSections)
    ++ writeLine "data-sections" (writeBoolean options.dataSections)
    ++ writeLine "emulated-tls" (writeBoolean options.emulatedTls)

namespace Profile

open Toml in
def render (profile : Profile) : String :=
  String.ofList <|
    writeLine "triple" (writeString profile.triple.toList)
      ++ (if profile.cpu.isEmpty then [] else writeLine "cpu" (writeString profile.cpu.toList))
      ++ writeLine "features" (writeTexts profile.features)
      ++ writeLine "code-model" (writeChoice profile.codeModel)
      ++ writeLine "optimization-level" (writeChoice profile.optimizationLevel)
      ++ writeLine "relocation-model" (writeChoice profile.relocationModel)
      ++ "\n[target-options]\n".toList
      ++ profile.targetOptions.render

/-- The reason given for a document that is not valid. -/
def invalidDocument : String := "<syntax>"

def parse (text : String) : Except ConfigError Profile :=
  match Toml.Document.parse text with
  | none => .error (.document invalidDocument)
  | some table =>
    match ofEntries table with
    | .ok profile => .ok profile
    | .error mismatch => .error (.document mismatch.message)

/-- A document for a triple, with every setting open. -/
def template (triple : String) : String := (ofConfig (Config.new triple)).render

end Profile

end TargetConfig
