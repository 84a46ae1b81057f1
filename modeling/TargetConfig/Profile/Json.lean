import TargetConfig.Json.Value
import TargetConfig.Profile

/-! # Settings and profiles as JSON

Objects are read in ascending order of their keys. A choice is its label, or an object with the
label as its only key and `null` as its value. The processor is left out of a written profile if it
is the empty text.
-/

namespace TargetConfig

namespace Json

/-- What messages call a value. -/
def found : Json → Found
  | null => .null
  | boolean value => .boolean value
  | integer value => .integer value
  | number value => .float (numberLayout.render value)
  | string value => .string value
  | array _ => .sequence
  | object _ => .map

def choice {α : Type} [Enumerated α] (v : Json) : Except Mismatch α :=
  match v with
  | string label => Format.ofLabel label
  | object entries =>
    match sortedEntries entries with
    | [(label, v)] => do
      let a ← Format.ofLabel label
      match v with
      | null => return a
      | v => .error (.wrongType v.found "unit")
    | _ => .error .notSingleKey
  | v => .error (.wrongType v.found "string or map")

instance : Format Json where
  found := found
  text?
    | string value => some value
    | _ => none
  truth?
    | boolean value => some value
    | _ => none
  list?
    | array items => some items
    | _ => none
  fields?
    | object entries => some (.entries (sortedEntries entries))
    | array items => some (.items items)
    | _ => none
  choice := choice
  allowsExcess := false

def ofChoice {α : Type} [Enumerated α] (a : α) : Json := string (Enumerated.label a)

end Json

def TargetOptions.toJson (options : TargetOptions) : Json :=
  .object [
    ("float-abi", .ofChoice options.floatAbi),
    ("no-frame-pointer-elim", .boolean options.noFramePointerElim),
    ("unsafe-fp-math", .boolean options.unsafeFpMath),
    ("no-infs-fp-math", .boolean options.noInfsFpMath),
    ("no-nans-fp-math", .boolean options.noNansFpMath),
    ("use-init-array", .boolean options.useInitArray),
    ("function-sections", .boolean options.functionSections),
    ("data-sections", .boolean options.dataSections),
    ("emulated-tls", .boolean options.emulatedTls)]

def Profile.toJson (profile : Profile) : Json :=
  .object (
    [("triple", .string profile.triple)]
      ++ (if profile.cpu.isEmpty then [] else [("cpu", .string profile.cpu)])
      ++ [("features", .array (profile.features.map .string)),
        ("code-model", .ofChoice profile.codeModel),
        ("optimization-level", .ofChoice profile.optimizationLevel),
        ("relocation-model", .ofChoice profile.relocationModel),
        ("target-options", profile.targetOptions.toJson)])

end TargetConfig
