import TargetConfig.Failure
import TargetConfig.Json.Writer
import TargetConfig.Profile.Json
import TargetConfig.Profile.Toml

/-! # Showing a configuration

A configuration is shown as text for people, as the document that describes it, or as an object for
programs. The texts and the object are made from a summary, which says for each triple which
architecture it names, whether or not a backend was found.
-/

namespace TargetConfig

/-- What is shown of a configuration. -/
structure Summary where
  triple : String
  /-- The canonical name of the architecture. -/
  arch : String
  pointerWidth : Option Nat
  target : Option String
  targetDescription : Option String
  cpu : String
  features : String
  codeModel : CodeModel
  optimizationLevel : OptimizationLevel
  relocationModel : RelocationModel
  deriving DecidableEq, Repr

/-- A text, or a hyphen in the place of the empty text. -/
def orDash (s : String) : String := if s.isEmpty then "-" else s

namespace Summary

def ofConfig (config : Config) : Summary :=
  let arch := config.arch.getD (archOf config.triple)
  { triple := config.triple
    arch := arch.name
    pointerWidth := arch.pointerWidth
    target := config.target.map (·.name)
    targetDescription := config.target.map (·.description)
    cpu := config.cpu
    features := config.featureString
    codeModel := config.codeModel
    optimizationLevel := config.optimizationLevel
    relocationModel := config.relocationModel }

/-- The summary as an object; what is not known is `null`. -/
def toJson (summary : Summary) : Json :=
  .object [
    ("triple", .string summary.triple),
    ("arch", .string summary.arch),
    ("pointer-width", (summary.pointerWidth.map fun width => Json.integer width).getD .null),
    ("target", (summary.target.map .string).getD .null),
    ("target-description", (summary.targetDescription.map .string).getD .null),
    ("cpu", .string summary.cpu),
    ("features", .string summary.features),
    ("code-model", .ofChoice summary.codeModel),
    ("optimization-level", .ofChoice summary.optimizationLevel),
    ("relocation-model", .ofChoice summary.relocationModel)]

/-- The lines of the summary for people. -/
def lines (summary : Summary) : List String := [
  "=== Target: " ++ summary.triple ++ " ===",
  "  Backend:      " ++ summary.target.getD "unresolved",
  "  Architecture: " ++ summary.arch,
  "  CPU:          " ++ orDash summary.cpu,
  "  Features:     " ++ orDash summary.features,
  "  Code model:   " ++ summary.codeModel.label,
  "  Opt level:    " ++ summary.optimizationLevel.label ++
    " (-O" ++ toString summary.optimizationLevel.number ++ ")",
  "  Relocation:   " ++ summary.relocationModel.label]

end Summary

/-- Lines as one text, each with a line end. -/
def unlines (lines : List String) : String := String.join (lines.map (· ++ "\n"))

namespace Config

/-- The configuration in the format of the given name. -/
def render (config : Config) (format : Option String) : Except Failure String :=
  match format.getD "text" with
  | "text" => .ok (unlines (Summary.ofConfig config).lines)
  | "toml" => .ok (Profile.ofConfig config).render
  | "json" => .ok (Json.pretty 0 (Summary.ofConfig config).toJson ++ "\n")
  | name => .error (.unknownFormat name)

end Config

end TargetConfig
