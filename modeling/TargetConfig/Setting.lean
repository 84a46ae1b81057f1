import TargetConfig.Error

/-! # Code generation settings

The three models that can be set both in a file and by a flag, the floating-point convention, and
the options that are passed to the backend as they are.

A file accepts a model's label and nothing else. A flag accepts it in any ASCII case, and a few
further spellings: the number of an optimization level, and underscores in `dynamic-no-pic`.
-/

namespace TargetConfig

/-! ## Types with a written label for each value

A value of such a type is written as its label in files and in machine-readable output, and read
back from exactly that label. -/

/-- A type with finitely many values, listed in order, each with a label. -/
class Enumerated (α : Type) where
  values : List α
  label : α → String

namespace Enumerated

variable {α : Type} [Enumerated α]

def labels (α : Type) [Enumerated α] : List String := (values (α := α)).map label

def ofLabel? (s : String) : Option α := values.find? fun a => label a = s

end Enumerated

/-! ## Settings -/

/-- An enumerated setting that a flag can give. -/
class Setting (α : Type) extends Enumerated α where
  /-- What messages call the setting. -/
  title : String
  /-- What a flag may say for a value, in lower case. -/
  spellings : α → List String

namespace Setting

/-- A text with its ASCII letters in lower case. -/
def lowerCase (s : String) : String := String.ofList (s.toList.map Char.toLower)

/-- The value that a flag gives. -/
def ofFlag (α : Type) [Setting α] (s : String) : Except ConfigError α :=
  match (Enumerated.values (α := α)).find? fun a => (spellings a).contains (lowerCase s) with
  | some a => .ok a
  | none => .error (.invalidValue (title α) s)

end Setting

/-- The range of addresses that generated code and data may assume. -/
inductive CodeModel where
  /-- The backend chooses. -/
  | default
  | small
  | kernel
  | medium
  | large
  deriving DecidableEq, Repr

namespace CodeModel

def label : CodeModel → String
  | default => "default"
  | small => "small"
  | kernel => "kernel"
  | medium => "medium"
  | large => "large"

end CodeModel

instance : Setting CodeModel where
  values := [.default, .small, .kernel, .medium, .large]
  label := CodeModel.label
  title := "code model"
  spellings m := [m.label]

/-- How much the backend optimizes. -/
inductive OptimizationLevel where
  | none
  | less
  | default
  | aggressive
  deriving DecidableEq, Repr

namespace OptimizationLevel

def label : OptimizationLevel → String
  | none => "none"
  | less => "less"
  | default => "default"
  | aggressive => "aggressive"

def number : OptimizationLevel → Nat
  | none => 0
  | less => 1
  | default => 2
  | aggressive => 3

end OptimizationLevel

instance : Setting OptimizationLevel where
  values := [.none, .less, .default, .aggressive]
  label := OptimizationLevel.label
  title := "optimization level"
  spellings l := [l.label, toString l.number]

/-- Whether generated code must be independent of its position. -/
inductive RelocationModel where
  /-- The backend chooses. -/
  | default
  | static
  | pic
  | dynamicNoPic
  deriving DecidableEq, Repr

namespace RelocationModel

def label : RelocationModel → String
  | default => "default"
  | static => "static"
  | pic => "pic"
  | dynamicNoPic => "dynamic-no-pic"

end RelocationModel

instance : Setting RelocationModel where
  values := [.default, .static, .pic, .dynamicNoPic]
  label := RelocationModel.label
  title := "relocation model"
  spellings
    | .dynamicNoPic => ["dynamic-no-pic", "dynamic_no_pic"]
    | m => [m.label]

/-- How floating-point values are passed. -/
inductive FloatAbi where
  | default
  | soft
  | hard
  deriving DecidableEq, Repr

instance : Enumerated FloatAbi where
  values := [.default, .soft, .hard]
  label
    | .default => "default"
    | .soft => "soft"
    | .hard => "hard"

/-- Options that are passed to the backend as they are. All start at their default or off. -/
structure TargetOptions where
  floatAbi : FloatAbi := .default
  noFramePointerElim : Bool := false
  unsafeFpMath : Bool := false
  noInfsFpMath : Bool := false
  noNansFpMath : Bool := false
  useInitArray : Bool := false
  functionSections : Bool := false
  dataSections : Bool := false
  emulatedTls : Bool := false
  deriving DecidableEq, Repr

end TargetConfig
