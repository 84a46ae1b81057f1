import TargetConfig.Text

/-! # Feature toggles

The backend takes processor features as one text of toggles with commas between them, each `+name`
to enable or `-name` to disable a feature. `joinFeatures` makes that text and `splitFeatures` takes
it apart. `issues` lists what is wrong with the entries of a list: one issue for each entry that is
no toggle, namely the first rule that the entry breaks.
-/

namespace TargetConfig

open Text

/-- The text of a list of toggles. -/
def joinFeatures (features : List String) : String :=
  String.ofList (join ',' (features.map String.toList))

/-- The toggles of a text; the empty text has none. -/
def splitFeatures (s : String) : List String :=
  if s.isEmpty then [] else (split ',' s.toList).map String.ofList

/-- The toggles that a flag gives: the pieces between commas without white space at their ends, and
without those of which nothing is left. -/
def featuresOfFlag (s : String) : List String :=
  (((split ',' s.toList).map trim).filter (!·.isEmpty)).map String.ofList

def hasSign (feature : String) : Bool :=
  match feature.toList with
  | c :: _ => c = '+' || c = '-'
  | [] => false

/-- What can be wrong with an entry. -/
inductive FeatureFault where
  | noSign
  | noName
  | comma
  | blank
  deriving DecidableEq, Repr

def FeatureFault.message (feature : String) : FeatureFault → String
  | noSign => "feature '" ++ feature ++ "' must start with '+' or '-'"
  | noName => "feature '" ++ feature ++ "' has no name"
  | comma => "feature '" ++ feature ++ "' contains ','"
  | blank => "feature '" ++ feature ++ "' contains whitespace"

/-- The first fault of an entry. -/
def fault? (feature : String) : Option FeatureFault :=
  if hasSign feature then
    let name := feature.toList.drop 1
    if name.isEmpty then some .noName
    else if name.contains ',' then some .comma
    else if name.any isBlank then some .blank
    else none
  else some .noSign

/-- A faulty entry of a list, with its position. -/
structure FeatureIssue where
  index : Nat
  feature : String
  fault : FeatureFault
  deriving DecidableEq, Repr

def FeatureIssue.message (issue : FeatureIssue) : String := issue.fault.message issue.feature

/-- The issues of a list whose first entry has the given position. -/
def issuesFrom (start : Nat) : List String → List FeatureIssue
  | [] => []
  | feature :: features =>
    match fault? feature with
    | some fault => ⟨start, feature, fault⟩ :: issuesFrom (start + 1) features
    | none => issuesFrom (start + 1) features

def featureIssues (features : List String) : List FeatureIssue := issuesFrom 0 features

end TargetConfig
