import TargetConfig.Text

/-! # Paths and directories

A path is a text with slashes between its steps; it is shown as it was given. The directories around
a path are read off its text: `parents` drops one step after the other and follows none of them, so
`a/..` lies in `a`. A `Directory` is the location of a directory: the names that lead to it from the
root. A command works in a directory that is known by some path, which need not be the shortest one.
-/

namespace TargetConfig

open Text

/-- A path as it was given. -/
structure Path where
  text : String
  deriving DecidableEq, Repr

namespace Path

def isAbsolute (path : Path) : Bool := path.text.toList.head? = some '/'

/-- Whether the path ends in a slash, and so must lead to a directory. -/
def endsInSlash (path : Path) : Bool := path.text.toList.getLast? = some '/'

/-- What stands between the slashes of the path. An absolute path has nothing before its first
slash. -/
def segments (path : Path) : List String := (split '/' path.text.toList).map String.ofList

def ofSegments (segments : List String) : Path :=
  ⟨String.ofList (join '/' (segments.map String.toList))⟩

/-- The steps of the path, of which `.` and `..` are not names. -/
def steps (path : Path) : List String := path.segments.filter (!·.isEmpty)

/-- The path of a name in the directory that this path leads to. -/
def child (path : Path) (name : String) : Path :=
  if path.text.isEmpty || path.endsInSlash then ⟨path.text ++ name⟩
  else ⟨path.text ++ "/" ++ name⟩

/-- Whether dropping a segment that comes after others leads one directory up. A `.` does not,
unless the path starts with it. -/
def isLevel (before : List String) (segment : String) : Bool :=
  !segment.isEmpty && (segment ≠ "." || before.isEmpty)

/-- The beginnings of a list of segments that end in a level, the shortest first, after the segments
that come before the list. -/
def levels (before : List String) : List String → List (List String)
  | [] => []
  | segment :: segments =>
    let here := before ++ [segment]
    if isLevel before segment then here :: levels here segments else levels here segments

/-- Where the path starts: the root or, for a path that is not absolute, the empty path. -/
def origin (path : Path) : Path := if path.isAbsolute then ⟨"/"⟩ else ⟨""⟩

/-- The directories around the path, from the innermost to where the path starts. -/
def parents (path : Path) : List Path :=
  (path.origin :: (levels [] path.segments).map ofSegments).dropLast.reverse

/-- The path itself and then the directories around it. -/
def upward (path : Path) : List Path := path :: path.parents

end Path

/-- Whether a text can be the name of a directory entry: it has no slash and no NUL in it, and it is
neither empty nor one of the two steps with a meaning of their own. -/
def IsName (s : String) : Prop :=
  s ≠ "" ∧ s ≠ "." ∧ s ≠ ".." ∧ '/' ∉ s.toList ∧ '\x00' ∉ s.toList

instance (s : String) : Decidable (IsName s) := inferInstanceAs (Decidable (_ ∧ _))

/-- The names on the way from the root to a directory. -/
structure Directory where
  names : List String
  isName : ∀ name ∈ names, IsName name
  deriving DecidableEq

namespace Directory

/-- The directory that names lead to, if all of them are names. -/
def ofNames? (names : List String) : Option Directory :=
  if h : ∀ name ∈ names, IsName name then some ⟨names, h⟩ else none

/-- The absolute path that leads to a directory by nothing but names. -/
def path (directory : Directory) : Path :=
  .ofSegments ("" :: if directory.names.isEmpty then [""] else directory.names)

end Directory

/-- The directory that a command works in. Paths that are not absolute start from its place; the
search for files goes up from its path, by which it is also shown. -/
structure WorkingDirectory where
  place : Directory
  path : Path
  deriving DecidableEq

/-- The directory to work in that is known by its names. -/
def Directory.toWorkingDirectory (directory : Directory) : WorkingDirectory :=
  ⟨directory, directory.path⟩

end TargetConfig
