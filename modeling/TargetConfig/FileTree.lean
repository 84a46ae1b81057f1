import TargetConfig.Error
import TargetConfig.FileTree.Path

/-! # File trees

The state of a file system, as a value: directories with named entries, files with bytes, and links
that stand for paths. A path is followed step by step, from the root or from the place of the
working directory. A step fails if it starts from something that is no directory or from a directory
that may not be searched, and a step other than the last one fails if there is nothing at its end;
`..` at the root stays there. A link is followed from the directory that it is in. Forty links are
followed on one way, and no more.

Whether a path leads to something is decided by its lookup alone. If that fails, for whatever
reason, there is nothing at the path.
-/

namespace TargetConfig

/-- What may be done with a file or a directory. The entries of a directory are found by whoever may
search it, and new ones are made by whoever may also write to it. -/
structure Access where
  read : Bool := true
  write : Bool := true
  search : Bool := true
  deriving DecidableEq, Repr

/-- A file with its bytes, a directory with its entries, or a link to what a path leads to. -/
inductive FileNode where
  | file (content : ByteArray) (access : Access := {})
  | directory (entries : List (String × FileNode)) (access : Access := {})
  | link (path : Path)

namespace FileNode

/-- The node that names lead to. -/
def get? (node : FileNode) : List String → Option FileNode
  | [] => some node
  | name :: names =>
    match node with
    | file _ _ | link _ => none
    | directory entries _ =>
      match entries.lookup name with
      | some next => next.get? names
      | none => none

/-- The entries with another node under a name. -/
def setEntry (name : String) (node : FileNode) :
    List (String × FileNode) → List (String × FileNode)
  | [] => [(name, node)]
  | entry :: entries =>
    if entry.1 = name then (name, node) :: entries else entry :: setEntry name node entries

/-- Puts a node where names lead. Directories that are missing on the way come into being; nothing
changes if there is something else on the way. -/
def set (new : FileNode) : List String → FileNode → FileNode
  | [], _ => new
  | name :: names, directory entries access =>
    let old := (entries.lookup name).getD (directory [])
    directory (setEntry name (set new names old) entries) access
  | _ :: _, file content access => file content access
  | _ :: _, link path => link path

def isDirectory : FileNode → Bool
  | directory _ _ => true
  | file _ _ | link _ => false

def isFile : FileNode → Bool
  | file _ _ => true
  | directory _ _ | link _ => false

/-- What may be done with a node. A link is only ever followed. -/
def access : FileNode → Access
  | file _ access | directory _ access => access
  | link _ => {}

end FileNode

/-- The state of a file system: the root directory. -/
structure FileTree where
  root : FileNode

/-- A place in a file tree, as the names that lead there from the root. -/
abbrev Location := List String

/-- How far steps have been taken: all of them, or up to a link in a directory, with the others still
to be taken. -/
inductive Progress where
  | arrived (location : Location)
  | link (parent : Location) (path : Path) (rest : List String)

/-- Where a way leads. There need not be anything. -/
structure Arrival where
  location : Location
  /-- Whether the path ends in a slash, or a link at its end does, and so asks for a directory. -/
  slash : Bool

namespace FileTree

/-- The greatest number of bytes in a name. -/
def nameLimit : Nat := 255

/-- The greatest number of bytes in a path. -/
def pathLimit : Nat := 4095

/-- The greatest number of links on one way. -/
def linkLimit : Nat := 40

def isDirectoryAt (tree : FileTree) (location : Location) : Bool :=
  (tree.root.get? location).any FileNode.isDirectory

def isFileAt (tree : FileTree) (location : Location) : Bool :=
  (tree.root.get? location).any FileNode.isFile

/-- What may be done with what is at a place. A new file there could be read and written. -/
def accessAt (tree : FileTree) (location : Location) : Access :=
  ((tree.root.get? location).map FileNode.access).getD {}

/-- Where one step leads from a directory, without looking whether anything is there. -/
def target (tree : FileTree) (location : Location) (step : String) : Except FileError Location :=
  if !tree.isDirectoryAt location then .error .notDirectory
  else if !(tree.accessAt location).search then .error .permissionDenied
  else if step = "." then .ok location
  else if step = ".." then .ok location.dropLast
  else if step.utf8ByteSize > nameLimit then .error .nameTooLong
  else .ok (location ++ [step])

/-- Takes steps up to their end or to the first link. -/
def advance (tree : FileTree) (location : Location) : List String → Except FileError Progress
  | [] => return .arrived location
  | step :: steps => do
    let next ← tree.target location step
    match tree.root.get? next with
    | some (.link path) => return .link location path steps
    | some _ => tree.advance next steps
    | none => if steps.isEmpty then return .arrived next else .error .noSuchEntry

/-- Where a path starts that is followed from a place, unless it is refused as a whole. -/
def start (place : Location) (path : Path) : Except FileError Location :=
  if path.text.toList.contains '\x00' then .error .nulInName
  else if path.text.isEmpty then .error .noSuchEntry
  else if path.text.utf8ByteSize > pathLimit then .error .nameTooLong
  else .ok (if path.isAbsolute then [] else place)

/-- Where steps lead, with no more links on the way than the given number. -/
def follow (tree : FileTree) : Nat → Location → List String → Bool → Except FileError Arrival
  | 0, location, steps, slash => do
    match ← tree.advance location steps with
    | .arrived location => return ⟨location, slash⟩
    | .link _ _ _ => .error .tooManyLinks
  | links + 1, location, steps, slash => do
    match ← tree.advance location steps with
    | .arrived location => return ⟨location, slash⟩
    | .link parent path rest =>
      let origin ← start parent path
      tree.follow links origin (path.steps ++ rest) (slash || rest.isEmpty && path.endsInSlash)

/-- Follows a path to something that is there. -/
def locate (tree : FileTree) (place : Directory) (path : Path) : Except FileError Location := do
  let origin ← start place.names path
  let arrival ← tree.follow linkLimit origin path.steps path.endsInSlash
  if (tree.root.get? arrival.location).isNone then .error .noSuchEntry
  else if arrival.slash && !tree.isDirectoryAt arrival.location then .error .notDirectory
  else return arrival.location

/-- Whether there is anything at a path. A path that cannot be followed leads to nothing. -/
def contains (tree : FileTree) (place : Directory) (path : Path) : Bool :=
  match tree.locate place path with
  | .ok _ => true
  | .error _ => false

/-- Whether there is a file at a path. A path that cannot be followed leads to none. -/
def containsFile (tree : FileTree) (place : Directory) (path : Path) : Bool :=
  match tree.locate place path with
  | .ok location => tree.isFileAt location
  | .error _ => false

/-- The text of the file at a path. -/
def read (tree : FileTree) (place : Directory) (path : Path) : Except FileError String := do
  let location ← tree.locate place path
  if !(tree.accessAt location).read then .error .permissionDenied
  else
    match tree.root.get? location with
    | some (.file content _) =>
      match String.fromUTF8? content with
      | some text => return text
      | none => .error .notUtf8
    | some (.directory _ _) => .error .isDirectory
    | some (.link _) => .error .tooManyLinks
    | none => .error .noSuchEntry

/-- The place that a write to a path goes to: a file that may be written, or a new name in a
directory that may be. -/
def writeLocation (tree : FileTree) (place : Directory) (path : Path) :
    Except FileError Location := do
  let origin ← start place.names path
  match path.steps.getLast? with
  | none => .error .isDirectory
  | some _ =>
    if path.endsInSlash then
      -- the last name is not looked for
      let _ ← tree.follow linkLimit origin (path.steps.dropLast ++ ["."]) false
      .error .isDirectory
    else
      let ⟨location, slash⟩ ← tree.follow linkLimit origin path.steps false
      if slash || tree.isDirectoryAt location then .error .isDirectory
      else if !(tree.accessAt location).write then .error .permissionDenied
      else if (tree.root.get? location).isNone && !(tree.accessAt location.dropLast).write then
        .error .permissionDenied
      else return location

/-- Writes a text to a path. What was in a file there is replaced. -/
def write (tree : FileTree) (place : Directory) (path : Path) (text : String) :
    Except FileError FileTree := do
  let location ← tree.writeLocation place path
  return ⟨FileNode.set (.file text.toUTF8 (tree.accessAt location)) location tree.root⟩

mutual

/-- Every file below a node, with the names that lead to it. -/
def filesBelow (names : List String) : FileNode → List (List String × ByteArray)
  | .file content _ => [(names, content)]
  | .directory entries _ => filesAmong names entries
  | .link _ => []

/-- Every file below the entries of a directory. -/
def filesAmong (names : List String) :
    List (String × FileNode) → List (List String × ByteArray)
  | [] => []
  | (name, node) :: entries => filesBelow (names ++ [name]) node ++ filesAmong names entries

end

/-- Every file of the tree, with the names that lead to it. -/
def files (tree : FileTree) : List (List String × ByteArray) := filesBelow [] tree.root

end FileTree

end TargetConfig
