import TargetConfig.CommandLine

/-! # The program

The outer layer: it looks at the files that a command needs, runs the command on what it saw, prints
what the command says, and writes the file that a `template` command adds.
-/

namespace TargetConfig.Main

/-- What a look at a path shows. -/
inductive Sight where
  | found (location : Location) (node : FileNode)
  /-- The last step of the path starts from a directory that may not be searched. -/
  | closed
  | tooManyLinks
  | nothing

/-- Whether a path leads to a directory, given that it leads to something. -/
def leadsToDirectory (path : String) : IO Bool := do
  match ← (IO.FS.Handle.mk (path ++ "/.") .read).toBaseIO with
  | .error (.inappropriateType _ _ _) => return false
  | _ => return true

/-- Looks at what is at a path, of which the location is given for the case that no link is on the
way. The entries of a directory are left out. -/
def look (path : String) (location : Location) : IO Sight := do
  let real ← (IO.FS.realPath path).toBaseIO
  let location := match real with
    | .ok real => (Path.mk (toString real)).steps
    | .error _ => location
  match ← (IO.FS.Handle.mk path .read).toBaseIO, real with
  | .ok handle, _ =>
    match ← handle.readBinToEnd.toBaseIO with
    | .ok content => return .found location (.file content)
    | .error _ => return .found location (.directory [])
  | .error (.permissionDenied _ _ _), .ok _ =>
    -- it is there, and so it is its own rights that keep it from being read
    if ← leadsToDirectory path then return .found location (.directory [] { read := false })
    else return .found location (.file .empty { read := false })
  | .error (.permissionDenied _ _ _), .error _ => return .closed
  | .error (.invalidArgument _ 40 _), _ => return .tooManyLinks
  | .error _, _ => return .nothing

/-- Puts a node at a place. -/
def put (tree : FileTree) (location : Location) (node : FileNode) : FileTree :=
  ⟨FileNode.set node location tree.root⟩

/-- Takes rights away from the directory at a place. -/
def restrict (tree : FileTree) (location : Location) (change : Access → Access) : FileTree :=
  match tree.root.get? location with
  | some (.directory entries access) => put tree location (.directory entries (change access))
  | _ => tree

/-- Adds what steps come by to a tree, as far as they lead. -/
def addSteps (tree : FileTree) (location : Location) (path : String) : List String → IO FileTree
  | [] => return tree
  | step :: steps => do
    let path := path ++ step
    let next :=
      if step = "." then location else if step = ".." then location.dropLast
      else location ++ [step]
    match ← look path next with
    | .found place node =>
      let tree := if place = next then tree else put tree next (.link (.ofSegments ("" :: place)))
      let tree := if (tree.root.get? place).isSome then tree else put tree place node
      addSteps tree place (path ++ "/") steps
    | .closed => return restrict tree location ({ · with search := false })
    | .tooManyLinks => return put tree next (.link ⟨step⟩)
    | .nothing => return tree

/-- The tree that a command works on. -/
def treeFor (cwd : WorkingDirectory) (invocation : CommandLine.Invocation) : IO FileTree := do
  let mut tree := put ⟨.directory []⟩ cwd.place.names (.directory [])
  for path in invocation.paths cwd do
    if path.isAbsolute then tree ← addSteps tree [] "/" path.steps
    else tree ← addSteps tree cwd.place.names "./" path.steps
  return tree

/-- Writes the files that are new in a tree. If that is refused, the tree was another one than it
looked like, and this is the result. -/
def writeNew (before after : FileTree) : IO (Option FileTree) := do
  for (names, content) in after.files do
    if (before.root.get? names).isNone then
      match ← (IO.FS.writeBinFile (String.join (names.map ("/" ++ ·))) content).toBaseIO with
      | .ok () => pure ()
      | .error (.permissionDenied _ _ _) =>
        return some (restrict before names.dropLast ({ · with write := false }))
      | .error (.noFileOrDirectory _ _ _) =>
        -- what looked like nothing was a link, and it leads nowhere
        return some (put before names (.link ⟨""⟩))
      | .error error => throw error
  return none

def run (cwd : WorkingDirectory) (arguments : List String) : IO UInt32 := do
  match CommandLine.parse arguments with
  | none =>
    IO.eprintln "error: the arguments are not understood"
    return 2
  | some invocation =>
    let tree ← treeFor cwd invocation
    let exit := CommandLine.run tree cwd arguments
    let exit := match ← writeNew tree exit.tree with
      | none => exit
      | some tree => CommandLine.run tree cwd arguments
    IO.print exit.stdout
    IO.eprint exit.stderr
    return exit.status.toUInt32

end TargetConfig.Main

def main (arguments : List String) : IO UInt32 := do
  let cwd := toString (← IO.currentDir)
  match TargetConfig.Directory.ofNames? (TargetConfig.Path.mk cwd).steps with
  | some directory => TargetConfig.Main.run directory.toWorkingDirectory arguments
  | none =>
    IO.eprintln ("error: no working directory: " ++ cwd)
    return 1
