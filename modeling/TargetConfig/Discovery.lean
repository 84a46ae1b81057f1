import TargetConfig.Failure
import TargetConfig.Profile.Toml

/-! # Finding configuration files

A configuration file is either named, or it is the nearest file of the conventional name: in the
working directory, or else in the first of the directories around its path that has one. A directory
has one if the lookup of its path succeeds and ends at a file; the search goes on after a lookup
that fails, whatever the reason. A nearest file that cannot be read is a failure: there the search
does not go on to another file.
-/

namespace TargetConfig

/-- The conventional name of a configuration file. -/
def configFileName : String := "bcc.toml"

namespace FileTree

/-- The profile in a named file. -/
def loadProfile (tree : FileTree) (cwd : WorkingDirectory) (path : Path) :
    Except ConfigError Profile :=
  if tree.contains cwd.place path then
    match tree.read cwd.place path with
    | .ok text => Profile.parse text
    | .error error => .error (.file error)
  else .error (.notFound path.text)

/-- The profile in a file that a command was told to use. -/
def load (tree : FileTree) (cwd : WorkingDirectory) (path : Path) : Except Failure Profile :=
  (tree.loadProfile cwd path).mapError fun error => .during .loading path (.target error)

/-- The nearest directory, from the working directory up to where its path starts, that has a file
of the conventional name. -/
def nearest? (tree : FileTree) (cwd : WorkingDirectory) : Option Path :=
  cwd.path.upward.find? fun directory =>
    tree.containsFile cwd.place (directory.child configFileName)

/-- The profile in the file of the conventional name in a directory. -/
def profileIn (tree : FileTree) (cwd : WorkingDirectory) (directory : Path) :
    Except Failure Profile :=
  let path := directory.child configFileName
  match tree.read cwd.place path with
  | .error error => .error (.during .reading path (.file error))
  | .ok text => (Profile.parse text).mapError fun error => .during .parsing path (.target error)

/-- The profile in the nearest file of the conventional name, with the directory of that file. -/
def discover (tree : FileTree) (cwd : WorkingDirectory) :
    Except Failure (Option (Profile × Path)) :=
  match tree.nearest? cwd with
  | none => .ok none
  | some directory => (tree.profileIn cwd directory).map fun profile => some (profile, directory)

end FileTree

end TargetConfig
