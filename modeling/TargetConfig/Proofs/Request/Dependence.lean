import TargetConfig.Proofs.FileTree.Search
import TargetConfig.Proofs.Request.Resolution

/-! # What a request depends on

A request looks at no more of a file tree than the one file that it starts from. With a triple and
no file it looks at nothing; a named file is looked at and no other; and the search for the nearest
file stops there. Whatever else is in the tree makes no difference, not even for an error.
-/

namespace TargetConfig.Request

/-- Two file trees look the same to a request from a working directory. -/
inductive LooksSame (request : Request) (cwd : WorkingDirectory) (first second : FileTree) : Prop
  /-- Nothing is looked at, given a triple and no file. -/
  | nothing {triple : String} (hconfig : request.config = none)
      (htriple : request.triple = some triple)
  /-- The named file is there in both trees or in neither, and reads as the same. -/
  | named {path : Path} (hconfig : request.config = some path)
      (hcontains : first.contains cwd.place path = second.contains cwd.place path)
      (hread : first.read cwd.place path = second.read cwd.place path)
  /-- The same directories have a file, up to the nearest one, and this file reads as the same. -/
  | nearest (hconfig : request.config = none) (htriple : request.triple = none)
      (hfiles : ∀ directory ∈ first.lookedInto cwd,
        first.containsFile cwd.place (directory.child configFileName) =
          second.containsFile cwd.place (directory.child configFileName))
      (hread : ∀ directory, first.nearest? cwd = some directory →
        first.read cwd.place (directory.child configFileName) =
          second.read cwd.place (directory.child configFileName))

theorem LooksSame.startingProfile_eq {request : Request} {cwd : WorkingDirectory}
    {first second : FileTree} (hsame : LooksSame request cwd first second) :
    request.startingProfile first cwd = request.startingProfile second cwd := by
  unfold startingProfile
  cases hsame with
  | nothing hconfig htriple => rw [hconfig, htriple]
  | named hconfig hcontains hread =>
      rw [hconfig]
      dsimp only
      rw [FileTree.load_congr hcontains hread]
  | nearest hconfig htriple hfiles hread =>
      rw [hconfig, htriple]
      dsimp only
      rw [FileTree.discover_congr hfiles hread]

theorem profile_congr {request : Request} {first second : FileTree} {cwd : WorkingDirectory}
    (hstart : request.startingProfile first cwd = request.startingProfile second cwd) :
    request.profile first cwd = request.profile second cwd := by
  unfold Request.profile baseProfile
  rw [hstart]

/-- File trees that look the same to a request give it the same outcome, with the same failure and
the same log. -/
theorem resolve_eq_of_looksSame {request : Request} {cwd : WorkingDirectory}
    {first second : FileTree} (hsame : LooksSame request cwd first second)
    (lookup : String → Option Handle) :
    request.resolve lookup first cwd = request.resolve lookup second cwd :=
  resolve_congr (profile_congr hsame.startingProfile_eq) rfl

/-- A malformed file above the nearest one, which only the first tree has, makes no difference:
neither to a search, nor to a request for the nearest file by name, nor to one for a triple. -/
theorem resolve_eq_of_looksSame_above :
    let file : FileNode := .file "triple = \"arm-none\"\n".toUTF8
    let first : FileTree := ⟨.directory
      [("bcc.toml", .file "triple = [".toUTF8), ("work", .directory [("bcc.toml", file)])]⟩
    let second : FileTree :=
      ⟨.directory [("work", .directory [("more", file), ("bcc.toml", file)])]⟩
    let work : WorkingDirectory := ⟨⟨["work"], by decide⟩, ⟨"/work"⟩⟩
    let named : Request := { config := some ⟨"/work/bcc.toml"⟩, cpu := some "generic" }
    let direct : Request := { triple := some "mips-none", codeModel := some "none" }
    LooksSame {} work first second ∧
      resolve {} Registry.full.lookup first work = resolve {} Registry.full.lookup second work ∧
      named.resolve Registry.full.lookup first work =
        named.resolve Registry.full.lookup second work ∧
      direct.resolve Registry.full.lookup first work =
        direct.resolve Registry.full.lookup second work := by
  intro file first second work named direct
  have hread : first.read work.place ⟨"/work/bcc.toml"⟩ =
      second.read work.place ⟨"/work/bcc.toml"⟩ :=
    rfl
  have hsearch : LooksSame {} work first second := by
    apply LooksSame.nearest rfl rfl
    · have hlooked : first.lookedInto work = [⟨"/work"⟩] := by decide +kernel
      rw [hlooked]
      decide +kernel
    · have hnearest : first.nearest? work = some ⟨"/work"⟩ := by decide +kernel
      intro directory hdirectory
      obtain rfl := Option.some.inj (hnearest.symm.trans hdirectory)
      exact hread
  refine ⟨hsearch, resolve_eq_of_looksSame hsearch _, ?_, ?_⟩
  · exact resolve_eq_of_looksSame (.named rfl rfl hread) _
  · exact resolve_eq_of_looksSame (.nothing rfl rfl) _

end TargetConfig.Request
