import TargetConfig.Proofs.Command.Traces
import TargetConfig.Proofs.FileTree.Search
import TargetConfig.Proofs.FileTree.Spelling
import TargetConfig.Proofs.Profile.RoundTrip
import TargetConfig.Proofs.Request.Start

/-! # A template stands for its triple

After `template` has written its file, a search that comes by the directory finds the profile of the
triple in it, and a request that is left to this file has the outcome of one with the triple.
-/

namespace TargetConfig

/-- The way up from a working directory comes by another one, after the directories that are nearer.
The path there need not be spelled like that of the other, as long as the file in it can be asked
for: only a path that is too long cannot. -/
structure WorkingDirectory.Passes (inner outer : WorkingDirectory) (nearer : List Path)
    (directory : Path) : Prop where
  upward : ∃ farther, inner.path.upward = nearer ++ directory :: farther
  alike : outer.path.Alike directory
  place : outer.path.isAbsolute = true ∨ inner.place = outer.place
  short : directory = outer.path ∨ directory = outer.path.trimmed ∨
    ∃ origin, FileTree.start inner.place.names (directory.child configFileName) = .ok origin

/-- Names lead from a working directory to one from which the way up comes by it, after one directory
for each name. -/
theorem WorkingDirectory.passes_foldl_child {inner cwd : WorkingDirectory} {names : List String}
    (hnames : ∀ name ∈ names, IsName name) (hpath : inner.path = names.foldl Path.child cwd.path)
    (hplace : cwd.path.isAbsolute = true ∨ inner.place = cwd.place) :
    inner.Passes cwd (inner.path.upward.take names.length)
      (if names.isEmpty then cwd.path else cwd.path.trimmed) := by
  have hdrop := cwd.path.drop_upward_foldl_child hnames
  rw [← hpath] at hdrop
  refine ⟨⟨cwd.path.parents, ?_⟩, ?_, hplace, ?_⟩
  · rw [← hdrop, List.take_append_drop]
  · split
    next => exact ⟨rfl, rfl⟩
    next => exact cwd.path.alike_trimmed
  · split
    next => exact Or.inl rfl
    next => exact Or.inr (Or.inl rfl)

namespace FileTree

/-- A file of the conventional name is found when the way up comes by its directory. -/
theorem locate_of_passes {tree : FileTree} {inner outer : WorkingDirectory} {nearer : List Path}
    {directory : Path} (hpasses : inner.Passes outer nearer directory) {location : Location}
    (hlocate : tree.locate outer.place (outer.path.child configFileName) = .ok location) :
    tree.locate inner.place (directory.child configFileName) = .ok location := by
  have hinner : tree.locate inner.place (outer.path.child configFileName) = .ok location := by
    rcases hpasses.place with habsolute | hplace
    · rw [← Path.isAbsolute_child _ isName_configFileName] at habsolute
      rw [locate_eq_of_isAbsolute habsolute tree inner.place outer.place, hlocate]
    · rw [hplace, hlocate]
  have hstart : ∃ origin, start inner.place.names (directory.child configFileName) = .ok origin := by
    obtain ⟨origin, _, hstart, _⟩ := locate_eq_ok_iff.mp hinner
    rcases hpasses.short with rfl | rfl | hshort
    · exact ⟨origin, hstart⟩
    · exact ⟨origin, start_trimmed_child isName_configFileName hstart⟩
    · exact hshort
  obtain ⟨origin, hstart⟩ := hstart
  exact locate_child_of_alike hpasses.alike isName_configFileName hstart hinner

theorem discover_of_read {tree : FileTree} {cwd : WorkingDirectory} {directory : Path}
    {text : String} {profile : Profile} (hnearest : tree.nearest? cwd = some directory)
    (hread : tree.read cwd.place (directory.child configFileName) = .ok text)
    (hparse : Profile.parse text = .ok profile) :
    tree.discover cwd = .ok (some (profile, directory)) := by
  simp only [discover, hnearest, profileIn, hread, hparse, Attempt.mapError_ok]
  rfl

/-- A new file of the conventional name is found from every working directory that is further inside
and has no such file nearer. -/
theorem Added.discover {before after : FileTree} {location : Location} {profile : Profile}
    (hadded : Added before location profile.render.toUTF8 after)
    {inner outer : WorkingDirectory} {nearer : List Path} {directory : Path}
    (hpasses : inner.Passes outer nearer directory)
    (hlocate : after.locate outer.place (outer.path.child configFileName) = .ok location)
    (hnearer : ∀ other ∈ nearer,
      after.containsFile inner.place (other.child configFileName) = false) :
    after.discover inner = .ok (some (profile, directory)) := by
  have hfound := locate_of_passes hpasses hlocate
  have hfile : after.containsFile inner.place (directory.child configFileName) = true := by
    simp only [containsFile, hfound]
    exact isFileAt_iff.mpr ⟨_, _, (hadded.occupant? location).trans (if_pos rfl)⟩
  obtain ⟨farther, hupward⟩ := hpasses.upward
  apply discover_of_read (nearest?_eq_some hupward hnearer hfile) (hadded.read hfound)
  exact Profile.parse_of_document profile.document_parse_render profile.ofEntries_table

end FileTree

namespace Request

theorem baseProfile_of_discover {request : Request} (hconfig : request.config = none)
    (htriple : request.triple = none) {tree : FileTree} {cwd : WorkingDirectory}
    {profile : Profile} {directory : Path}
    (hdiscover : tree.discover cwd = .ok (some (profile, directory))) :
    (request.baseProfile tree cwd).result = .ok profile := by
  rw [baseProfile_of_search hconfig htriple, hdiscover]
  rfl

/-- The triple of a request is used for nothing but the profile that it starts from. -/
theorem result_resolve_triple {request : Request} {triple : Option String}
    {tree elsewhere : FileTree} {cwd place : WorkingDirectory}
    (hbase : (request.baseProfile tree cwd).result =
      (baseProfile { request with triple } elsewhere place).result)
    (lookup : String → Option Handle) :
    (request.resolve lookup tree cwd).result =
      (resolve { request with triple } lookup elsewhere place).result :=
  result_resolve_of_baseProfile hbase lookup

/-- A search that finds the profile of a triple with every setting open makes the triple itself
needless. -/
theorem result_resolve_of_discover {tree : FileTree} {cwd : WorkingDirectory} {triple : String}
    {directory : Path}
    (hdiscover : tree.discover cwd =
      .ok (some (Profile.ofConfig (Config.new triple), directory)))
    {request : Request} (hconfig : request.config = none) (htriple : request.triple = none)
    (lookup : String → Option Handle) :
    (request.resolve lookup tree cwd).result =
      (resolve { request with triple := some triple } lookup tree cwd).result := by
  apply result_resolve_triple
  rw [baseProfile_of_discover hconfig htriple hdiscover, baseProfile_of_triple hconfig]

theorem discover_of_template {tree : FileTree} {cwd : WorkingDirectory} {triple : String}
    (hok : ((Command.template (some triple) none).run tree cwd).result = .ok ())
    {inner : WorkingDirectory} {nearer : List Path} {directory : Path}
    (hpasses : inner.Passes cwd nearer directory)
    (hnearer : ∀ other ∈ nearer,
      ((Command.template (some triple) none).run tree cwd).tree.containsFile inner.place
        (other.child configFileName) = false) :
    ((Command.template (some triple) none).run tree cwd).tree.discover inner =
      .ok (some (Profile.ofConfig (Config.new triple), directory)) := by
  obtain ⟨_, location, hadded, hlocate⟩ := (Command.run_effect tree cwd _).added hok
  exact hadded.discover hpasses hlocate hnearer

/-- Once a template is written for a triple, the search from each working directory at or below that
of the command ends at its file, unless there is a nearer one. What it finds is the profile of the
triple with every setting open, and so a request that names neither a file nor a triple has the same
result, with any backends, as the request that names the triple. -/
theorem resolve_eq_of_template {tree : FileTree} {cwd : WorkingDirectory} {triple : String}
    (hok : ((Command.template (some triple) none).run tree cwd).result = .ok ())
    {inner : WorkingDirectory} {nearer : List Path} {directory : Path}
    (hpasses : inner.Passes cwd nearer directory)
    (hnearer : ∀ other ∈ nearer,
      ((Command.template (some triple) none).run tree cwd).tree.containsFile inner.place
        (other.child configFileName) = false) :
    let after := ((Command.template (some triple) none).run tree cwd).tree
    after.discover inner = .ok (some (Profile.ofConfig (Config.new triple), directory)) ∧
      ∀ (request : Request) (lookup : String → Option Handle),
        request.config = none → request.triple = none →
          (request.resolve lookup after inner).result =
            (resolve { request with triple := some triple } lookup after inner).result := by
  intro after
  have hdiscover := discover_of_template hok hpasses hnearer
  refine ⟨hdiscover, ?_⟩
  intro request lookup hconfig htriple
  exact result_resolve_of_discover hdiscover hconfig htriple lookup

/-- The working directory is spelled with a dot, the path from inside with two slashes, and there a
directory of the conventional name is nearer. None of this keeps the file from being found. -/
theorem resolve_eq_of_template_inside :
    let tree : FileTree := ⟨.directory [("work", .directory [("box", .directory
      [("sub", .directory [("bcc.toml", .directory []), ("deep", .directory [])])])])]⟩
    let place : Directory := ⟨[], by simp⟩
    let cwd : WorkingDirectory := ⟨place, ⟨"/work/./box"⟩⟩
    let inner : WorkingDirectory := ⟨place, ⟨"/work//box/sub/deep"⟩⟩
    let nearer : List Path := [⟨"/work//box/sub/deep"⟩, ⟨"/work//box/sub"⟩]
    let command : Command := .template (some "arm\"\n-none") none
    let after := (command.run tree cwd).tree
    let request : Request := { cpu := some "generic", features := some "+neon" }
    (command.run tree cwd).result = .ok () ∧ inner.Passes cwd nearer ⟨"/work//box"⟩ ∧
      (∀ other ∈ nearer,
        after.containsFile inner.place (other.child configFileName) = false) ∧
      after.discover inner =
        .ok (some (Profile.ofConfig (Config.new "arm\"\n-none"), ⟨"/work//box"⟩)) ∧
      (request.resolve Registry.full.lookup after inner).result =
        (resolve { request with triple := some "arm\"\n-none" } Registry.full.lookup after
          inner).result := by
  intro tree place cwd inner nearer command after request
  have hok : (command.run tree cwd).result = .ok () := by decide +kernel
  have hpasses : inner.Passes cwd nearer ⟨"/work//box"⟩ := by
    refine ⟨⟨[⟨"/work"⟩, ⟨"/"⟩], ?_⟩, ⟨?_, ?_⟩, Or.inr rfl, Or.inr (Or.inr ⟨[], ?_⟩)⟩
    · decide +kernel
    · decide +kernel
    · decide +kernel
    · decide +kernel
  have hnearer : ∀ other ∈ nearer,
      after.containsFile inner.place (other.child configFileName) = false := by decide +kernel
  obtain ⟨hdiscover, hresolve⟩ := resolve_eq_of_template hok hpasses hnearer
  exact ⟨hok, hpasses, hnearer, hdiscover, hresolve request _ rfl rfl⟩

/-- The file counts in every directory that names lead to from that of the command, as long as none
of the directories on these names has a file of its own. -/
theorem resolve_eq_below_template {tree : FileTree} {cwd : WorkingDirectory} {triple : String}
    (hok : ((Command.template (some triple) none).run tree cwd).result = .ok ())
    {inner : WorkingDirectory} {names : List String} (hnames : ∀ name ∈ names, IsName name)
    (hpath : inner.path = names.foldl Path.child cwd.path)
    (hplace : cwd.path.isAbsolute = true ∨ inner.place = cwd.place)
    (hnearer : ∀ other ∈ inner.path.upward.take names.length,
      ((Command.template (some triple) none).run tree cwd).tree.containsFile inner.place
        (other.child configFileName) = false) :
    let after := ((Command.template (some triple) none).run tree cwd).tree
    after.discover inner = .ok (some (Profile.ofConfig (Config.new triple),
        if names.isEmpty then cwd.path else cwd.path.trimmed)) ∧
      ∀ (request : Request) (lookup : String → Option Handle),
        request.config = none → request.triple = none →
          (request.resolve lookup after inner).result =
            (resolve { request with triple := some triple } lookup after inner).result := by
  intro after
  have hpasses := WorkingDirectory.passes_foldl_child hnames hpath hplace
  have hdiscover := discover_of_template hok hpasses hnearer
  refine ⟨hdiscover, ?_⟩
  intro request lookup hconfig htriple
  exact result_resolve_of_discover hdiscover hconfig htriple lookup

end Request

end TargetConfig
