import TargetConfig.CommandLine
import TargetConfig.Proofs.FileTree.Writing

/-! # What commands leave behind

A command that fails has printed nothing and has changed nothing. Of the commands that succeed only
`template` changes the file tree: it adds one file where nothing was. So whatever commands are run
one after the other, a file that was there before them stays as it was.
-/

namespace TargetConfig.Command

/-- The path that `template` writes to. -/
def outputPath (cwd : WorkingDirectory) (output : Option Path) : Path :=
  output.getD (cwd.path.child configFileName)

/-- The text that `template` writes. -/
def templateText (triple : Option String) : String := Profile.template (triple.getD defaultTriple)

/-- All that a run of a command can do: fail, report, or add the file that it was told to write. -/
inductive Effect (tree : FileTree) (cwd : WorkingDirectory) : Command → Outcome → Prop
  | failed {command : Command} (failure : Failure) (events : List Event) :
      Effect tree cwd command ⟨.error failure, "", events, tree⟩
  | reported {command : Command} (hreport : ∀ triple output, command ≠ .template triple output)
      (stdout : String) (events : List Event) :
      Effect tree cwd command ⟨.ok (), stdout, events, tree⟩
  | written {triple : Option String} {output : Option Path} {location : Location}
      {after : FileTree}
      (hfree : tree.contains cwd.place (outputPath cwd output) = false)
      (hadded : tree.Added location (templateText triple).toUTF8 after)
      (hlocate : after.locate cwd.place (outputPath cwd output) = .ok location) :
      Effect tree cwd (.template triple output)
        ⟨.ok (), unlines ["Wrote " ++ (outputPath cwd output).text], [], after⟩

theorem writeTemplate_eq_ok_iff {tree after : FileTree} {cwd : WorkingDirectory}
    {triple : Option String} {output : Option Path} {path : Path} :
    writeTemplate tree cwd triple output = .ok (path, after) ↔
      path = outputPath cwd output ∧ tree.contains cwd.place path = false ∧
        tree.write cwd.place path (templateText triple) = .ok after := by
  change (if tree.contains cwd.place (outputPath cwd output) then _ else _) = _ ↔ _
  split
  next hthere =>
    simp only [reduceCtorEq, false_iff]
    rintro ⟨rfl, hfree, _⟩
    exact absurd (hthere.symm.trans hfree) (by decide)
  next hfree =>
    rw [Bool.not_eq_true] at hfree
    split
    next new hwrite =>
      simp only [Except.ok.injEq, Prod.mk.injEq]
      constructor
      · rintro ⟨rfl, rfl⟩
        exact ⟨rfl, hfree, hwrite⟩
      · rintro ⟨rfl, _, hafter⟩
        exact ⟨rfl, Except.ok.inj (hwrite.symm.trans hafter)⟩
    next error hwrite =>
      simp only [reduceCtorEq, false_iff]
      rintro ⟨rfl, _, hafter⟩
      exact absurd (hwrite.symm.trans hafter) (by simp)

theorem run_effect (tree : FileTree) (cwd : WorkingDirectory) (command : Command) :
    Effect tree cwd command (command.run tree cwd) := by
  cases command with
  | list => exact .reported (by simp) _ _
  | arch triple => exact .reported (by simp) _ _
  | doctor triple => exact .reported (by simp) _ _
  | resolve request =>
      simp only [run]
      split
      next => exact .reported (by simp) _ _
      next => exact .failed _ _
  | template triple output =>
      simp only [run]
      split
      next path after hwritten =>
        obtain ⟨rfl, hfree, hwrite⟩ := writeTemplate_eq_ok_iff.mp hwritten
        obtain ⟨location, hadded, hlocate⟩ := FileTree.write_added hfree hwrite
        exact .written hfree hadded hlocate
      next => exact .failed _ _

namespace Effect

variable {tree : FileTree} {cwd : WorkingDirectory} {command : Command} {outcome : Outcome}

theorem traceless (heffect : Effect tree cwd command outcome) {failure : Failure}
    (hfailed : outcome.result = .error failure) : outcome.stdout = "" ∧ outcome.tree = tree := by
  cases heffect with
  | failed _ _ => exact ⟨rfl, rfl⟩
  | reported _ _ _ => contradiction
  | written _ _ _ => contradiction

theorem tree_eq (heffect : Effect tree cwd command outcome)
    (hreport : ∀ triple output, command ≠ .template triple output) : outcome.tree = tree := by
  cases heffect with
  | failed _ _ => rfl
  | reported _ _ _ => rfl
  | written _ _ _ => exact absurd rfl (hreport _ _)

theorem added {triple : Option String} {output : Option Path}
    (heffect : Effect tree cwd (.template triple output) outcome) (hok : outcome.result = .ok ()) :
    tree.contains cwd.place (outputPath cwd output) = false ∧
      ∃ location, tree.Added location (templateText triple).toUTF8 outcome.tree ∧
        outcome.tree.locate cwd.place (outputPath cwd output) = .ok location := by
  cases heffect with
  | failed _ _ => contradiction
  | reported hreport _ _ => exact absurd rfl (hreport _ _)
  | written hfree hadded hlocate => exact ⟨hfree, _, hadded, hlocate⟩

theorem keeps (heffect : Effect tree cwd command outcome) : tree.Keeps outcome.tree := by
  cases heffect with
  | failed _ _ => exact .refl tree
  | reported _ _ _ => exact .refl tree
  | written _ hadded _ => exact hadded.keeps

end Effect

/-- A failure through the executable. -/
theorem exit_of_error {tree : FileTree} {cwd : WorkingDirectory} {command : Command}
    {failure : Failure} (hfailed : (command.run tree cwd).result = .error failure)
    {arguments : List String} (harguments : CommandLine.parse arguments = some (.command command)) :
    CommandLine.run tree cwd arguments =
      ⟨1, "", "error: " ++ ": ".intercalate failure.chain ++ "\n", tree⟩ := by
  obtain ⟨hstdout, htree⟩ := (run_effect tree cwd command).traceless hfailed
  rw [CommandLine.run, harguments]
  simp only [CommandLine.Exit.ofOutcome, hfailed, hstdout, htree, Failure.report]

/-- A file is written when the path leads nowhere and there is a directory for it. -/
theorem run_template_ok_iff (tree : FileTree) (cwd : WorkingDirectory) (triple : Option String)
    (output : Option Path) :
    ((template triple output).run tree cwd).result = .ok () ↔
      tree.contains cwd.place (outputPath cwd output) = false ∧
        ∃ location, tree.writeLocation cwd.place (outputPath cwd output) = .ok location := by
  rw [← FileTree.exists_write_iff (templateText triple)]
  simp only [run]
  cases hwritten : writeTemplate tree cwd triple output with
  | ok written =>
      obtain ⟨path, after⟩ := written
      obtain ⟨rfl, hfree, hwrite⟩ := writeTemplate_eq_ok_iff.mp hwritten
      exact ⟨fun _ => ⟨hfree, after, hwrite⟩, fun _ => rfl⟩
  | error failure =>
      simp only [reduceCtorEq, false_iff]
      rintro ⟨hfree, after, hwrite⟩
      rw [writeTemplate_eq_ok_iff.mpr ⟨rfl, hfree, hwrite⟩] at hwritten
      contradiction

theorem run_template_of_contains {tree : FileTree} {cwd : WorkingDirectory} {output : Option Path}
    (hthere : tree.contains cwd.place (outputPath cwd output) = true) (triple : Option String) :
    (template triple output).run tree cwd =
      ⟨.error (.alreadyExists (outputPath cwd output)), "", [], tree⟩ := by
  have hrefused : writeTemplate tree cwd triple output =
      .error (.alreadyExists (outputPath cwd output)) := if_pos hthere
  simp only [run, hrefused]

/-- The file tree after commands in order, each in its working directory. -/
def runAll (tree : FileTree) (runs : List (WorkingDirectory × Command)) : FileTree :=
  runs.foldl (fun tree run => (run.2.run tree run.1).tree) tree

theorem keeps_runAll (tree : FileTree) (runs : List (WorkingDirectory × Command)) :
    tree.Keeps (runAll tree runs) := by
  induction runs generalizing tree with
  | nil => exact .refl tree
  | cons run runs ih => exact (run_effect tree run.1 run.2).keeps.trans (ih _)

/-- A run that fails leaves nothing behind but its report, and of those that succeed only `template`
changes the tree. It needs a path that leads nowhere in a directory that is there, and then it adds
the file that the path leads to. So no sequence of commands changes what was there before it. -/
theorem run_traceless_or_template :
    (∀ (tree : FileTree) (cwd : WorkingDirectory) (command : Command) (failure : Failure),
      (command.run tree cwd).result = .error failure →
        (command.run tree cwd).stdout = "" ∧ (command.run tree cwd).tree = tree ∧
        ∀ arguments, CommandLine.parse arguments = some (.command command) →
          CommandLine.run tree cwd arguments =
            ⟨1, "", "error: " ++ ": ".intercalate failure.chain ++ "\n", tree⟩) ∧
    (∀ (tree : FileTree) (cwd : WorkingDirectory) (command : Command),
      (∀ triple output, command ≠ .template triple output) →
        (command.run tree cwd).tree = tree) ∧
    (∀ (tree : FileTree) (cwd : WorkingDirectory) (triple : Option String) (output : Option Path),
      let path := output.getD (cwd.path.child configFileName)
      let text := Profile.template (triple.getD defaultTriple)
      let outcome := (template triple output).run tree cwd
      (outcome.result = .ok () ↔ tree.contains cwd.place path = false ∧
        ∃ location, tree.writeLocation cwd.place path = .ok location) ∧
      (outcome.result = .ok () →
        outcome.tree.read cwd.place path = .ok text ∧
        ∃ location, outcome.tree.locate cwd.place path = .ok location ∧
          tree.occupant? location = none ∧
          ∀ other, outcome.tree.occupant? other =
            if other = location then some (.file text.toUTF8) else tree.occupant? other)) ∧
    ∀ (tree : FileTree) (runs : List (WorkingDirectory × Command)),
      (∀ location occupant, tree.occupant? location = some occupant →
        (runAll tree runs).occupant? location = some occupant) ∧
      ∀ place path text, tree.read place path = .ok text →
        (runAll tree runs).read place path = .ok text := by
  refine ⟨?_, ?_, ?_, ?_⟩
  · intro tree cwd command failure hfailed
    obtain ⟨hstdout, htree⟩ := (run_effect tree cwd command).traceless hfailed
    exact ⟨hstdout, htree, fun _ harguments => exit_of_error hfailed harguments⟩
  · intro tree cwd command hreport
    exact (run_effect tree cwd command).tree_eq hreport
  · intro tree cwd triple output path text outcome
    refine ⟨run_template_ok_iff tree cwd triple output, ?_⟩
    intro hok
    obtain ⟨_, location, hadded, hlocate⟩ := (run_effect tree cwd _).added hok
    exact ⟨hadded.read hlocate, location, hlocate, hadded.unoccupied, hadded.occupant?⟩
  · intro tree runs
    have hkeeps := keeps_runAll tree runs
    exact ⟨hkeeps, fun _ _ _ hread => hkeeps.read hread⟩

/-- The second of two files is added beside the first, which is not overwritten. -/
theorem run_traceless_or_template_beside :
    let tree : FileTree := ⟨.directory [("bcc.toml", .file "first".toUTF8)]⟩
    let root : WorkingDirectory := ⟨⟨[], by decide⟩, ⟨"/"⟩⟩
    let refused : Command := .template none none
    let beside : Command := .template (some "arm\"-none") (some ⟨"second"⟩)
    (refused.run tree root).result = .error (.alreadyExists ⟨"/bcc.toml"⟩) ∧
      CommandLine.run tree root ["target", "template"] =
        ⟨1, "", "error: /bcc.toml already exists\n", tree⟩ ∧
      (beside.run tree root).result = .ok () ∧
      (beside.run tree root).tree.read root.place ⟨"second"⟩ =
        .ok (Profile.template "arm\"-none") ∧
      ((resolve {}).run tree root).tree = tree ∧
      (runAll tree [(root, refused), (root, beside)]).read root.place ⟨"/bcc.toml"⟩ =
        .ok "first" := by
  intro tree root refused beside
  obtain ⟨hfailed, hreported, htemplate, hkept⟩ := run_traceless_or_template
  have hrefused : (refused.run tree root).result = .error (.alreadyExists ⟨"/bcc.toml"⟩) := by
    have hpath : outputPath root none = ⟨"/bcc.toml"⟩ := by decide +kernel
    have hthere : tree.contains root.place (outputPath root none) = true := by
      rw [hpath]
      rfl
    rw [run_template_of_contains hthere, hpath]
  have hfree : tree.contains root.place ⟨"second"⟩ = false := rfl
  have hplace : tree.writeLocation root.place ⟨"second"⟩ = .ok ["second"] := rfl
  have hbeside : (beside.run tree root).result = .ok () :=
    (htemplate tree root (some "arm\"-none") (some ⟨"second"⟩)).1.mpr ⟨hfree, _, hplace⟩
  have hread : tree.read root.place ⟨"/bcc.toml"⟩ = .ok "first" :=
    FileTree.read_of_occupant? (show tree.locate _ _ = .ok ["bcc.toml"] from rfl) rfl
  obtain ⟨_, _, hexit⟩ := hfailed tree root refused _ hrefused
  refine ⟨hrefused, hexit ["target", "template"] rfl, hbeside, ?_, ?_, ?_⟩
  · exact ((htemplate tree root (some "arm\"-none") (some ⟨"second"⟩)).2 hbeside).1
  · exact hreported tree root _ (by simp)
  · exact (hkept tree _).2 _ _ _ hread

end TargetConfig.Command
