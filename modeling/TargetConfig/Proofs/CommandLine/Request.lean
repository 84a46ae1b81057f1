import TargetConfig.Proofs.Command.Agreement
import TargetConfig.Proofs.Command.Traces
import TargetConfig.Proofs.CommandLine.Options

/-! # Requests on the command line

A request is written as one argument for each option that it has. Whatever the order of these, the
program understands just this request, and it exits with what becomes of the request.
-/

namespace TargetConfig

open CommandLine

namespace Request

/-- The arguments that a request is written in: one for each option that it has. -/
def arguments (request : Request) : List String :=
  [ request.config.map fun path => "--config=" ++ path.text,
    request.triple.map ("--triple=" ++ ·),
    request.cpu.map ("--cpu=" ++ ·),
    request.features.map ("--features=" ++ ·),
    request.optLevel.map ("--opt-level=" ++ ·),
    request.codeModel.map ("--code-model=" ++ ·),
    request.reloc.map ("--reloc=" ++ ·),
    if request.noArchDefaults then some "--no-arch-defaults" else none,
    request.format.map ("--format=" ++ ·)].reduceOption

/-- The values of a request in the order in which `resolve` declares its options. -/
def values (request : Request) : List (Option String) :=
  [ request.config.map Path.text, request.triple, request.cpu, request.features, request.optLevel,
    request.codeModel, request.reloc, if request.noArchDefaults then some "" else none,
    request.format]

/-- The options of `resolve` with the values of a request. -/
def options (request : Request) : List (Flag × Option String) := resolveFlags.zip request.values

theorem arguments_eq (request : Request) :
    request.arguments =
      (present request.options).map fun option => option.1.argument option.2 := by
  have hargument : Flag.argument = fun flag value =>
      if flag.takesValue then "--" ++ flag.name ++ "=" ++ value else "--" ++ flag.name := rfl
  rw [map_argument_present, arguments]
  congr 1
  cases hdefaults : request.noArchDefaults <;>
    simp [options, resolveFlags, values, hargument, Function.comp_def, hdefaults]

theorem names_options (request : Request) :
    request.options.map (·.1.name) = resolveFlags.map Flag.name := rfl

theorem nodup_options (request : Request) : (request.options.map (·.1.name)).Nodup := by
  rw [names_options]
  decide

theorem accepts_options {request : Request} (hconfig : ∀ path ∈ request.config, path.text ≠ "") :
    ∀ option ∈ present request.options, option.1.Accepts resolveFlags option.2 := by
  intro option hmem
  obtain ⟨⟨flag, found⟩, hoption, hpresent⟩ := List.mem_filterMap.mp hmem
  obtain ⟨value, hfound, rfl⟩ := Option.map_eq_some_iff.mp hpresent
  have hflag : ∀ flag ∈ resolveFlags, resolveFlags.find? (·.name = flag.name) = some flag ∧
      flag.name ≠ "" ∧ '=' ∉ flag.name.toList := by decide
  have hvalues : ∀ option ∈ request.options, ∀ value ∈ option.2,
      (option.1.takesValue = false → value = "") ∧
        (option.1.takesValue = true → option.1.allowsEmpty = false → value ≠ "") := by
    simpa [options, resolveFlags, values] using hconfig
  obtain ⟨hknown, hnamed, hnoEquals⟩ := hflag flag (List.of_mem_zip hoption).1
  obtain ⟨hnoValue, hvalue⟩ := hvalues _ hoption value hfound
  exact ⟨hknown, hnamed, hnoEquals, hnoValue, hvalue⟩

/-- The options of a request make the request. -/
theorem request_ofOptions (request : Request) :
    CommandLine.request (.ofOptions (present request.options)) = request := by
  have hvalues : ∀ option ∈ request.options,
      (Given.ofOptions (present request.options)).value? option.1.name = option.2 :=
    fun _ hmem => value?_present request.nodup_options hmem
  generalize Given.ofOptions (present request.options) = given at hvalues
  simp only [options, resolveFlags, values, List.zip_cons_cons, List.zip_nil_left,
    List.forall_mem_cons] at hvalues
  obtain ⟨hconfig, htriple, hcpu, hfeatures, hoptLevel, hcodeModel, hreloc, hdefaults, hformat, _⟩ :=
    hvalues
  have hpath : (request.config.map Path.text).map Path.mk = request.config := by
    simp [Option.map_map, Function.comp_def]
  have hgivenDefaults : (if request.noArchDefaults then some "" else none).isSome =
      request.noArchDefaults := by
    cases request.noArchDefaults <;> rfl
  simp only [CommandLine.request, Given.path?, hconfig, htriple, hcpu, hfeatures, hoptLevel,
    hcodeModel, hreloc, hdefaults, hformat, hpath, hgivenDefaults]

/-- A request is made from what is found under the names of its options. -/
theorem request_congr {first second : Given}
    (hsame : ∀ name, first.value? name = second.value? name) :
    CommandLine.request first = CommandLine.request second := by
  simp only [CommandLine.request, Given.path?, hsame]

/-- The arguments of a request are understood in any order. -/
theorem parse_of_perm {request : Request} (hconfig : ∀ path ∈ request.config, path.text ≠ "")
    {arguments : List String} (hperm : arguments.Perm request.arguments) :
    parse ("target" :: "resolve" :: arguments) = some (.command (.resolve request)) := by
  rw [arguments_eq] at hperm
  obtain ⟨given, hgiven, rfl⟩ := exists_perm_of_perm_map hperm
  have haccepts : ∀ option ∈ given, option.1.Accepts resolveFlags option.2 := by
    intro option hoption
    exact accepts_options hconfig option (hgiven.mem_iff.mp hoption)
  have hnodup : (given.map (·.1.name)).Nodup :=
    (hgiven.map (·.1.name)).nodup_iff.mpr
      ((sublist_present request.options).nodup request.nodup_options)
  have hrequest : CommandLine.request (.ofOptions given) = request := by
    rw [request_congr (value?_ofOptions_perm hgiven hnodup), request_ofOptions]
  rw [parse, parseTarget, readOptions_arguments haccepts hnodup, Option.map_some, hrequest]
  rfl

end Request

namespace CommandLine

/-- How the program exits with the text that was asked for, or with the failure to make it. -/
def Exit.ofResult (tree : FileTree) : Except Failure String → Exit
  | .ok text => ⟨0, text, "", tree⟩
  | .error failure => ⟨1, "", "error: " ++ ": ".intercalate failure.chain ++ "\n", tree⟩

/-- What `resolve` prints is the rendering of the resolved configuration. -/
theorem ofOutcome_resolve (request : Request) (tree : FileTree) (cwd : WorkingDirectory) :
    Exit.ofOutcome ((Command.resolve request).run tree cwd) =
      .ofResult tree ((request.resolve Command.registry.lookup tree cwd).result.bind
        (·.render request.format)) := by
  have hattempt : (request.resolve Command.registry.lookup tree cwd >>= fun config =>
      Attempt.ofExcept (config.render request.format)).result =
        (request.resolve Command.registry.lookup tree cwd).result.bind
          (·.render request.format) := by
    rw [Attempt.result_bind]
    rfl
  simp only [Command.run]
  rw [← hattempt]
  generalize (request.resolve Command.registry.lookup tree cwd >>= fun config =>
    Attempt.ofExcept (config.render request.format)) = attempt
  cases attempt.result <;> rfl

/-- The program runs exactly the request that its arguments write, in whatever order they come. It
prints the rendering of the resolved configuration, or it reports the failure and prints nothing,
and either way it leaves the files as they are. -/
theorem run_request (tree : FileTree) (cwd : WorkingDirectory) {request : Request}
    (hconfig : ∀ path ∈ request.config, path.text ≠ "") {arguments : List String}
    (hperm : arguments.Perm request.arguments) :
    parse ("target" :: "resolve" :: arguments) = some (.command (.resolve request)) ∧
      run tree cwd ("target" :: "resolve" :: arguments) =
        .ofResult tree ((request.resolve Command.registry.lookup tree cwd).result.bind
          (·.render request.format)) ∧
      ∀ others : List String, others.Perm arguments →
        run tree cwd ("target" :: "resolve" :: others) =
          run tree cwd ("target" :: "resolve" :: arguments) := by
  have hrun : ∀ {others : List String}, others.Perm request.arguments →
      run tree cwd ("target" :: "resolve" :: others) =
        .ofResult tree ((request.resolve Command.registry.lookup tree cwd).result.bind
          (·.render request.format)) := by
    intro others hothers
    rw [run, Request.parse_of_perm hconfig hothers, ← ofOutcome_resolve]
  refine ⟨Request.parse_of_perm hconfig hperm, hrun hperm, ?_⟩
  intro others hothers
  rw [hrun (hothers.trans hperm), hrun hperm]

/-- Values may be empty, begin with a hyphen or look like another option. -/
theorem run_request_hyphens :
    let tree : FileTree := ⟨.directory []⟩
    let root : WorkingDirectory := ⟨⟨[], by decide⟩, ⟨"/"⟩⟩
    let request : Request :=
      { config := some ⟨"-a=b"⟩
        triple := some "--cpu=x"
        cpu := some ""
        features := some "-neon"
        noArchDefaults := true }
    let arguments :=
      ["--no-arch-defaults", "--cpu=", "--features=-neon", "--triple=--cpu=x", "--config=-a=b"]
    (∀ path ∈ request.config, path.text ≠ "") ∧ arguments.Perm request.arguments ∧
      parse ("target" :: "resolve" :: arguments) = some (.command (.resolve request)) ∧
      run tree root ("target" :: "resolve" :: arguments) =
        ⟨1, "", "error: loading -a=b: config file not found: -a=b\n", tree⟩ := by
  intro tree root request arguments
  have hconfig : ∀ path ∈ request.config, path.text ≠ "" := by simp [request]
  have hperm : arguments.Perm request.arguments := by decide
  obtain ⟨hparse, hrun, _⟩ := run_request tree root hconfig hperm
  have hfailed : (request.resolve Command.registry.lookup tree root).result =
      .error (.during .loading ⟨"-a=b"⟩ (.target (.notFound "-a=b"))) := by
    decide +kernel
  refine ⟨hconfig, hperm, hparse, ?_⟩
  rw [hrun, hfailed]
  rfl

end CommandLine

end TargetConfig
