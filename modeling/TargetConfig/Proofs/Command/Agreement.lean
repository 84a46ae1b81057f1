import TargetConfig.Command
import TargetConfig.Proofs.Registry.Backends
import TargetConfig.Proofs.Request.Resolution
import TargetConfig.Proofs.Triple.Parts

/-! # Commands agree on triples

`arch` splits a triple into its parts and looks a backend up, `doctor` resolves a configuration that
it throws away, and `resolve` takes a request through all its steps. They come to the same answer
for every text that is given as a triple, whatever files there are.
-/

namespace TargetConfig

/-! ## Texts of lines -/

theorem unlines_append (first second : List String) :
    unlines (first ++ second) = unlines first ++ unlines second := by
  rw [unlines, List.map_append, String.join_append]
  rfl

/-- A text ends in lines, after any others. -/
def EndsIn (text : String) (lines : List String) : Prop :=
  ∃ before, text = unlines (before ++ lines)

/-- A text begins with lines, before any others. -/
def BeginsWith (text : String) (lines : List String) : Prop :=
  ∃ after, text = unlines (lines ++ after)

namespace EndsIn

variable {text : String}

theorem of_append {lines rest : List String} (hends : EndsIn text (lines ++ rest)) :
    EndsIn text rest := by
  obtain ⟨before, rfl⟩ := hends
  exact ⟨before ++ lines, by rw [List.append_assoc]⟩

/-- Where a text ends is the same however it is cut into lines. -/
theorem getLast?_eq {first second : String} {rest : List String}
    (hfirst : EndsIn text (first :: rest)) (hsecond : EndsIn text (second :: rest))
    (hnonempty : first ≠ "") (hother : second ≠ "") :
    first.toList.getLast? = second.toList.getLast? := by
  have hchars : ∀ {line : String}, EndsIn text (line :: rest) → line ≠ "" →
      ∃ before, text.toList = before ++ '\n' :: (unlines rest).toList ∧
        before.getLast? = line.toList.getLast? := by
    rintro line ⟨before, rfl⟩ hline
    refine ⟨(unlines before).toList ++ line.toList, ?_, ?_⟩
    · rw [List.append_cons, unlines_append, unlines_append]
      simp [unlines]
    · rw [List.getLast?_append, Option.or_of_isSome]
      simpa using hline
  -- the rest and the line end before it are the same in both, and so is what comes before them
  obtain ⟨before, htext, hlast⟩ := hchars hfirst hnonempty
  obtain ⟨other, hothertext, hotherlast⟩ := hchars hsecond hother
  have hsame : before = other := List.append_cancel_right (htext.symm.trans hothertext)
  rw [← hlast, ← hotherlast, hsame]

end EndsIn

theorem Summary.beginsWith_lines (summary : Summary) :
    BeginsWith (unlines summary.lines)
      ["=== Target: " ++ summary.triple ++ " ===",
        "  Backend:      " ++ summary.target.getD "unresolved",
        "  Architecture: " ++ summary.arch] :=
  ⟨summary.lines.drop 3, rfl⟩

namespace Request

/-- A request with nothing but a triple is resolved just when there is a backend for it. -/
theorem result_resolve_of_triple (triple : String) (lookup : String → Option Handle)
    (tree : FileTree) (cwd : WorkingDirectory) :
    (resolve { triple := some triple } lookup tree cwd).result =
      match lookup triple with
      | some handle =>
        .ok (resolved { triple := some triple } (Profile.ofConfig (Config.new triple)) handle)
      | none => .error (.target (.unsupportedTriple triple)) := by
  rw [result_resolve]
  rfl

end Request

namespace Command

theorem run_resolve_of_ok {request : Request} {tree : FileTree} {cwd : WorkingDirectory}
    {config : Config} {text : String}
    (hresolve : (request.resolve registry.lookup tree cwd).result = .ok config)
    (hrender : config.render request.format = .ok text) :
    ((resolve request).run tree cwd).result = .ok () ∧
      ((resolve request).run tree cwd).stdout = text := by
  have hattempt : (request.resolve registry.lookup tree cwd >>= fun config =>
      Attempt.ofExcept (config.render request.format)).result = .ok text := by
    rw [Attempt.result_bind, hresolve]
    exact hrender
  simp [run, hattempt]

theorem run_resolve_of_error {request : Request} {tree : FileTree} {cwd : WorkingDirectory}
    {failure : Failure}
    (hresolve : (request.resolve registry.lookup tree cwd).result = .error failure) :
    ((resolve request).run tree cwd).result = .error failure := by
  have hattempt : (request.resolve registry.lookup tree cwd >>= fun config =>
      Attempt.ofExcept (config.render request.format)).result = .error failure := by
    rw [Attempt.result_bind, hresolve]
    rfl
  simp [run, hattempt]

/-- The lines about a target in `doctor`, with what they show for its backend. -/
def targetLines (triple backend : String) : List String :=
  ["", "--- Target: " ++ triple ++ " ---", "  Backend:  " ++ backend,
    "  Arch:     " ++ (archOf triple).name]

/-- What is shown in `doctor` for the result of a lookup. -/
def backendOrIssue (triple : String) : Option Handle → String
  | some handle => handle.name
  | none => (ConfigError.unsupportedTriple triple).message

/-- What is shown in `arch` for the result of a lookup. -/
def backendOrNone : Option Handle → String
  | some handle => handle.name ++ " (" ++ handle.description ++ ")"
  | none => "none registered"

theorem value_tripleLines (triple : String) :
    (tripleLines triple).value =
      ["  Backend:  " ++ backendOrIssue triple (registry.lookup triple),
        "  Arch:     " ++ (archOf triple).name] := by
  have htriple : (Config.new triple).triple = triple := rfl
  unfold tripleLines
  simp only [Config.resolve_result, Config.resolve_value, htriple]
  cases registry.lookup triple <;> rfl

theorem endsIn_doctor (triple : String) (tree : FileTree) (cwd : WorkingDirectory) :
    EndsIn ((doctor (some triple)).run tree cwd).stdout
      (targetLines triple (backendOrIssue triple (registry.lookup triple))) := by
  have hgiven : (givenTripleLines (some triple)).value =
      targetLines triple (backendOrIssue triple (registry.lookup triple)) := by
    change ["", "--- Target: " ++ triple ++ " ---"] ++ (tripleLines triple).value = _
    rw [value_tripleLines]
    rfl
  have hlines : ∃ before, (doctorLines tree cwd (some triple)).value =
      before ++ (givenTripleLines (some triple)).value := ⟨_, rfl⟩
  obtain ⟨before, hlines⟩ := hlines
  refine ⟨before, ?_⟩
  rw [← hgiven, ← hlines]
  simp only [run, printed]

theorem endsIn_arch (triple : String) (tree : FileTree) (cwd : WorkingDirectory) :
    EndsIn ((arch triple).run tree cwd).stdout
      ["Backend:      " ++ backendOrNone (registry.lookup triple)] := by
  have hlines : archLines triple = List.take 7 (archLines triple) ++
      ["Backend:      " ++ backendOrNone (registry.lookup triple)] := by
    unfold archLines backendOrNone
    cases registry.lookup triple <;> rfl
  exact ⟨_, congrArg unlines hlines⟩

theorem beginsWith_arch (triple : String) (tree : FileTree) (cwd : WorkingDirectory) :
    BeginsWith ((arch triple).run tree cwd).stdout
      ["Triple:       " ++ triple, "Architecture: " ++ (archOf triple).name] := by
  have hlines : archLines triple =
      ["Triple:       " ++ triple, "Architecture: " ++ (Triple.ofString triple).arch.name] ++
        List.drop 2 (archLines triple) := rfl
  rw [← Triple.arch_ofString]
  exact ⟨_, congrArg unlines hlines⟩

/-- All commands show a backend for a triple, and its architecture. -/
structure ShowsBackend (triple : String) (tree : FileTree) (cwd : WorkingDirectory)
    (backend : Backend) : Prop where
  arch : EndsIn ((arch triple).run tree cwd).stdout
    ["Backend:      " ++ (backend.name ++ " (" ++ backend.description ++ ")")]
  doctor : EndsIn ((doctor (some triple)).run tree cwd).stdout (targetLines triple backend.name)
  result : ((resolve { triple := some triple }).run tree cwd).result = .ok ()
  resolve : BeginsWith ((resolve { triple := some triple }).run tree cwd).stdout
    ["=== Target: " ++ triple ++ " ===", "  Backend:      " ++ backend.name,
      "  Architecture: " ++ (archOf triple).name]

/-- No command shows a backend for a triple. -/
structure ShowsNone (triple : String) (tree : FileTree) (cwd : WorkingDirectory) : Prop where
  arch : EndsIn ((arch triple).run tree cwd).stdout ["Backend:      none registered"]
  doctor : EndsIn ((doctor (some triple)).run tree cwd).stdout
    (targetLines triple (ConfigError.unsupportedTriple triple).message)
  result : ((resolve { triple := some triple }).run tree cwd).result =
    .error (.target (.unsupportedTriple triple))

theorem showsBackend {triple : String} {backend : Backend} (hmem : backend ∈ registry.backends)
    (harch : backend.arch = archOf triple) (tree : FileTree) (cwd : WorkingDirectory) :
    ShowsBackend triple tree cwd backend := by
  have hlookup : registry.lookup triple = some (backend.handle triple) :=
    (Registry.lookup_full_eq_some_iff triple _).mpr ⟨backend, hmem, harch, rfl⟩
  have hclassified := endsIn_arch triple tree cwd
  have hdiagnosed := endsIn_doctor triple tree cwd
  have hresolve := Request.result_resolve_of_triple triple registry.lookup tree cwd
  rw [hlookup] at hclassified hdiagnosed hresolve
  obtain ⟨hresult, hstdout⟩ := run_resolve_of_ok hresolve rfl
  refine ⟨hclassified, hdiagnosed, hresult, ?_⟩
  rw [hstdout]
  exact (Summary.ofConfig _).beginsWith_lines

theorem showsNone {triple : String} (hunknown : archOf triple = .unknown) (tree : FileTree)
    (cwd : WorkingDirectory) : ShowsNone triple tree cwd := by
  have hlookup : registry.lookup triple = none := by
    rw [← Option.not_isSome_iff_eq_none, registry, Registry.isSome_lookup_full_iff]
    exact not_not.mpr hunknown
  have hclassified := endsIn_arch triple tree cwd
  have hdiagnosed := endsIn_doctor triple tree cwd
  have hresolve := Request.result_resolve_of_triple triple registry.lookup tree cwd
  rw [hlookup] at hclassified hdiagnosed hresolve
  exact ⟨hclassified, hdiagnosed, run_resolve_of_error hresolve⟩

theorem endsIn_backend {triple shown text : String}
    (hends : EndsIn text (targetLines triple shown)) :
    EndsIn text ["  Backend:  " ++ shown, "  Arch:     " ++ (archOf triple).name] := by
  have hlines : targetLines triple shown = ["", "--- Target: " ++ triple ++ " ---"] ++
      ["  Backend:  " ++ shown, "  Arch:     " ++ (archOf triple).name] := rfl
  rw [hlines] at hends
  exact hends.of_append

/-- An issue ends in the quote behind the triple, and no name of a backend ends in one. -/
theorem not_endsIn_issue {triple : String} {backend : Backend}
    (hmem : backend ∈ registry.backends) {text : String}
    (hissue : EndsIn text (targetLines triple (ConfigError.unsupportedTriple triple).message)) :
    ¬ EndsIn text (targetLines triple backend.name) := by
  intro hname
  have hquote : ∀ backend ∈ Backend.all, backend.name.toList.getLast? ≠ some '\'' := by
    decide +kernel
  have hmessage : (ConfigError.unsupportedTriple triple).message =
      "unsupported target triple '" ++ triple ++ "'" := rfl
  have hsame := (endsIn_backend hname).getLast?_eq (endsIn_backend hissue) (by simp) (by simp)
  rw [hmessage] at hsame
  simp only [String.toList_append, List.getLast?_append] at hsame
  cases hlast : backend.name.toList.getLast? with
  | none => simp [hlast] at hsame
  | some c =>
      rw [hlast] at hsame
      exact hquote backend hmem (by rw [hlast]; exact hsame)

/-- A description of a backend ends in a parenthesis. -/
theorem not_endsIn_none {text : String} {backend : Backend}
    (hbackend : EndsIn text
      ["Backend:      " ++ (backend.name ++ " (" ++ backend.description ++ ")")]) :
    ¬ EndsIn text ["Backend:      none registered"] := by
  intro hnone
  have hlast : ("Backend:      " ++
      (backend.name ++ " (" ++ backend.description ++ ")")).toList.getLast? = some ')' := by
    rw [← String.append_assoc, String.toList_append, List.getLast?_append]
    rfl
  have hsame := hnone.getLast?_eq hbackend (by decide) (by simp)
  rw [hlast] at hsame
  exact absurd hsame (by decide)

/-- `arch`, `doctor` and `resolve` agree on every triple. The first two never fail, whatever files
there are. They show a backend for the triple just when its architecture is known, which is just
when `resolve` succeeds with nothing but the triple. Then all three show the same backend, and in
any case they show the same architecture. -/
theorem commands_agree (triple : String) (tree : FileTree) (cwd : WorkingDirectory) :
    let classified := (arch triple).run tree cwd
    let diagnosed := (doctor (some triple)).run tree cwd
    let resolved := (resolve { triple := some triple }).run tree cwd
    classified.result = .ok () ∧ diagnosed.result = .ok () ∧
      (archOf triple ≠ .unknown ↔
        ¬ EndsIn classified.stdout ["Backend:      none registered"]) ∧
      (archOf triple ≠ .unknown ↔
        ∃ backend ∈ registry.backends,
          EndsIn diagnosed.stdout (targetLines triple backend.name)) ∧
      (archOf triple ≠ .unknown ↔ resolved.result = .ok ()) ∧
      (archOf triple ≠ .unknown →
        ∃ backend ∈ registry.backends, backend.arch = archOf triple ∧
          ShowsBackend triple tree cwd backend) ∧
      (archOf triple = .unknown → ShowsNone triple tree cwd) ∧
      BeginsWith classified.stdout
        ["Triple:       " ++ triple, "Architecture: " ++ (archOf triple).name] ∧
      ∃ shown, EndsIn diagnosed.stdout (targetLines triple shown) := by
  intro classified diagnosed resolved
  have hknown : archOf triple ≠ .unknown →
      ∃ backend ∈ registry.backends, backend.arch = archOf triple ∧
        ShowsBackend triple tree cwd backend := by
    intro hknown
    obtain ⟨backend, hmem, harch⟩ := (Backend.exists_arch_iff _).mpr hknown
    exact ⟨backend, hmem, harch, showsBackend hmem harch tree cwd⟩
  have hunknown : archOf triple = .unknown → ShowsNone triple tree cwd :=
    fun hunknown => showsNone hunknown tree cwd
  refine ⟨rfl, ?_, ⟨?_, ?_⟩, ⟨?_, ?_⟩, ⟨?_, ?_⟩, hknown, hunknown, beginsWith_arch triple tree cwd,
    _, endsIn_doctor triple tree cwd⟩
  · simp only [diagnosed, run, printed]
  · intro h
    obtain ⟨backend, _, _, hshows⟩ := hknown h
    exact not_endsIn_none hshows.arch
  · exact fun hnone h => hnone (hunknown h).arch
  · intro h
    obtain ⟨backend, hmem, _, hshows⟩ := hknown h
    exact ⟨backend, hmem, hshows.doctor⟩
  · rintro ⟨backend, hmem, hname⟩ h
    exact not_endsIn_issue hmem (hunknown h).doctor hname
  · intro h
    obtain ⟨_, _, _, hshows⟩ := hknown h
    exact hshows.result
  · intro hok h
    have hfailed := (hunknown h).result
    rw [hok] at hfailed
    exact absurd hfailed (by simp)

end Command

end TargetConfig
