import TargetConfig.Proofs.Feature.Flag
import TargetConfig.Proofs.Feature.Issues
import TargetConfig.Proofs.FileTree.Nearest
import TargetConfig.Proofs.Request.FixedPoint

/-! # The features of a request

Whatever the features of a resolved configuration come from, they are well-formed toggles, also
where the architecture supplied them, and a request that gives them by its flag is resolved to the
same configuration. Of a flag only the texts between its commas count: white space around them and
commas with nothing between them make no difference, not even to a failure.
-/

namespace TargetConfig.Request

/-- Two flags that give the same features make no difference to a request. -/
theorem resolve_features_congr (request : Request) {first second : String}
    (hsame : featuresOfFlag first = featuresOfFlag second) (lookup : String → Option Handle)
    (tree : FileTree) (cwd : WorkingDirectory) :
    resolve { request with features := some first } lookup tree cwd =
      resolve { request with features := some second } lookup tree cwd := by
  apply resolve_congr
  · simp only [Request.profile, Option.map_some, hsame]
    rfl
  · rfl

/-- The features of a resolved configuration can be given to its request, which then resolves to it
again: the preferences of the architecture, where they were used, are now the features given. -/
theorem resolve_own_features {request : Request} {lookup : String → Option Handle}
    {tree : FileTree} {cwd : WorkingDirectory} {config : Config}
    (hresolve : (request.resolve lookup tree cwd).result = .ok config) :
    (resolve { request with features := some config.featureString } lookup tree cwd).result =
      .ok config := by
  obtain ⟨base, profile, handle, hbase, heffective, htoggles, hlookup, rfl⟩ :=
    (resolve_eq_ok_iff request lookup tree cwd config).mp hresolve
  let config := request.resolved profile handle
  let again : Profile := { profile with features := splitFeatures config.featureString }
  have htoggles' : ∀ feature ∈ again.features, IsToggle feature := isToggle_of_mem_resolved htoggles
  have hflag : FlagFeatures config.featureString again.features := by
    have hfeatures := featuresOfFlag_joinFeatures_of_toggles htoggles'
    rw [joinFeatures_splitFeatures] at hfeatures
    exact (flagFeatures_iff _ _).mpr hfeatures.symm
  have heffective' : Effective { request with features := some config.featureString } base again :=
    ⟨heffective.triple, heffective.cpu, hflag, heffective.optimizationLevel, heffective.codeModel,
      heffective.relocationModel, heffective.targetOptions⟩
  apply (resolve_eq_ok_iff _ lookup tree cwd _).mpr
  refine ⟨base, again, handle, hbase, heffective', htoggles', hlookup, ?_⟩
  have hfill := fill_again (fun hallowed : request.noArchDefaults = false => hallowed)
    (joinFeatures profile.features) "" (joinFeatures (archOf profile.triple).preferences.features)
  simp only [config, resolved, again, joinFeatures_splitFeatures, Config.mk.injEq, true_and,
    and_true]
  exact hfill.symm

/-- A request that cannot start fails over a file or for want of a triple, before its features are
looked at. -/
theorem during_or_noTriple_of_baseProfile {request : Request} {tree : FileTree}
    {cwd : WorkingDirectory} {failure : Failure}
    (hbase : (request.baseProfile tree cwd).result = .error failure) :
    (∃ activity path cause, failure = .during activity path cause) ∨ failure = .noTriple := by
  rcases Attempt.result_bind_eq_error_iff.mp hbase with hstart | ⟨start, _, hnone⟩
  · left
    unfold startingProfile at hstart
    split at hstart
    next named _ path _ =>
      rw [Attempt.result_ofExcept, FileTree.load] at hstart
      cases hload : tree.loadProfile cwd path with
      | ok profile => simp [hload, Except.map] at hstart
      | error error =>
          rw [hload] at hstart
          exact ⟨_, _, _, (Except.error.inj hstart).symm⟩
    next => contradiction
    next =>
      rcases Attempt.result_bind_eq_error_iff.mp hstart with hdiscover | ⟨found, _, hfound⟩
      · obtain ⟨_, _, _, hspoiled⟩ := (FileTree.discover_eq_error_iff tree cwd failure).mp hdiscover
        cases hspoiled with
        | reading => exact ⟨_, _, _, rfl⟩
        | parsing => exact ⟨_, _, _, rfl⟩
      · rcases found with _ | ⟨profile, directory⟩ <;> contradiction
  · right
    split at hnone
    next => contradiction
    next => contradiction
    next => contradiction
    next => exact (Except.error.inj hnone).symm

theorem fault_ne_comma_of_mem {flag : String} {issue : FeatureIssue}
    (hissue : issue ∈ featureIssues (featuresOfFlag flag)) : issue.fault ≠ .comma := by
  obtain ⟨position, _, hfeature, hfault⟩ := mem_issuesFrom_iff.mp hissue
  intro hcomma
  rw [hcomma] at hfault
  have hflag := isFlagFeature_of_mem (List.mem_of_getElem? hfeature)
  cases firstFault_of_fault? hfault with
  | comma hsigned _ hname =>
      apply hflag.comma_not_mem
      rw [hsigned]
      exact List.mem_cons_of_mem _ hname

/-- A flag never gives a feature with a comma in it, so that this is never what is wrong. -/
theorem fault_ne_comma_of_resolve {request : Request} {flag : String}
    (hflag : request.features = some flag) {lookup : String → Option Handle} {tree : FileTree}
    {cwd : WorkingDirectory} {issues : List FeatureIssue}
    (hresolve : (request.resolve lookup tree cwd).result = .error (.features issues)) :
    ∀ issue ∈ issues, issue.fault ≠ .comma := by
  cases (resolve_eq_error_iff request lookup tree cwd _).mp hresolve with
  | profile hnone =>
      cases hnone with
      | start hstart =>
          rcases during_or_noTriple_of_baseProfile hstart with ⟨_, _, _, hfailure⟩ | hfailure
          · contradiction
          · contradiction
  | features hstart heffective hmalformed =>
      have hfeatures := heffective.features
      rw [hflag] at hfeatures
      rw [(flagFeatures_iff _ _).mp hfeatures]
      exact fun _ => fault_ne_comma_of_mem

/-- What comes of the features of a request. A configuration is resolved with well-formed toggles,
and with these as its flag the request is resolved to it again. A flag can be replaced by the
features that it gives, with commas between them; so white space around a comma makes no difference,
and neither do commas with nothing but white space between them or at an end. What is wrong with a
feature of a flag is never a comma. -/
theorem resolve_features_normal (request : Request) (lookup : String → Option Handle)
    (tree : FileTree) (cwd : WorkingDirectory) :
    let outcome := fun flag => resolve { request with features := some flag } lookup tree cwd
    (∀ config, (request.resolve lookup tree cwd).result = .ok config →
      featureIssues (splitFeatures config.featureString) = [] ∧
      (∃ toggles, (∀ toggle ∈ toggles, IsToggle toggle) ∧
        CommaList toggles config.featureString) ∧
      (outcome config.featureString).result = .ok config) ∧
    (∀ flag features text, FlagFeatures flag features → CommaList features text →
      outcome text = outcome flag) ∧
    (∀ first second white more, IsWhite white → IsWhite more →
      outcome (first ++ white ++ "," ++ (more ++ second)) = outcome (first ++ "," ++ second)) ∧
    (∀ first second white, IsWhite white →
      outcome (first ++ "," ++ white ++ "," ++ second) = outcome (first ++ "," ++ second) ∧
      outcome (white ++ "," ++ second) = outcome second ∧
      outcome (first ++ "," ++ white) = outcome first) ∧
    ∀ flag issues, (outcome flag).result = .error (.features issues) →
      ∀ issue ∈ issues, issue.fault ≠ .comma := by
  intro outcome
  refine ⟨?_, ?_, ?_, ?_, ?_⟩
  · intro config hresolve
    obtain ⟨base, profile, handle, _, _, htoggles, _, hconfig⟩ :=
      (resolve_eq_ok_iff request lookup tree cwd config).mp hresolve
    have hsplit : ∀ feature ∈ splitFeatures config.featureString, IsToggle feature := by
      rw [hconfig]
      exact isToggle_of_mem_resolved htoggles
    exact ⟨(featureIssues_eq_nil_iff _).mpr hsplit,
      ⟨_, hsplit, commaList_iff.mpr (joinFeatures_splitFeatures _).symm⟩,
      resolve_own_features hresolve⟩
  · intro flag features text hflag htext
    apply resolve_features_congr
    rw [commaList_iff.mp htext, (flagFeatures_iff flag features).mp hflag,
      featuresOfFlag_normalized]
  · intro first second white more hwhite hmore
    apply resolve_features_congr
    rw [featuresOfFlag_append_comma, featuresOfFlag_append_comma,
      featuresOfFlag_append_white hwhite, featuresOfFlag_white_append hmore]
  · intro first second white hwhite
    refine ⟨?_, ?_, ?_⟩ <;> apply resolve_features_congr
    · rw [featuresOfFlag_append_comma, featuresOfFlag_append_comma, featuresOfFlag_append_comma,
        featuresOfFlag_white hwhite, List.append_nil]
    · rw [featuresOfFlag_append_comma, featuresOfFlag_white hwhite, List.nil_append]
    · rw [featuresOfFlag_append_comma, featuresOfFlag_white hwhite, List.append_nil]
  · intro flag issues hresolve
    exact fault_ne_comma_of_resolve rfl hresolve

end TargetConfig.Request
