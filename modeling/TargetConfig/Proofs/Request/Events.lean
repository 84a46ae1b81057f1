import TargetConfig.Proofs.Config.Events
import TargetConfig.Proofs.Request.Resolution

/-! # What a request logs

A request logs the configuration file that a search has found, then the backend, then the defaults
that were filled in. A request that is refused never gets beyond the first of these. Features are
checked before they are set, wherever they come from, so no request ever warns about one.
-/

namespace TargetConfig

theorem IsToggle.signed {feature : String} (htoggle : IsToggle feature) : Signed feature := by
  obtain ⟨sign, name, hfeature, hsign, _⟩ := htoggle
  exact ⟨sign, name, hfeature, hsign⟩

/-- Well-formed toggles are set without a warning. -/
theorem Warnings.of_toggles {features : List String}
    (htoggles : ∀ feature ∈ features, IsToggle feature) : Warnings features [] := by
  induction features with
  | nil => exact .nil
  | cons feature features ih =>
      apply Warnings.signed (htoggles feature List.mem_cons_self).signed
      apply ih
      intro other hother
      exact htoggles other (List.mem_cons_of_mem feature hother)

theorem Profile.events_toConfig {profile : Profile}
    (htoggles : ∀ feature ∈ profile.features, IsToggle feature) : profile.toConfig.events = [] :=
  (Config.warnings_setFeatures _ profile.features).unique (.of_toggles htoggles)

namespace Request

/-- The log of looking for a configuration file. Only a request that names neither a file nor a
triple looks for one, and only a profile that was found and read is reported. -/
inductive SearchLog (request : Request) (tree : FileTree) (cwd : WorkingDirectory) :
    List Event → Prop
  | found {profile : Profile} {directory : Path} (hconfig : request.config = none)
      (htriple : request.triple = none)
      (hdiscover : tree.discover cwd = .ok (some (profile, directory))) :
      SearchLog request tree cwd [.usingFile configFileName directory.text]
  | silent (hnone : request.config = none → request.triple = none →
      ∀ profile directory, tree.discover cwd ≠ .ok (some (profile, directory))) :
      SearchLog request tree cwd []

/-- The log of a request up to its outcome. -/
inductive OutcomeLog (request : Request) (tree : FileTree) (cwd : WorkingDirectory) :
    Except Failure Config → List Event → Prop
  | refused {failure : Failure} {start : List Event} (hstart : SearchLog request tree cwd start) :
      OutcomeLog request tree cwd (.error failure) start
  | kept {config : Config} {handle : Handle} {start : List Event}
      (hstart : SearchLog request tree cwd start) (htarget : config.target = some handle)
      (hdefaults : request.noArchDefaults = true) :
      OutcomeLog request tree cwd (.ok config)
        (start ++ [.resolved config.triple handle.name (archOf config.triple)])
  | filled {config : Config} {handle : Handle} {start : List Event}
      (hstart : SearchLog request tree cwd start) (htarget : config.target = some handle)
      (hdefaults : request.noArchDefaults = false) :
      OutcomeLog request tree cwd (.ok config.fillDefaults.value)
        (start ++ .resolved config.triple handle.name (archOf config.triple) ::
          config.fillDefaults.events)

theorem searchLog_startingProfile (request : Request) (tree : FileTree) (cwd : WorkingDirectory) :
    SearchLog request tree cwd (request.startingProfile tree cwd).events := by
  unfold startingProfile
  split
  next path _ hconfig =>
    apply SearchLog.silent
    intro hnone
    rw [hconfig] at hnone
    contradiction
  next triple _ htriple =>
    apply SearchLog.silent
    intro _ hnone
    rw [htriple] at hnone
    contradiction
  next hconfig htriple =>
    rcases hdiscover : tree.discover cwd with failure | _ | ⟨profile, directory⟩
    · exact .silent (by simp [hdiscover])
    · exact .silent (by simp [hdiscover])
    · exact .found hconfig htriple hdiscover

theorem events_override_bind {α β : Type} [Setting α] (flag : Option String) (old : α)
    {second : α → Attempt β} (hsecond : ∀ a, (second a).events = []) :
    (override flag old >>= second).events = [] := by
  rw [Attempt.events_bind_of_silent _ hsecond]
  cases flag <;> rfl

/-- Nothing of the profile is logged but where it starts from. -/
theorem events_profile (request : Request) (tree : FileTree) (cwd : WorkingDirectory) :
    (request.profile tree cwd).events = (request.startingProfile tree cwd).events := by
  have hbase : (request.baseProfile tree cwd).events =
      (request.startingProfile tree cwd).events := by
    apply Attempt.events_bind_of_silent
    intro start
    cases start <;> cases request.triple <;> rfl
  rw [← hbase]
  apply Attempt.events_bind_of_silent
  intro base
  apply events_override_bind
  intro level
  apply events_override_bind
  intro model
  apply events_override_bind
  intro reloc
  rfl

theorem checkFeatures_of_toggles {features : List String}
    (htoggles : ∀ feature ∈ features, IsToggle feature) : checkFeatures features = .ok () := by
  rw [checkFeatures, (featureIssues_eq_nil_iff features).mpr htoggles]

theorem checkFeatures_of_issues {features : List String} {issue : FeatureIssue}
    {issues : List FeatureIssue} (hissues : featureIssues features = issue :: issues) :
    checkFeatures features = .fail (.features (issue :: issues)) := by
  rw [checkFeatures, hissues]

/-- The features are checked before they are set, and only a lookup that found a backend goes on to
the defaults. -/
theorem outcomeLog_resolve (request : Request) (lookup : String → Option Handle) (tree : FileTree)
    (cwd : WorkingDirectory) :
    OutcomeLog request tree cwd (request.resolve lookup tree cwd).result
      (request.resolve lookup tree cwd).events := by
  have hstart := searchLog_startingProfile request tree cwd
  rw [← events_profile] at hstart
  cases hprofile : (request.profile tree cwd).result with
  | error failure =>
      rw [resolve, Attempt.bind_of_error hprofile]
      exact .refused hstart
  | ok profile =>
      rw [resolve, Attempt.bind_of_ok hprofile]
      cases hissues : featureIssues profile.features with
      | cons issue issues =>
          rw [checkFeatures_of_issues hissues]
          change OutcomeLog request tree cwd (.error _) (_ ++ [])
          rw [List.append_nil]
          exact .refused hstart
      | nil =>
          have htoggles := (featureIssues_eq_nil_iff profile.features).mp hissues
          let config := profile.toConfig.value
          have hquiet : Attempt.ofLogged profile.toConfig = .ok config := by
            rw [Attempt.ofLogged, Profile.events_toConfig htoggles]
            rfl
          rw [checkFeatures_of_toggles htoggles, Attempt.ok_bind, hquiet, Attempt.ok_bind]
          cases hlookup : lookup config.triple with
          | none =>
              rw [Config.resolve_of_none hlookup]
              change OutcomeLog request tree cwd (.error _) (_ ++ [])
              rw [List.append_nil]
              exact .refused hstart
          | some handle =>
              rw [Config.resolve_of_some hlookup]
              cases hdefaults : request.noArchDefaults with
              | true => exact .kept hstart rfl hdefaults
              | false => exact .filled hstart rfl hdefaults

/-! ## Severity -/

theorem SearchLog.not_warn {request : Request} {tree : FileTree} {cwd : WorkingDirectory}
    {events : List Event} (hlog : SearchLog request tree cwd events) :
    ∀ event ∈ events, event.severity ≠ .warn := by
  cases hlog with
  | found => simp [Event.severity]
  | silent => simp

theorem OutcomeLog.not_warn {request : Request} {tree : FileTree} {cwd : WorkingDirectory}
    {outcome : Except Failure Config} {events : List Event}
    (hlog : OutcomeLog request tree cwd outcome events) :
    ∀ event ∈ events, event.severity ≠ .warn := by
  cases hlog with
  | refused hstart => exact hstart.not_warn
  | kept hstart =>
      rw [List.forall_mem_append, List.forall_mem_singleton]
      exact ⟨hstart.not_warn, by simp [Event.severity]⟩
  | filled hstart =>
      rw [List.forall_mem_append, List.forall_mem_cons]
      exact ⟨hstart.not_warn, by simp [Event.severity],
        (Config.tellsFilling_fillDefaults _).not_warn⟩

/-! ## Refused requests -/

theorem OutcomeLog.searchLog {request : Request} {tree : FileTree} {cwd : WorkingDirectory}
    {failure : Failure} {events : List Event}
    (hlog : OutcomeLog request tree cwd (.error failure) events) :
    SearchLog request tree cwd events := by
  cases hlog with
  | refused hstart => exact hstart

theorem SearchLog.nil_or_found {request : Request} {tree : FileTree} {cwd : WorkingDirectory}
    {events : List Event} (hlog : SearchLog request tree cwd events) :
    events = [] ∨ ∃ profile directory, request.config = none ∧ request.triple = none ∧
      tree.discover cwd = .ok (some (profile, directory)) ∧
      events = [.usingFile configFileName directory.text] := by
  cases hlog with
  | silent => exact Or.inl rfl
  | found hconfig htriple hdiscover => exact Or.inr ⟨_, _, hconfig, htriple, hdiscover, rfl⟩

/-- What is logged is what happened, in every state. Features without a sign are warned about one by
one, and these are the only warnings there are. A lookup is reported if it found a backend. Filling
in reports the features, and then the relocation model, if it changed them, and so it has nothing
to report when it is repeated. Hence a request never warns, and one that is refused reports at most
the configuration file that a search has found. -/
theorem log_exact :
    (∀ event : Event, event.severity = .warn ↔ ∃ feature, event = .unsignedFeature feature) ∧
    (∀ (config : Config) (features : List String) (events : List Event),
      (config.setFeatures features).events = events ↔ Warnings features events) ∧
    (∀ (config : Config) (lookup : String → Option Handle),
      TellsLookup config.triple (config.resolve lookup).value.1 (config.resolve lookup).events) ∧
    (∀ config : Config, TellsFilling config config.fillDefaults.value config.fillDefaults.events ∧
      config.fillDefaults.value.fillDefaults = ⟨config.fillDefaults.value, []⟩) ∧
    ∀ (request : Request) (lookup : String → Option Handle) (tree : FileTree)
      (cwd : WorkingDirectory),
      let attempt := request.resolve lookup tree cwd
      OutcomeLog request tree cwd attempt.result attempt.events ∧
      (∀ event ∈ attempt.events, event.severity ≠ .warn) ∧
      ∀ failure, attempt.result = .error failure →
        attempt.events = [] ∨ ∃ profile directory, request.config = none ∧
          request.triple = none ∧ tree.discover cwd = .ok (some (profile, directory)) ∧
          attempt.events = [.usingFile configFileName directory.text] := by
  refine ⟨Event.severity_eq_warn_iff, ?_, Config.tellsLookup_resolve, ?_, ?_⟩
  · intro config features events
    have hwarnings := config.warnings_setFeatures features
    constructor
    · intro hevents
      rw [← hevents]
      exact hwarnings
    · exact hwarnings.unique
  · intro config
    exact ⟨config.tellsFilling_fillDefaults, config.fillDefaults_fillDefaults⟩
  · intro request lookup tree cwd attempt
    have hlog : OutcomeLog request tree cwd attempt.result attempt.events :=
      outcomeLog_resolve request lookup tree cwd
    refine ⟨hlog, hlog.not_warn, ?_⟩
    intro failure hfailed
    rw [hfailed] at hlog
    exact hlog.searchLog.nil_or_found

end Request

end TargetConfig
