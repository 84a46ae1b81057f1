import TargetConfig.Proofs.Config.History
import TargetConfig.Proofs.Feature.Toggles
import TargetConfig.Proofs.Profile.RoundTrip

/-! # Configurations survive a document

Writing a configuration as a document and reading the document keeps every setting, whatever texts
the history of the configuration has put into it, and forgets what lookups found. Repeating the last
lookup brings that back.
-/

namespace TargetConfig.Config

/-- The configuration with the same settings, before any lookup. -/
def unresolved (config : Config) : Config := { config with target := none, arch := none }

/-- The configuration that is built from the document of a configuration. -/
def reload (config : Config) : Except ConfigError Config :=
  (Profile.parse (Profile.ofConfig config).render).map fun profile => profile.toConfig.value

/-- A document lists the features one by one; joining them again gives the text they came from. -/
theorem toConfig_ofConfig (config : Config) :
    (Profile.ofConfig config).toConfig.value = config.unresolved := by
  change { config.unresolved with
    featureString := joinFeatures (splitFeatures config.featureString) } = config.unresolved
  rw [joinFeatures_splitFeatures]
  rfl

theorem reload_eq (config : Config) : config.reload = .ok config.unresolved := by
  let profile := Profile.ofConfig config
  have hparse : Profile.parse profile.render = .ok profile :=
    Profile.parse_of_document profile.document_parse_render profile.ofEntries_table
  change (Profile.parse profile.render).map _ = _
  rw [hparse, Except.map, toConfig_ofConfig]

theorem unresolved_eq_self_iff (config : Config) :
    config.unresolved = config ↔ config.target = none ∧ config.arch = none := by
  constructor
  · intro heq
    rw [← heq]
    exact ⟨rfl, rfl⟩
  · intro hopen
    obtain ⟨htarget, harch⟩ := hopen
    cases config
    dsimp only at htarget harch
    subst htarget harch
    rfl

/-- A lookup, even one that fails, leaves the architecture behind. -/
theorem unresolved_run_eq_self_iff (triple : String) (operations : List Operation) :
    ((new triple).run operations).unresolved = (new triple).run operations ↔
      ¬ LookupTried operations := by
  rw [unresolved_eq_self_iff]
  obtain ⟨htried, huntried⟩ := arch_run triple operations
  constructor
  · intro hopen hlookup
    rw [htried hlookup] at hopen
    exact absurd hopen.2 (Option.some_ne_none _)
  · intro hnot
    have hlast : lastLookup triple operations = none := lastLookup_append triple [] hnot
    exact ⟨(target_run triple operations).trans hlast, huntried hnot⟩

theorem resolve_unresolved {config : Config} {lookup : String → Option Handle}
    (harch : config.arch = some (archOf config.triple))
    (htarget : config.target = lookup config.triple) :
    (config.unresolved.resolve lookup).value.2 = config := by
  rw [resolve_value]
  cases config
  dsimp only at harch htarget
  subst harch htarget
  rfl

/-- The last lookup of a history, made again, finds what it found. -/
theorem resolve_unresolved_run (triple : String) (before : List Operation)
    (lookup : String → Option Handle) {after : List Operation} (hafter : ¬ LookupTried after) :
    let config := (new triple).run (before ++ .resolve lookup :: after)
    (config.unresolved.resolve lookup).value.2 = config := by
  intro config
  have htriple : config.triple = triple := triple_run (new triple) _
  -- what comes after the last lookup leaves its outcome alone
  apply resolve_unresolved
  · rw [htriple]
    exact (arch_run triple _).1 ⟨.resolve lookup, by simp, rfl⟩
  · rw [htriple, target_run, List.append_cons, lastLookup_append triple _ hafter,
      lastLookup_concat]
    rfl

/-- A configuration with any history survives its document, up to what lookups found. -/
theorem reload_run (triple : String) (operations : List Operation) :
    ∃ again, ((new triple).run operations).reload = .ok again ∧
      again = { (new triple).run operations with target := none, arch := none } ∧
      again.featureString = ((new triple).run operations).featureString ∧
      (again = (new triple).run operations ↔ ¬ LookupTried operations) ∧
      again.reload = .ok again ∧
      ∀ before lookup after, operations = before ++ .resolve lookup :: after →
        ¬ LookupTried after → (again.resolve lookup).value.2 = (new triple).run operations := by
  refine ⟨_, reload_eq _, rfl, rfl, unresolved_run_eq_self_iff triple operations, ?_, ?_⟩
  · exact reload_eq _
  · intro before lookup after hoperations hafter
    rw [hoperations]
    exact resolve_unresolved_run triple before lookup hafter

/-- The document splits a feature at its comma, keeps an empty one and one without a sign, and
leaves out the backend, which the lookup finds again. -/
theorem reload_run_arm :
    let operations : List Operation :=
      [.setCpu "a\"b", .setFeatures ["+a,+b", "", "c"], .resolve Registry.full.lookup,
        .setCodeModel .large, .fillDefaults]
    ∃ again, ((new "armv7-none").run operations).reload = .ok again ∧
      again.featureString = "+a,+b,,c" ∧ again ≠ (new "armv7-none").run operations ∧
      (again.resolve Registry.full.lookup).value.2 = (new "armv7-none").run operations := by
  intro operations
  obtain ⟨again, hreload, _, hfeatures, hsame, _, hrestored⟩ := reload_run "armv7-none" operations
  have htried : LookupTried operations := ⟨.resolve Registry.full.lookup, by simp [operations], rfl⟩
  have hafter : ¬ LookupTried [.setCodeModel .large, .fillDefaults] := by
    simp [LookupTried, Operation.lookup?]
  refine ⟨again, hreload, hfeatures.trans rfl, fun heq => hsame.mp heq htried, ?_⟩
  exact hrestored [.setCpu "a\"b", .setFeatures ["+a,+b", "", "c"]] _ _ rfl hafter

end TargetConfig.Config
