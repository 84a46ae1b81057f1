import TargetConfig.Proofs.Feature.Toggles
import TargetConfig.Proofs.Json.Pretty
import TargetConfig.Proofs.Profile.RoundTrip
import TargetConfig.Summary

/-! # Renderings lose nothing

A configuration that is shown as a document or as an object can be read back from the text, so two
configurations are shown alike just when they agree in what is shown of them. This holds for all
texts in a configuration, also for those that look like a part of the format.
-/

namespace TargetConfig

theorem Enumerated.label_injective {α : Type} [Enumerated α] [LawfulEnumerated α] :
    Function.Injective (Enumerated.label (α := α)) := by
  intro first second heq
  have hfirst := LawfulEnumerated.ofLabel?_label first
  rw [heq, LawfulEnumerated.ofLabel?_label] at hfirst
  exact (Option.some.inj hfirst).symm

theorem splitFeatures_injective : Function.Injective splitFeatures :=
  Function.LeftInverse.injective joinFeatures_splitFeatures

namespace Json

theorem ofChoice_injective {α : Type} [Enumerated α] [LawfulEnumerated α] :
    Function.Injective (ofChoice (α := α)) := by
  intro first second heq
  exact Enumerated.label_injective (Json.string.inj heq)

/-- A value that may be missing is told apart from `null`. -/
theorem getD_null_injective {α : Type} {write : α → Json} (hwrite : Function.Injective write)
    (hnull : ∀ a, write a ≠ .null) :
    Function.Injective fun found : Option α => (found.map write).getD .null := by
  intro first second heq
  cases first with
  | none =>
      cases second with
      | none => rfl
      | some b => exact absurd heq.symm (hnull b)
  | some a =>
      cases second with
      | none => exact absurd heq (hnull a)
      | some b => exact congrArg some (hwrite heq)

theorem Plain.getD_null {α : Type} {write : α → Json} {depth : Nat} {found : Option α}
    (hwrite : ∀ a ∈ found, Plain depth (write a)) : Plain depth ((found.map write).getD .null) := by
  cases found with
  | none => exact .null
  | some a => exact hwrite a rfl

end Json

theorem Arch.fitsWord_pointerWidth {arch : Arch} {width : Nat}
    (hwidth : width ∈ arch.pointerWidth) : Json.FitsWord width := by
  have hle : width ≤ 64 := by
    have hall : ∀ width ∈ arch.pointerWidth, width ≤ 64 := by cases arch <;> decide
    exact hall width hwidth
  have hlt : width < Nat.pow 2 64 := Nat.lt_of_le_of_lt hle (by decide)
  constructor
  · omega
  · exact Int.ofNat_lt.mpr hlt

namespace Summary

/-- The width of a pointer is written as an integer. -/
theorem map_integer_coe (found : Option Nat) :
    ((found : Option Int).map fun width => Json.integer width) =
      found.map fun width : Nat => Json.integer width := by
  cases found <;> rfl

theorem toJson_injective : Function.Injective toJson := by
  intro first second heq
  have hwidth : Function.Injective fun found : Option Nat =>
      (found.map fun width : Nat => Json.integer width).getD .null :=
    Json.getD_null_injective (fun _ _ hwrite => Int.ofNat_inj.mp (Json.integer.inj hwrite))
      fun _ => Json.noConfusion
  have htext : Function.Injective fun found : Option String => (found.map Json.string).getD .null :=
    Json.getD_null_injective (fun _ _ => Json.string.inj) fun _ => Json.noConfusion
  cases first
  cases second
  simp only [toJson, map_integer_coe, Json.object.injEq, List.cons.injEq, Prod.mk.injEq,
    Json.string.injEq, Json.ofChoice_injective.eq_iff, hwidth.eq_iff, htext.eq_iff, true_and,
    and_true] at heq
  rw [Summary.mk.injEq]
  exact heq

theorem plain_toJson (config : Config) : Json.Plain 127 (ofConfig config).toJson := by
  have hwidth : ∀ width ∈ (ofConfig config).pointerWidth,
      Json.Plain 126 (.integer width) := by
    intro width hwidth
    exact .integer (Arch.fitsWord_pointerWidth hwidth)
  rw [toJson, map_integer_coe]
  apply Json.Plain.object
  simp only [List.forall_mem_cons]
  exact ⟨.string _, .string _, .getD_null hwidth, .getD_null fun _ _ => .string _,
    .getD_null fun _ _ => .string _, .string _, .string _, .string _, .string _, .string _,
    List.forall_mem_nil _⟩

end Summary

namespace Profile

theorem ofConfig_eq_iff (first second : Config) :
    ofConfig first = ofConfig second ↔
      first.triple = second.triple ∧ first.cpu = second.cpu ∧
        first.featureString = second.featureString ∧ first.codeModel = second.codeModel ∧
        first.optimizationLevel = second.optimizationLevel ∧
        first.relocationModel = second.relocationModel ∧
        first.targetOptions = second.targetOptions := by
  simp only [ofConfig, Profile.mk.injEq, splitFeatures_injective.eq_iff]

theorem render_injective : Function.Injective render := by
  have hread : ∀ profile : Profile, parse profile.render = .ok profile := fun profile =>
    parse_of_document profile.document_parse_render profile.ofEntries_table
  intro first second heq
  have hfirst := hread first
  rw [heq, hread second] at hfirst
  exact (Except.ok.inj hfirst).symm

end Profile

namespace Config

theorem render_toml (config : Config) :
    config.render (some "toml") = .ok (Profile.ofConfig config).render := rfl

theorem render_json (config : Config) :
    config.render (some "json") =
      .ok (Json.pretty 0 (Summary.ofConfig config).toJson ++ "\n") := rfl

/-- The document and the object of a configuration can be read back, whatever is in it. So two
configurations have the same document just when they agree in the triple, the processor, the
features, the three models and the options, and they have the same object just when their
summaries are the same. -/
theorem renderings_lossless :
    (∀ config : Config,
      (∃ text, config.render (some "toml") = .ok text ∧
        Profile.parse text = .ok (Profile.ofConfig config)) ∧
      ∃ text, config.render (some "json") = .ok text ∧
        Json.parse text = some (Summary.ofConfig config).toJson) ∧
    ∀ first second : Config,
      (first.render (some "toml") = second.render (some "toml") ↔
        first.triple = second.triple ∧ first.cpu = second.cpu ∧
          first.featureString = second.featureString ∧ first.codeModel = second.codeModel ∧
          first.optimizationLevel = second.optimizationLevel ∧
          first.relocationModel = second.relocationModel ∧
          first.targetOptions = second.targetOptions) ∧
      (first.render (some "json") = second.render (some "json") ↔
        Summary.ofConfig first = Summary.ofConfig second) := by
  constructor
  · intro config
    have htoml := Profile.parse_of_document (Profile.ofConfig config).document_parse_render
      (Profile.ofConfig config).ofEntries_table
    have hjson := Json.parse_pretty (Summary.plain_toJson config)
    exact ⟨⟨_, render_toml config, htoml⟩, _, render_json config, hjson⟩
  · intro first second
    constructor
    · rw [← Profile.ofConfig_eq_iff, render_toml, render_toml, Except.ok.injEq,
        Profile.render_injective.eq_iff]
    · rw [render_json, render_json, Except.ok.injEq]
      constructor
      · intro heq
        exact Summary.toJson_injective
          (Json.eq_of_pretty_eq (Summary.plain_toJson first) (Summary.plain_toJson second) heq)
      · intro heq
        rw [heq]

end Config

end TargetConfig
