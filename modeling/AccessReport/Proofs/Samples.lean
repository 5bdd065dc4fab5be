import AccessReport.Proofs.Registry.Sound
import AccessReport.Samples.Configs
import AccessReport.Samples.Scans
/-!
# Samples at work

Samples are for trying out reports, so none of them may be in the way of one: the sample scans can
be made, and a sample configuration compiles whatever messages it is to suppress.

* `compile_withSuppression`: the built-in configuration with any messages.
* `exists_scan`: the sample scans.
-/
namespace AccessReport.Samples

open Registries

/-- **Suppression.** Whatever messages it is to suppress, the configuration compiles as the built-in
one does, to the same rules and links; it suppresses these messages, in whatever form of case and
blanks, and no others. -/
theorem compile_withSuppression (messages : List String) :
    compile (withSuppression messages) = (compile BuiltIn.config).map (fun builtIn =>
        { builtIn with suppression := .withAdditional messages })
      ∧ ∀ message, (SuppressionList.withAdditional messages).isSuppressed message = true ↔
        ∃ other ∈ messages,
          Text.lowercase (Text.trim other) = Text.lowercase (Text.trim message) := by
  constructor
  · -- the parts do not see each other, so that other messages change the last one only
    show compile { BuiltIn.config with suppression := { messages } } = _
    unfold compile
    cases RuleRegistry.compile BuiltIn.config.rules with
    | error error => rfl
    | ok rules =>
      rw [ok_bind, ok_bind]
      cases GuidanceRegistry.compile BuiltIn.config.rules BuiltIn.config.links <;> rfl
  · intro message
    rw [SuppressionList.isSuppressed_withAdditional, List.any_eq_true]
    simp only [SuppressionList.normalize, beq_iff_eq]

theorem exists_scan : ∀ sample ∈ scans, ∃ engine, Sketch.scan sample.2 = .ok engine := by
  have hscans : ∀ sample ∈ scans, (Sketch.scan sample.2).toOption.isSome = true := by decide
  intro sample hsample
  obtain ⟨engine, hengine⟩ := Option.isSome_iff_exists.mp (hscans sample hsample)
  exact ⟨engine, toOption_eq_some.mp hengine⟩

end AccessReport.Samples
