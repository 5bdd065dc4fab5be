import AccessReport.Proofs.Decoration.Alike
import AccessReport.Proofs.Decoration.Shape
import AccessReport.Proofs.Registry.Compiled
import AccessReport.Proofs.Thinning
/-!
# Suppressing in rounds

Suppression is the same in one round as in two: what two lists of messages do one after the other,
the list of all their messages does at once. That holds for a node, for a rule result and for a
scan, because a node that the first round drops would be dropped in the second, and so would a rule
result. It holds through decoration as well, because a snippet is made up before anything is
suppressed, and because what decoration adds afterwards does not look at the nodes.

* `SuppressionList.keptNode?_bind`, `SuppressionList.suppress_bind`: two rounds on a node and on a
  rule result.
* `Registries.decorateRule?_bind`: a second round after decoration.
* `ScanResults.suppress_suppress`, `Registries.suppress_decorate`: the same for scans.
* `ScanResults.thinned_suppress`: what suppression takes out of a scan, and that it leaves all else
  as it is.
* `Registries.decorate_in_rounds`: all of this for decorating with lists of messages.
-/
namespace AccessReport

/-! ## What may be missing afterwards -/

/-- All checks of a node are `any` checks with suppressed messages. -/
structure Node.Exhausted (suppressed : SuppressionList) (node : Node) : Prop where
  any : ∀ check ∈ node.anyChecks, suppressed.isSuppressed check.message = true
  all : node.allChecks = []
  none : node.noneChecks = []

/-- A node has lost its `any` checks with suppressed messages, nothing else, and not all checks. -/
structure Node.Thinned (suppressed : SuppressionList) (node left : Node) : Prop where
  checks : AccessReport.Thinned (fun check => suppressed.isSuppressed check.message = true)
    (fun check kept => kept = check ∧ suppressed.isSuppressed check.message = false)
    node.anyChecks left.anyChecks
  rest : left = { node with anyChecks := left.anyChecks }
  nonempty : left.isEmpty = false

/-- A rule result of a bucket has lost its exhausted nodes and nothing else, and outside the
inapplicable bucket not all nodes. -/
structure RuleResult.Thinned (suppressed : SuppressionList) (bucket : Bucket)
    (rule left : RuleResult) : Prop where
  nodes : AccessReport.Thinned (Node.Exhausted suppressed) (Node.Thinned suppressed)
    rule.nodes left.nodes
  rest : left = { rule with nodes := left.nodes }
  nonempty : bucket ≠ .inapplicable → left.nodes ≠ []

/-- A scan has lost rule results whose nodes are all exhausted, none of them inapplicable, and
nothing else. -/
structure ScanResults.Thinned (suppressed : SuppressionList) (scan left : ScanResults) : Prop where
  rules : ∀ bucket, AccessReport.Thinned
    (fun rule : RuleResult =>
      bucket ≠ .inapplicable ∧ ∀ node ∈ rule.nodes, node.Exhausted suppressed)
    (RuleResult.Thinned suppressed bucket) (scan.toBuckets.get bucket) (left.toBuckets.get bucket)
  rest : left = { scan with toBuckets := left.toBuckets }

/-! ## Suppression on scans -/

/-- Suppression on the rule results of a bucket. -/
def SuppressionList.suppressBucket (suppressed : SuppressionList) (bucket : Bucket)
    (rules : List RuleResult) : List RuleResult :=
  rules.filterMap (suppressed.suppress · (Registries.removesEmpty bucket))

/-- Suppression on a scan. -/
def ScanResults.suppress (suppressed : SuppressionList) (scan : ScanResults) : ScanResults :=
  { scan with toBuckets := scan.toBuckets.map suppressed.suppressBucket }

namespace SuppressionList

/-- A list suppresses what one of two lists does. -/
def Unites (both first second : SuppressionList) : Prop :=
  ∀ message, both.isSuppressed message
    = (first.isSuppressed message || second.isSuppressed message)

theorem isSuppressed_ofMessages (messages : List String) (message : String) :
    (ofMessages messages).isSuppressed message
      = messages.any fun other => normalize other == normalize message :=
  isSuppressed_withAdditional messages message

theorem unites_append (first second : List String) :
    (ofMessages (first ++ second)).Unites (ofMessages first) (ofMessages second) := by
  intro message
  simp only [isSuppressed_ofMessages, List.any_append]

theorem unites_self (suppressed : SuppressionList) : suppressed.Unites suppressed suppressed := by
  intro message
  rw [Bool.or_self]

/-! ## Two rounds -/

/-- What suppression leaves of a node, if anything. -/
def keptNode? (suppressed : SuppressionList) (node : Node) : Option Node :=
  if (suppressed.filterNode node).isEmpty then none else some (suppressed.filterNode node)

theorem keptNodes_eq (suppressed : SuppressionList) (nodes : List Node) :
    suppressed.keptNodes nodes = nodes.filterMap suppressed.keptNode? := by
  rw [keptNodes, ← List.filterMap_eq_filter, List.filterMap_map]
  congr 1
  funext node
  by_cases he : (suppressed.filterNode node).isEmpty = true <;>
    simp [Option.guard, keptNode?, he]

theorem isEmpty_iff {node : Node} :
    node.isEmpty = true ↔ node.anyChecks = [] ∧ node.allChecks = [] ∧ node.noneChecks = [] := by
  simp [Node.isEmpty, Node.checkCount, and_assoc]

/-- A node that has no check does not get one. -/
theorem isEmpty_filterNode (suppressed : SuppressionList) {node : Node}
    (h : node.isEmpty = true) : (suppressed.filterNode node).isEmpty = true := by
  obtain ⟨hany, hall, hnone⟩ := isEmpty_iff.mp h
  exact isEmpty_iff.mpr ⟨by simp [filterNode, hany], hall, hnone⟩

section
variable {both first second : SuppressionList} (h : both.Unites first second)

include h in
theorem filterNode_filterNode (node : Node) :
    second.filterNode (first.filterNode node) = both.filterNode node := by
  simp only [filterNode, List.filter_filter]
  congr 2
  funext check
  rw [h, Bool.not_or, Bool.and_comm]

include h in
theorem keptNode?_bind (node : Node) :
    (first.keptNode? node).bind second.keptNode? = both.keptNode? node := by
  simp only [keptNode?, ← filterNode_filterNode h]
  by_cases he : (first.filterNode node).isEmpty = true
  · rw [if_pos he, if_pos (isEmpty_filterNode second he), Option.bind_none]
  · rw [if_neg he, Option.bind_some, keptNode?]

include h in
theorem keptNodes_keptNodes (nodes : List Node) :
    second.keptNodes (first.keptNodes nodes) = both.keptNodes nodes := by
  simp only [keptNodes_eq, List.filterMap_filterMap, keptNode?_bind h]

include h in
/-- A rule result that the first round drops has no nodes left for the second one either. -/
theorem suppress_bind (rule : RuleResult) (removeEmpty : Bool) :
    ((first.suppress rule removeEmpty).bind fun kept => second.suppress kept removeEmpty)
      = both.suppress rule removeEmpty := by
  simp only [suppress, ← keptNodes_keptNodes h]
  by_cases hgone : (removeEmpty && (first.keptNodes rule.nodes).isEmpty) = true
  · obtain ⟨hremove, hempty⟩ := Bool.and_eq_true_iff.mp hgone
    have hnone :
        (removeEmpty && (second.keptNodes (first.keptNodes rule.nodes)).isEmpty) = true := by
      rw [hremove, List.isEmpty_iff.mp hempty]
      rfl
    rw [if_pos hgone, Option.bind_none, if_pos hnone]
  · rw [if_neg hgone, Option.bind_some]

include h in
theorem suppressBucket_suppressBucket (bucket : Bucket) (rules : List RuleResult) :
    second.suppressBucket bucket (first.suppressBucket bucket rules)
      = both.suppressBucket bucket rules := by
  simp only [suppressBucket, List.filterMap_filterMap, suppress_bind h]

end

end SuppressionList

namespace ScanResults

theorem suppress_suppress {both first second : SuppressionList} (h : both.Unites first second)
    (scan : ScanResults) : (scan.suppress first).suppress second = scan.suppress both := by
  simp only [suppress, Buckets.map, SuppressionList.suppressBucket_suppressBucket h]

theorem suppress_self (suppressed : SuppressionList) (scan : ScanResults) :
    (scan.suppress suppressed).suppress suppressed = scan.suppress suppressed :=
  suppress_suppress suppressed.unites_self scan

end ScanResults

/-! ## What is missing afterwards -/

namespace SuppressionList

variable {suppressed : SuppressionList}

theorem exhausted_of_keptNode? {node : Node} (h : suppressed.keptNode? node = none) :
    node.Exhausted suppressed := by
  unfold keptNode? at h
  split at h
  · rename_i he
    obtain ⟨hany, hall, hnone⟩ := isEmpty_iff.mp he
    refine ⟨fun check hc => ?_, hall, hnone⟩
    have hgone := List.filter_eq_nil_iff.mp hany check hc
    simpa using hgone
  · cases h

theorem thinned_of_keptNode? {node kept : Node} (h : suppressed.keptNode? node = some kept) :
    node.Thinned suppressed kept := by
  unfold keptNode? at h
  split at h
  · cases h
  · rename_i he
    cases h
    refine ⟨?_, rfl, by simpa using he⟩
    simpa [filterNode] using thinned_filter (fun check => !suppressed.isSuppressed check.message)
      node.anyChecks

theorem thinned_keptNodes (suppressed : SuppressionList) (nodes : List Node) :
    Thinned (Node.Exhausted suppressed) (Node.Thinned suppressed) nodes
      (suppressed.keptNodes nodes) := by
  rw [keptNodes_eq]
  exact thinned_filterMap (fun node => exhausted_of_keptNode?)
    (fun node kept => thinned_of_keptNode?) nodes

/-- Where nothing is left, everything was taken out. -/
theorem exhausted_of_keptNodes_eq_nil {nodes : List Node} (h : suppressed.keptNodes nodes = []) :
    ∀ node ∈ nodes, node.Exhausted suppressed := by
  intro node hn
  rw [keptNodes_eq, List.filterMap_eq_nil_iff] at h
  exact exhausted_of_keptNode? (h node hn)

theorem thinned_suppressBucket (suppressed : SuppressionList) (bucket : Bucket)
    (rules : List RuleResult) :
    Thinned (fun rule : RuleResult =>
        bucket ≠ .inapplicable ∧ ∀ node ∈ rule.nodes, node.Exhausted suppressed)
      (RuleResult.Thinned suppressed bucket) rules (suppressed.suppressBucket bucket rules) := by
  refine thinned_filterMap (fun rule h => ?_) (fun rule kept h => ?_) rules
  · rw [suppress_eq] at h
    split at h
    · rename_i hgone
      exact ⟨hgone.1, exhausted_of_keptNodes_eq_nil hgone.2⟩
    · cases h
  · rw [suppress_eq] at h
    split at h
    · cases h
    · rename_i hkept
      cases h
      exact ⟨thinned_keptNodes suppressed rule.nodes, rfl, fun hb hn => hkept ⟨hb, hn⟩⟩

end SuppressionList

theorem ScanResults.thinned_suppress (suppressed : SuppressionList) (scan : ScanResults) :
    scan.Thinned suppressed (scan.suppress suppressed) where
  rules bucket := by
    rw [suppress, Buckets.get_map]
    exact suppressed.thinned_suppressBucket bucket _
  rest := rfl

/-! ## After decoration -/

namespace Registries

/-- What decoration adds after suppression does not depend on the nodes that are left. -/
theorem suppress_attachLinks (registries : Registries) (suppressed : SuppressionList)
    (rule : RuleResult) (removeEmpty : Bool) :
    suppressed.suppress (registries.attachLinks rule) removeEmpty
      = (suppressed.suppress rule removeEmpty).map registries.attachLinks := by
  unfold SuppressionList.suppress
  dsimp only [attachLinks]
  split <;> rfl

section
variable {rules : RuleRegistry} {guidance : GuidanceRegistry}
  {both first second : SuppressionList} (h : both.Unites first second)

include h in
theorem decorateRule?_bind (bucket : Bucket) (rule : RuleResult) :
    ((decorateRule? ⟨rules, guidance, first⟩ bucket rule).bind fun kept =>
        second.suppress kept (removesEmpty bucket))
      = decorateRule? ⟨rules, guidance, both⟩ bucket rule := by
  let registries : Registries := ⟨rules, guidance, first⟩
  let texts := registries.decorateTexts rule
  calc ((first.suppress texts (removesEmpty bucket)).map registries.attachLinks).bind
        (second.suppress · (removesEmpty bucket))
      = (first.suppress texts (removesEmpty bucket)).bind fun kept =>
          (second.suppress kept (removesEmpty bucket)).map registries.attachLinks := by
        rw [Option.bind_map]
        congr 1
        funext kept
        exact suppress_attachLinks registries second kept _
    _ = ((first.suppress texts (removesEmpty bucket)).bind
          (second.suppress · (removesEmpty bucket))).map registries.attachLinks :=
        Option.map_bind.symm
    _ = (both.suppress texts (removesEmpty bucket)).map registries.attachLinks := by
        rw [SuppressionList.suppress_bind h]

include h in
/-- Suppressing more after decoration is decorating with more to suppress. -/
theorem suppress_decorate (title : String) (engine : EngineScan) :
    (decorate ⟨rules, guidance, first⟩ title engine).suppress second
      = decorate ⟨rules, guidance, both⟩ title engine := by
  have hbucket : ∀ bucket engineRules, second.suppressBucket bucket
      (decorateBucket ⟨rules, guidance, first⟩ bucket engineRules)
        = decorateBucket ⟨rules, guidance, both⟩ bucket engineRules := by
    intro bucket engineRules
    simp only [SuppressionList.suppressBucket, decorateBucket, List.filterMap_filterMap,
      decorateRule?_bind h]
  simp only [ScanResults.suppress, decorate, Buckets.map, hbucket]

end

/-- **Suppression in rounds**, with whatever rules and guidance. Decorating with two lists of
messages joined is decorating with one and then suppressing the messages of the other. The two may
change places, a round made again changes nothing, and neither order nor repetition in a list
matters. The second round takes out suppressed `any` checks, nodes and rule results that have
nothing else, and leaves all else as the first round left it. -/
theorem decorate_in_rounds (rules : RuleRegistry) (guidance : GuidanceRegistry) (title : String)
    (engine : EngineScan) (first second : List String) :
    let decorated (messages : List String) : ScanResults :=
      decorate ⟨rules, guidance, .ofMessages messages⟩ title engine
    decorated (first ++ second) = (decorated first).suppress (.ofMessages second) ∧
      (decorated first).suppress (.ofMessages second)
        = (decorated second).suppress (.ofMessages first) ∧
      ((decorated first).suppress (.ofMessages second)).suppress (.ofMessages second)
        = (decorated first).suppress (.ofMessages second) ∧
      (∀ other : List String, (∀ message, message ∈ other ↔ message ∈ first) →
        decorated other = decorated first) ∧
      (decorated first).Thinned (.ofMessages second) (decorated (first ++ second)) := by
  intro decorated
  have hjoin : ∀ first second, decorated (first ++ second)
      = (decorated first).suppress (.ofMessages second) := by
    intro first second
    exact (suppress_decorate (SuppressionList.unites_append first second) title engine).symm
  have hsame : ∀ other messages : List String, (∀ message, message ∈ other ↔ message ∈ messages) →
      decorated other = decorated messages := by
    intro other messages h
    exact decorate_alike (alike_of_suppression (SuppressionList.isSuppressed_congr h)) title engine
  refine ⟨hjoin first second, ?_, ScanResults.suppress_self _ _, fun other => hsame other first, ?_⟩
  · rw [← hjoin, ← hjoin]
    refine hsame _ _ fun message => ?_
    rw [List.mem_append, List.mem_append, Or.comm]
  · rw [hjoin]
    exact ScanResults.thinned_suppress _ _

/-- A rule whose snippets are made up. -/
def linkRules : RuleRegistry :=
  ⟨[{ id := "link", description := none, help := none, helpUrl := none,
      decorator := some .linkSummary, howToCheck := false, checks := [] }]⟩

/-- Two nodes of that rule. The snippet of the first one comes from a check that is suppressed, and
the second one has no other checks. -/
def linkScan : EngineScan where
  violations := [{
    id := "link"
    nodes := [
      { anyChecks := [
          { id := "name", message := "Named", data := .object [("url", .string "/home")] },
          { id := "sight", message := "unseen" }] },
      { anyChecks := [
          { id := "name", message := " named" },
          { id := "shape", message := "odd" }] }] }]

theorem decorate_in_rounds_links :
    let decorated (messages : List String) : ScanResults :=
      decorate ⟨linkRules, .empty, .ofMessages messages⟩ "" linkScan
    (∀ message, message ∈ ["odd", "named", "odd"] ↔ message ∈ ["named", "odd"]) ∧
      ((decorated ["odd", "named", "odd"]).violations.map fun rule => rule.nodes.map (·.snippet))
        = [[some "Link name: N/A\nLink URL: /home"]] ∧
      decorated ["odd", "named", "odd"] = (decorated ["named"]).suppress (.ofMessages ["odd"]) := by
  intro decorated
  have hmem : ∀ message, message ∈ ["odd", "named", "odd"] ↔ message ∈ ["named", "odd"] := by
    intro message
    simp only [List.mem_cons, List.not_mem_nil, or_false]
    tauto
  obtain ⟨-, -, -, hsame, -⟩ := decorate_in_rounds linkRules .empty "" linkScan ["named", "odd"] []
  obtain ⟨hjoin, -⟩ := decorate_in_rounds linkRules .empty "" linkScan ["named"] ["odd"]
  exact ⟨hmem, by decide +kernel, (hsame _ hmem).trans hjoin⟩

end Registries
end AccessReport
