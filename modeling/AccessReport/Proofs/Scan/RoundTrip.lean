import AccessReport.Proofs.Json.Records
import AccessReport.Proofs.Json.RoundTrip
import AccessReport.Report
/-!
# Written scans

A scan is read back from the members that are written for it, from its checks upwards. The data of a
check is the one part whose form is not fixed: `Check.Held` says that it can be held at all, which
every part around it passes on.

* `Check.ofDocument?_toJson`, `Node.ofDocument?_toJson`, `RuleResult.ofDocument?_toJson`: the parts.
* `EngineScan.ofDocument?_toJson`, `ScanResults.ofDocument?_toJson`: scans.
* `EngineScan.exact_toJson`, `ScanResults.exact_toJson`: a scan has seven levels more than its data.
* `EngineScan.ofText?_compact`: a scan from its text.
-/
namespace AccessReport

open Document Json Fields

theorem GuidanceTag.ofDocument?_toJson (tag : GuidanceTag) :
    ofDocument? (ofJson tag.toJson) = some tag := by
  have hlisted : Listed ["id", "displayText"]
      [("id", Json.string tag.id), ("displayText", .string tag.displayText)] := .refl _
  rw [ofDocument?, toJson, record?_written hlisted (by decide) (by decide)]
  simp [Grouping.lookup_cons_eq]

theorem GuidanceLink.ofDocument?_toJson (link : GuidanceLink) :
    ofDocument? (ofJson link.toJson) = some link := by
  have hlisted := ((Listed.member "text" (.string link.text)).append
    (.member "href" (.string link.href))).append
    (.ifSome "tags" (fun tags => .array (tags.map GuidanceTag.toJson)) link.tags)
  have htags : readOr none (option? (list? GuidanceTag.ofDocument?))
      (link.tags.map fun tags => .array (tags.map GuidanceTag.toJson)) = some link.tags :=
    readOr_map (by simp [ofJson]) fun tags _ =>
      list?_written fun tag _ => tag.ofDocument?_toJson
  rw [ofDocument?, toJson, record?_written hlisted (by decide) (by decide)]
  simp [List.lookup_append, htags]

theorem GuidanceTag.exact_toJson (tag : GuidanceTag) (levels : Nat) :
    Exact (levels + 1) tag.toJson :=
  .object (by simp [Exact.string])

theorem GuidanceLink.exact_toJson (link : GuidanceLink) (levels : Nat) :
    Exact (levels + 3) link.toJson := by
  have htags : ∀ tags : List GuidanceTag,
      Exact (levels + 2) (.array (tags.map GuidanceTag.toJson)) :=
    fun tags => exact_array fun tag _ => tag.exact_toJson levels
  refine .object ?_
  simp only [List.forall_mem_append, forall_mem_member, forall_mem_memberIfSome]
  exact ⟨⟨.string .., .string ..⟩, fun tags _ => htags tags⟩

theorem GuidanceLink.list?_written_links (links : List GuidanceLink) :
    list? ofDocument? (ofJson (.array (links.map toJson))) = some links :=
  list?_written fun link _ => link.ofDocument?_toJson

theorem GuidanceLink.exact_links (links : List GuidanceLink) (levels : Nat) :
    Exact (levels + 4) (.array (links.map toJson)) :=
  exact_array fun link _ => link.exact_toJson levels

/-! ## Checks, nodes and rule results -/

/-- The data of a check can be held: it is sorted, and no deeper than what is left below the parts
of a scan around it. -/
structure Check.Held (levels : Nat) (check : Check) : Prop where
  exact : check.data.Exact levels
  sorted : check.data.Sorted

namespace Check

variable {check : Check} {levels : Nat}

theorem held_of_null (levels : Nat) (h : check.data = .null) : check.Held levels := by
  refine ⟨?_, ?_⟩
  · rw [h]
    exact .null levels
  · rw [h]
    exact .null

theorem ofDocument?_toJson (h : check.Held levels) :
    ofDocument? (ofJson check.toJson) = some check := by
  have hlisted : Listed ["id", "message", "data", "result"]
      [("id", Json.string check.id), ("message", .string check.message), ("data", check.data),
        ("result", .bool check.result)] := .refl _
  rw [ofDocument?, toJson, record?_written hlisted (by decide) (by decide)]
  simp [Grouping.lookup_cons_eq, value?_ofJson h.sorted]

theorem exact_toJson (h : check.Held levels) : Exact (levels + 1) check.toJson :=
  .object (by simp [Exact.string, Exact.bool, h.exact])

theorem list?_written_checks {checks : List Check} (h : ∀ check ∈ checks, check.Held levels) :
    list? ofDocument? (ofJson (.array (checks.map toJson))) = some checks :=
  list?_written fun check hm => ofDocument?_toJson (h check hm)

theorem exact_checks {checks : List Check} (h : ∀ check ∈ checks, check.Held levels) :
    Exact (levels + 2) (.array (checks.map toJson)) :=
  exact_array fun check hm => exact_toJson (h check hm)

end Check

/-- All checks of the node can be held. -/
def Node.Held (levels : Nat) (node : Node) : Prop := ∀ check ∈ node.checks, check.Held levels

namespace Node

variable {node : Node} {levels : Nat}

theorem Held.groups (h : node.Held levels) :
    (∀ check ∈ node.anyChecks, check.Held levels)
      ∧ (∀ check ∈ node.allChecks, check.Held levels)
      ∧ ∀ check ∈ node.noneChecks, check.Held levels := by
  unfold Held checks at h
  rw [List.forall_mem_append, List.forall_mem_append, and_assoc] at h
  exact h

theorem ofDocument?_toJson (h : node.Held levels) :
    ofDocument? (ofJson node.toJson) = some node := by
  obtain ⟨hany, hall, hnone⟩ := h.groups
  have hlisted := (((((((Listed.member "target" (strings node.target)).append
    (.member "html" (.string node.html))).append
    (.ifSome "snippet" .string node.snippet)).append
    (.ifSome "failureSummary" .string node.failureSummary)).append
    (.member "any" (.array (node.anyChecks.map Check.toJson)))).append
    (.member "all" (.array (node.allChecks.map Check.toJson)))).append
    (.member "none" (.array (node.noneChecks.map Check.toJson))))
  rw [ofDocument?, toJson, record?_written hlisted (by decide) (by decide)]
  simp [List.lookup_append, list?_strings, readOr_string, Check.list?_written_checks hany,
    Check.list?_written_checks hall, Check.list?_written_checks hnone]

theorem exact_toJson (h : node.Held levels) : Exact (levels + 3) node.toJson := by
  obtain ⟨hany, hall, hnone⟩ := h.groups
  refine .object ?_
  simp only [List.forall_mem_append, forall_mem_member, forall_mem_memberIfSome]
  exact ⟨⟨⟨⟨⟨⟨exact_strings _ _, .string ..⟩, fun _ _ => .string ..⟩, fun _ _ => .string ..⟩,
    Check.exact_checks hany⟩, Check.exact_checks hall⟩, Check.exact_checks hnone⟩

end Node

namespace RuleResult

/-- All checks of the rule's nodes can be held. -/
def Held (levels : Nat) (rule : RuleResult) : Prop := ∀ node ∈ rule.nodes, node.Held levels

variable {rule : RuleResult} {levels : Nat}

theorem ofDocument?_toJson (h : rule.Held levels) :
    ofDocument? (ofJson rule.toJson) = some rule := by
  have hlisted := ((((((Listed.member "id" (.string rule.id)).append
    (.member "description" (.string rule.description))).append
    (.member "help" (.string rule.help))).append
    (.member "helpUrl" (.string rule.helpUrl))).append
    (.member "nodes" (.array (rule.nodes.map Node.toJson)))).append
    (.ifSome "guidanceLinks" (fun links => .array (links.map GuidanceLink.toJson))
      rule.guidanceLinks))
  have hnodes : list? Node.ofDocument? (ofJson (.array (rule.nodes.map Node.toJson)))
      = some rule.nodes :=
    list?_written fun node hm => Node.ofDocument?_toJson (h node hm)
  have hlinks : readOr none (option? (list? GuidanceLink.ofDocument?))
      (rule.guidanceLinks.map fun links => .array (links.map GuidanceLink.toJson))
        = some rule.guidanceLinks :=
    readOr_map (by simp [ofJson]) fun links _ => GuidanceLink.list?_written_links links
  rw [ofDocument?, toJson, record?_written hlisted (by decide) (by decide)]
  simp [List.lookup_append, hnodes, hlinks]

theorem exact_toJson (h : rule.Held levels) : Exact (levels + 5) rule.toJson := by
  have hnodes : Exact (levels + 4) (.array (rule.nodes.map Node.toJson)) :=
    exact_array fun node hm => Node.exact_toJson (h node hm)
  refine .object ?_
  simp only [List.forall_mem_append, forall_mem_member, forall_mem_memberIfSome]
  exact ⟨⟨⟨⟨⟨.string .., .string ..⟩, .string ..⟩, .string ..⟩, hnodes⟩,
    fun links _ => GuidanceLink.exact_links links levels⟩

end RuleResult

/-! ## Scans -/

namespace Buckets

/-- All checks that are in the buckets can be held. -/
def Held (levels : Nat) (buckets : Buckets) : Prop := ∀ rule ∈ buckets.walk, rule.Held levels

variable {buckets : Buckets} {levels : Nat}

theorem Held.bucket (h : buckets.Held levels) (bucket : Bucket) :
    ∀ rule ∈ buckets.get bucket, rule.Held levels := fun rule hm =>
  h rule (List.mem_flatMap.mpr ⟨bucket, by cases bucket <;> decide, hm⟩)

theorem list?_written_bucket (h : buckets.Held levels) (bucket : Bucket) :
    list? RuleResult.ofDocument? (ofJson (.array ((buckets.get bucket).map RuleResult.toJson)))
      = some (buckets.get bucket) :=
  list?_written fun rule hm => RuleResult.ofDocument?_toJson (h.bucket bucket rule hm)

theorem exact_members (h : buckets.Held levels) :
    ∀ member ∈ buckets.members, Exact (levels + 6) member.2 := by
  intro member hm
  obtain ⟨bucket, -, rfl⟩ := List.mem_map.mp hm
  exact exact_array fun rule hm => RuleResult.exact_toJson (h.bucket bucket rule hm)

theorem listed_members (buckets : Buckets) {names : List String} {others : List (String × Json)}
    (h : Listed names others) :
    Listed (["passes", "violations", "incomplete", "inapplicable"] ++ names)
      (buckets.members ++ others) :=
  .append (.refl _) h

end Buckets

/-- A scan of an engine that a text can hold: so are all its checks, and its time has at most 64
bits. -/
structure EngineScan.Held (levels : Nat) (scan : EngineScan) : Prop where
  checks : scan.toBuckets.Held levels
  millis : ∀ n, scan.timestamp = .epochMillis n → Timestamp.holdsMillis n = true

theorem Timestamp.exact_toJson (timestamp : Timestamp) (levels : Nat)
    (h : ∀ n, timestamp = .epochMillis n → holdsMillis n = true) :
    Exact levels timestamp.toJson := by
  cases timestamp with
  | epochMillis n =>
    have hn := h n rfl
    rw [holdsMillis, Bool.and_eq_true, decide_eq_true_iff, decide_eq_true_iff] at hn
    refine .integer levels ?_
    rw [holdsInteger, Bool.and_eq_true, decide_eq_true_iff, decide_eq_true_iff]
    omega
  | text formatted => exact .string levels formatted

namespace EngineScan

variable {scan : EngineScan} {levels : Nat}

theorem ofDocument?_toJson (h : scan.Held levels) :
    ofDocument? (ofJson scan.toJson) = some scan := by
  have hlisted : Listed _ (scan.members
      ++ [("timestamp", scan.timestamp.toJson), ("url", .string scan.url)]) :=
    scan.listed_members (.refl ["timestamp", "url"])
  have hrules := Buckets.list?_written_bucket h.checks
  have htime := scan.timestamp.ofDocument?_toJson h.millis
  rw [ofDocument?, toJson, record?_written hlisted (by decide) (by decide)]
  simp [Grouping.lookup_cons_eq, Buckets.members, Bucket.all, Bucket.name, hrules, htime]
  rfl

theorem exact_toJson (h : scan.Held levels) : Exact (levels + 7) scan.toJson := by
  refine .object (List.forall_mem_append.mpr ⟨Buckets.exact_members h.checks, ?_⟩)
  simp [scan.timestamp.exact_toJson (levels + 6) h.millis, Exact.string]

/-- A scan that is written is read as itself, as long as its data is not too deep for a reader. -/
theorem ofText?_compact (h : scan.Held levels) (hl : levels + 7 ≤ deepest) :
    EngineScan.ofText? scan.toJson.compact = some scan := by
  rw [EngineScan.ofText?, read?_compact ((exact_toJson h).mono hl)]
  exact ofDocument?_toJson h

end EngineScan

namespace ScanResults

variable {scan : ScanResults} {levels : Nat}

theorem ofDocument?_toJson (h : scan.toBuckets.Held levels) :
    ofDocument? (ofJson scan.toJson) = some scan := by
  have hlisted : Listed _ (scan.members ++ [("timestamp", .string scan.timestamp),
      ("targetPageUrl", .string scan.targetPageUrl),
      ("targetPageTitle", .string scan.targetPageTitle)]) :=
    scan.listed_members (.refl ["timestamp", "targetPageUrl", "targetPageTitle"])
  have hrules := Buckets.list?_written_bucket h
  rw [ofDocument?, toJson, record?_written hlisted (by decide) (by decide)]
  simp [Grouping.lookup_cons_eq, Buckets.members, Bucket.all, Bucket.name, hrules]
  rfl

theorem exact_toJson (h : scan.toBuckets.Held levels) : Exact (levels + 7) scan.toJson := by
  refine .object (List.forall_mem_append.mpr ⟨Buckets.exact_members h, ?_⟩)
  simp [Exact.string]

end ScanResults

end AccessReport
