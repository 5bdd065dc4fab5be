import AccessReport.Proofs.Grouping
import AccessReport.Unified.Rules
/-!
# The first rule result of every id

The walk over the buckets meets the same id again and again. What stays is what it meets first, and
all that comes later with the same id could be left out of the scan as well. This is said in two
ways: as what each id gets, read off the whole walk, and as what deleting a later rule result
changes, which is nothing. Both say the same, since deletions lead from every scan to one in which
no id is repeated.

* `firstOccurrences_append`: a walk in two parts.
* `ids_firstOccurrences`, `find?_of_mem_firstOccurrences`: which ids there are, and what is said of
  each.
* `walk_of_place`, `walk_without`: a place in the walk, and the walk without it.
* `ofScan_first`: both ways, and that the second determines the first.
-/
namespace AccessReport

/-! ## Places in a scan -/

/-- What the walk meets before a place of a bucket. -/
def Buckets.before (buckets : Buckets) (bucket : Bucket) (index : Nat) : List RuleResult :=
  (Bucket.all.takeWhile (· ≠ bucket)).flatMap buckets.get ++ (buckets.get bucket).take index

/-- What the walk meets behind a place of a bucket. -/
def Buckets.behind (buckets : Buckets) (bucket : Bucket) (index : Nat) : List RuleResult :=
  (buckets.get bucket).drop (index + 1)
    ++ (Bucket.all.dropWhile (· ≠ bucket)).tail.flatMap buckets.get

/-- The buckets without the rule result at a place. -/
def Buckets.without (buckets : Buckets) (bucket : Bucket) (index : Nat) : Buckets :=
  buckets.map fun other rules => if other = bucket then rules.eraseIdx index else rules

/-- The rule result at a place has an id that the walk has met before. -/
def Buckets.Repeats (buckets : Buckets) (bucket : Bucket) (index : Nat) : Prop :=
  ∃ rule, (buckets.get bucket)[index]? = some rule ∧
    rule.id ∈ (buckets.before bucket index).map (·.id)

/-- The scan without the rule result at a place. -/
def ScanResults.without (scan : ScanResults) (bucket : Bucket) (index : Nat) : ScanResults :=
  { scan with toBuckets := scan.toBuckets.without bucket index }

namespace Buckets

variable {buckets : Buckets} {bucket : Bucket} {index : Nat}

theorem walk_eq (buckets : Buckets) :
    buckets.walk
      = buckets.passes ++ buckets.violations ++ buckets.incomplete ++ buckets.inapplicable := by
  simp [walk, Bucket.all, get]

theorem walk_of_place {rule : RuleResult} (h : (buckets.get bucket)[index]? = some rule) :
    buckets.walk = buckets.before bucket index ++ rule :: buckets.behind bucket index := by
  obtain ⟨hlt, rfl⟩ := List.getElem?_eq_some_iff.mp h
  have hget : buckets.get bucket = (buckets.get bucket).take index
      ++ (buckets.get bucket)[index] :: (buckets.get bucket).drop (index + 1) := by
    rw [List.getElem_cons_drop, List.take_append_drop]
  have hall : buckets.walk = (Bucket.all.takeWhile (· ≠ bucket)).flatMap buckets.get
      ++ (buckets.get bucket ++ (Bucket.all.dropWhile (· ≠ bucket)).tail.flatMap buckets.get) := by
    cases bucket <;> simp [walk, Bucket.all]
  rw [hall, before, behind]
  conv_lhs => rw [hget]
  simp only [List.append_assoc, List.cons_append]

theorem walk_without (buckets : Buckets) (bucket : Bucket) (index : Nat) :
    (buckets.without bucket index).walk
      = buckets.before bucket index ++ buckets.behind bucket index := by
  cases bucket <;>
    simp [walk, without, map, get, before, behind, Bucket.all, List.eraseIdx_eq_take_drop_succ]

/-- Where no place repeats an id, the whole walk has distinct ids. -/
theorem nodup_append_of_fresh (met rules : List RuleResult)
    (hfresh : ∀ (index : Nat) (rule : RuleResult), rules[index]? = some rule →
      rule.id ∉ (met ++ rules.take index).map (·.id))
    (hmet : (met.map (·.id)).Nodup) : ((met ++ rules).map (·.id)).Nodup := by
  induction rules generalizing met with
  | nil => simpa using hmet
  | cons rule rest ih =>
    have hrule : rule.id ∉ met.map (·.id) := by simpa using hfresh 0 rule rfl
    rw [List.append_cons]
    refine ih (met ++ [rule]) (fun index other hother => ?_) ?_
    · simpa using hfresh (index + 1) other hother
    · rw [List.map_append, List.nodup_append]
      refine ⟨hmet, by simp, fun id hid other hother => ?_⟩
      rw [List.map_singleton, List.mem_singleton] at hother
      rintro rfl
      exact hrule (hother ▸ hid)

theorem nodup_of_not_repeats (h : ∀ bucket index, ¬buckets.Repeats bucket index) :
    (buckets.walk.map (·.id)).Nodup := by
  have hfresh (bucket : Bucket) (index : Nat) (rule : RuleResult)
      (hrule : (buckets.get bucket)[index]? = some rule) :
      rule.id ∉ (buckets.before bucket index).map (·.id) :=
    fun hmem => h bucket index ⟨rule, hrule, hmem⟩
  rw [walk_eq]
  refine nodup_append_of_fresh _ _ ?_ (nodup_append_of_fresh _ _ ?_
    (nodup_append_of_fresh _ _ ?_ (nodup_append_of_fresh [] _ ?_ .nil)))
  · simpa [before, Bucket.all, get] using hfresh .inapplicable
  · simpa [before, Bucket.all, get] using hfresh .incomplete
  · simpa [before, Bucket.all, get] using hfresh .violations
  · simpa [before, Bucket.all, get] using hfresh .passes

end Buckets

namespace UnifiedRule

/-! ## The walk -/

theorem firstOccurrences_congr {seen others : List String} (h : ∀ id, id ∈ seen ↔ id ∈ others)
    (rules : List RuleResult) : firstOccurrences seen rules = firstOccurrences others rules := by
  induction rules generalizing seen others with
  | nil => rfl
  | cons rule rest ih =>
    have hseen : seen.contains rule.id = others.contains rule.id := by
      rw [Bool.eq_iff_iff, List.contains_iff_mem, List.contains_iff_mem, h]
    have hrest : firstOccurrences (rule.id :: seen) rest
        = firstOccurrences (rule.id :: others) rest :=
      ih fun id => by rw [List.mem_cons, List.mem_cons, h]
    rw [firstOccurrences, firstOccurrences, hseen, ih h, hrest]

/-- The second part of a walk leaves out what the first part has met. -/
theorem firstOccurrences_append (seen : List String) (rules more : List RuleResult) :
    firstOccurrences seen (rules ++ more)
      = firstOccurrences seen rules ++ firstOccurrences (rules.map (·.id) ++ seen) more := by
  induction rules generalizing seen with
  | nil => rfl
  | cons rule rest ih =>
    rw [List.cons_append, firstOccurrences, firstOccurrences, List.map_cons, List.cons_append]
    split
    · rename_i hseen
      rw [List.contains_iff_mem] at hseen
      rw [ih]
      congr 1
      refine firstOccurrences_congr (fun id => ?_) more
      simp only [List.mem_cons, List.mem_append]
      refine ⟨.inr, ?_⟩
      rintro (rfl | h)
      · exact .inr hseen
      · exact h
    · rw [ih, List.cons_append]
      congr 2
      refine firstOccurrences_congr (fun id => ?_) more
      simp only [List.mem_cons, List.mem_append]
      tauto

theorem firstOccurrences_concat (rules : List RuleResult) (rule : RuleResult) :
    firstOccurrences [] (rules ++ [rule])
      = if rule.id ∈ rules.map (·.id) then firstOccurrences [] rules
        else firstOccurrences [] rules ++ [rule] := by
  rw [firstOccurrences_append, List.append_nil]
  by_cases h : rule.id ∈ rules.map (·.id)
  · rw [if_pos h]
    simp [firstOccurrences, h]
  · rw [if_neg h]
    simp [firstOccurrences, h]

/-- A rule result that comes later changes nothing. -/
theorem firstOccurrences_delete {met rest : List RuleResult} {rule : RuleResult}
    (h : rule.id ∈ met.map (·.id)) :
    firstOccurrences [] (met ++ rule :: rest) = firstOccurrences [] (met ++ rest) := by
  rw [firstOccurrences_append, firstOccurrences_append, List.append_nil, firstOccurrences,
    if_pos (List.contains_iff_mem.mpr h)]

/-- Every id is met for the first time once. -/
theorem ids_firstOccurrences (rules : List RuleResult) :
    (firstOccurrences [] rules).map (·.id) = (rules.map (·.id)).eraseDups := by
  induction rules using List.reverseRecOn with
  | nil => rfl
  | append_singleton rules rule ih =>
    rw [firstOccurrences_concat, List.map_append, List.map_singleton, Grouping.eraseDups_concat,
      ← ih]
    split
    · rfl
    · rw [List.map_append, List.map_singleton]

/-- What stays is the first of its id. -/
theorem find?_of_mem_firstOccurrences {seen : List String} {rules : List RuleResult}
    {rule : RuleResult} (h : rule ∈ firstOccurrences seen rules) :
    rules.find? (·.id == rule.id) = some rule := by
  induction rules generalizing seen with
  | nil => cases h
  | cons first rest ih =>
    have hskip (hne : first.id ≠ rule.id) (hrest : rest.find? (·.id == rule.id) = some rule) :
        (first :: rest).find? (·.id == rule.id) = some rule := by
      rw [List.find?_cons, beq_eq_false_iff_ne.mpr hne]
      exact hrest
    have hunseen {seen : List String} (h : rule ∈ firstOccurrences seen rest) : rule.id ∉ seen :=
      fun hmem => not_mem_firstOccurrences seen rest rule.id hmem (List.mem_map_of_mem h)
    rw [firstOccurrences] at h
    split at h
    · rename_i hseen
      rw [List.contains_iff_mem] at hseen
      exact hskip (fun he => hunseen h (he ▸ hseen)) (ih h)
    · rcases List.mem_cons.mp h with rfl | h
      · simp
      · exact hskip (fun he => hunseen h (he ▸ List.mem_cons_self)) (ih h)

theorem firstOccurrences_of_nodup {rules : List RuleResult} (h : (rules.map (·.id)).Nodup) :
    firstOccurrences [] rules = rules := by
  induction rules using List.reverseRecOn with
  | nil => rfl
  | append_singleton rules rule ih =>
    rw [List.map_append, List.nodup_append] at h
    have hnew : rule.id ∉ rules.map (·.id) := fun hmem =>
      h.2.2 _ hmem rule.id (by simp) rfl
    rw [firstOccurrences_concat, if_neg hnew, ih h.1]

/-! ## Scans -/

theorem ofScan_without {scan : ScanResults} {bucket : Bucket} {index : Nat}
    (h : scan.toBuckets.Repeats bucket index) :
    ofScan (scan.without bucket index) = ofScan scan := by
  obtain ⟨rule, hrule, hmet⟩ := h
  rw [ofScan, ofScan, Buckets.walk_of_place hrule, ScanResults.without, Buckets.walk_without,
    firstOccurrences_delete hmet]

/-- A conversion that lists scans without repeated ids as they are, and does not see later rule
results in others, can only be the one that keeps the first. -/
theorem eq_ofScan {convert : ScanResults → List UnifiedRule}
    (hlists : ∀ scan : ScanResults, (scan.toBuckets.walk.map (·.id)).Nodup →
      convert scan = scan.toBuckets.walk.map RuleResult.toUnifiedRule)
    (hwithout : ∀ (scan : ScanResults) (bucket : Bucket) (index : Nat),
      scan.toBuckets.Repeats bucket index → convert (scan.without bucket index) = convert scan)
    (scan : ScanResults) : convert scan = ofScan scan := by
  induction hlength : scan.toBuckets.walk.length using Nat.strongRecOn generalizing scan with
  | ind length ih =>
    by_cases hrepeats : ∃ bucket index, scan.toBuckets.Repeats bucket index
    · obtain ⟨bucket, index, h⟩ := hrepeats
      have hplace := h
      obtain ⟨rule, hrule, -⟩ := hplace
      have hlt : (scan.without bucket index).toBuckets.walk.length < length := by
        rw [← hlength, Buckets.walk_of_place hrule, ScanResults.without, Buckets.walk_without]
        simp
      rw [← hwithout scan bucket index h, ih _ hlt _ rfl, ofScan_without h]
    · have hnodup := Buckets.nodup_of_not_repeats fun bucket index h => hrepeats ⟨bucket, index, h⟩
      rw [hlists scan hnodup, ofScan, firstOccurrences_of_nodup hnodup]

/-- **First occurrences.** The rules of a scan have the ids that the walk over passes, violations,
incomplete and inapplicable results meets, each once and in the order in which they are met first;
description, address and guidance are those of the first rule result with the id. A later rule
result can be deleted from the scan without a change, and no other conversion allows that. -/
theorem ofScan_first :
    (∀ scan : ScanResults,
      let walked := scan.passes ++ scan.violations ++ scan.incomplete ++ scan.inapplicable
      (ofScan? (some scan)).map (·.id) = (walked.map (·.id)).eraseDups ∧
        ∀ rule ∈ ofScan? (some scan), ∃ first, walked.find? (·.id == rule.id) = some first ∧
          rule.description = first.description ∧ rule.url = first.helpUrl ∧
          rule.guidance = first.guidanceLinks.getD []) ∧
    (∀ (scan : ScanResults) (bucket : Bucket) (index : Nat),
      scan.toBuckets.Repeats bucket index →
        ofScan? (some (scan.without bucket index)) = ofScan? (some scan)) ∧
    ∀ convert : ScanResults → List UnifiedRule,
      (∀ scan : ScanResults, (scan.toBuckets.walk.map (·.id)).Nodup →
        convert scan = scan.toBuckets.walk.map RuleResult.toUnifiedRule) →
      (∀ (scan : ScanResults) (bucket : Bucket) (index : Nat),
        scan.toBuckets.Repeats bucket index →
          convert (scan.without bucket index) = convert scan) →
      ∀ scan, convert scan = ofScan? (some scan) := by
  refine ⟨fun scan => ?_, fun scan bucket index h => ofScan_without h,
    fun convert hlists hwithout scan => eq_ofScan hlists hwithout scan⟩
  have hsome : ofScan? (some scan)
      = (firstOccurrences [] scan.toBuckets.walk).map RuleResult.toUnifiedRule := rfl
  rw [hsome, ← Buckets.walk_eq, List.map_map]
  refine ⟨ids_firstOccurrences _, fun rule hrule => ?_⟩
  obtain ⟨first, hfirst, rfl⟩ := List.mem_map.mp hrule
  exact ⟨first, find?_of_mem_firstOccurrences hfirst, rfl, rfl, rfl⟩

/-- An id that is met in one bucket and then twice in another: both of the later ones can go. -/
theorem ofScan_three_times :
    let scan : ScanResults := {
      passes := [{ id := "alt", description := "first" }]
      violations := [{ id := "alt", description := "second" }, { id := "title" }, { id := "alt" }] }
    (ofScan? (some scan)).map (fun rule => (rule.id, rule.description))
        = [("alt", "first"), ("title", "")] ∧
      ofScan? (some (scan.without .violations 2)) = ofScan? (some scan) ∧
      ofScan? (some ((scan.without .violations 2).without .violations 0)) = ofScan? (some scan) ∧
      ofScan scan = ofScan? (some scan) := by
  intro scan
  have hlast : scan.toBuckets.Repeats .violations 2 := ⟨_, rfl, by decide⟩
  have hfirst : (scan.without .violations 2).toBuckets.Repeats .violations 0 :=
    ⟨_, rfl, by decide⟩
  obtain ⟨-, hdelete, honly⟩ := ofScan_first
  refine ⟨by decide, hdelete _ _ _ hlast, (hdelete _ _ _ hfirst).trans (hdelete _ _ _ hlast),
    honly ofScan (fun scan h => ?_) (fun scan bucket index => ofScan_without) scan⟩
  rw [ofScan, firstOccurrences_of_nodup h]

end UnifiedRule
end AccessReport
