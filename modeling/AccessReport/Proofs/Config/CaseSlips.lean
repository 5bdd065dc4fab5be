import AccessReport.Proofs.Config.Suggestions
/-!
# Slips of case

In lower case, an id that was written with wrong capitals is what was wanted. That makes it as close
as can be, but not closer than an id that only begins with what was wanted or that what was wanted
begins with. Among all of these the configured order decides, so whether the slip is put right by
the first suggestion, or by any, depends on the ids that are configured before it.

* `Suggestion.eq_filter_append`: in a sorted list the items of the lowest rank come first.
* `Suggestion.suggestions_beginning`: the suggestions are the ids that begin alike, as configured,
  and then others.
* `Suggestion.suggestions_of_case_slip`: what becomes of a slip of case.
* `Suggestion.case_slip_not_first`: one that is not put right first.
-/
namespace AccessReport.Suggestion

open Text

/-- In lower case, one of the two begins with the other. -/
def BeginsAlike (wanted id : String) : Prop :=
  (lowercase wanted).toList <+: (lowercase id).toList ∨
    (lowercase id).toList <+: (lowercase wanted).toList

instance (wanted id : String) : Decidable (BeginsAlike wanted id) :=
  inferInstanceAs (Decidable (_ ∨ _))

theorem beginsAlike_of_eq {wanted id : String} (h : lowercase id = lowercase wanted) :
    BeginsAlike wanted id :=
  .inl (h ▸ List.prefix_refl _)

theorem isAlike_beginning_iff {wanted id : String} :
    IsAlike wanted id .beginning ↔ BeginsAlike wanted id := by
  constructor
  · rintro ⟨h⟩
    exact h
  · exact .beginning

/-! ## The closest of all -/

theorem rate_eq_some_iff {wanted id : String} {rated : Closeness × String} :
    rate wanted id = some rated ↔ IsAlike wanted id rated.1 ∧ rated.2 = id := by
  rw [rate, Option.map_eq_some_iff]
  constructor
  · rintro ⟨closeness, h, rfl⟩
    exact ⟨Closeness.between?_eq_some_iff.mp h, rfl⟩
  · rintro ⟨h, rfl⟩
    exact ⟨rated.1, Closeness.between?_eq_some_iff.mpr h, rfl⟩

/-- An id has the lowest rank if and only if it begins alike. -/
theorem rank_eq_zero_iff {wanted id : String} {closeness : Closeness}
    (h : IsAlike wanted id closeness) : closeness.rank = 0 ↔ BeginsAlike wanted id := by
  rw [← isAlike_beginning_iff]
  constructor
  · intro h0
    obtain rfl : closeness = .beginning := Closeness.rank_inj.mp h0
    exact h
  · intro hb
    rw [Closeness.Relates.unique h hb]
    rfl

/-- In a sorted list the items of the lowest rank come first. -/
theorem eq_filter_append {α : Type} (rank : α → Nat) {items : List α}
    (h : items.Pairwise fun a b => rank a ≤ rank b) :
    items = items.filter (rank · = 0) ++ items.filter (rank · ≠ 0) := by
  induction items with
  | nil => rfl
  | cons item items ih =>
    rw [List.pairwise_cons] at h
    by_cases h0 : rank item = 0
    · rw [List.filter_cons_of_pos (by simpa using h0), List.filter_cons_of_neg (by simpa using h0),
        List.cons_append, ← ih h.2]
    · -- nothing behind a greater rank has the lowest one
      have hnone : items.filter (rank · = 0) = [] := by
        rw [List.filter_eq_nil_iff]
        intro other ho
        have hle := h.1 other ho
        simp only [decide_eq_true_eq]
        omega
      have hall : items.filter (rank · ≠ 0) = items := by
        rw [hnone, List.nil_append] at ih
        exact (ih h.2).symm
      rw [List.filter_cons_of_neg (by simpa using h0), List.filter_cons_of_pos (by simpa using h0),
        hnone, hall, List.nil_append]

/-- The ids that begin alike, in their configured order. -/
theorem map_filter_rate (wanted : String) (ids : List String) :
    ((ids.filterMap (rate wanted)).filter (·.1.rank = 0)).map (·.2)
      = ids.filter (BeginsAlike wanted ·) := by
  induction ids with
  | nil => rfl
  | cons id ids ih =>
    cases hr : rate wanted id with
    | none =>
      have hnot : ¬BeginsAlike wanted id := by
        intro hb
        have hsome : rate wanted id = some (.beginning, id) :=
          rate_eq_some_iff.mpr ⟨isAlike_beginning_iff.mpr hb, rfl⟩
        rw [hr] at hsome
        cases hsome
      rw [List.filterMap_cons_none hr, List.filter_cons, if_neg (mt of_decide_eq_true hnot), ih]
    | some rated =>
      obtain ⟨halike, hid⟩ := rate_eq_some_iff.mp hr
      rw [List.filterMap_cons_some hr]
      by_cases hb : BeginsAlike wanted id
      · have h0 : rated.1.rank = 0 := (rank_eq_zero_iff halike).mpr hb
        rw [List.filter_cons, if_pos (decide_eq_true h0), List.filter_cons,
          if_pos (decide_eq_true hb), List.map_cons, hid, ih]
      · have h0 : rated.1.rank ≠ 0 := mt (rank_eq_zero_iff halike).mp hb
        rw [List.filter_cons, if_neg (mt of_decide_eq_true h0), List.filter_cons,
          if_neg (mt of_decide_eq_true hb), ih]

/-- The suggestions are the ids that begin alike, as configured, and then others. -/
theorem suggestions_beginning (wanted : String) (ids : List String) :
    ∃ others, (∀ other ∈ others, ¬BeginsAlike wanted other) ∧
      suggestions wanted ids = (ids.filter (BeginsAlike wanted ·) ++ others).take 5 := by
  have hsorted : (ranked wanted ids).Pairwise fun a b => a.1.rank ≤ b.1.rank := by
    have h := @List.pairwise_mergeSort _ (fun a b : Closeness × String => a.1.rank ≤ b.1.rank)
      (fun a b c => by simpa using Nat.le_trans) (fun a b => by simpa using Nat.le_total _ _)
      (ids.filterMap (rate wanted))
    exact h.imp of_decide_eq_true
  refine ⟨((ranked wanted ids).filter (·.1.rank ≠ 0)).map (·.2), ?_, ?_⟩
  · intro other ho
    obtain ⟨rated, hm, rfl⟩ := List.mem_map.mp ho
    obtain ⟨hm, h0⟩ := List.mem_filter.mp hm
    obtain ⟨id, -, hr⟩ := List.mem_filterMap.mp (List.mem_mergeSort.mp hm)
    obtain ⟨halike, rfl⟩ := rate_eq_some_iff.mp hr
    rw [← rank_eq_zero_iff halike]
    simpa using h0
  · have hfront : (ranked wanted ids).filter (·.1.rank = 0)
        = (ids.filterMap (rate wanted)).filter (·.1.rank = 0) :=
      filter_mergeSort (fun rated : Closeness × String => rated.1.rank) _ 0
    have hsplit := eq_filter_append (fun rated : Closeness × String => rated.1.rank) hsorted
    rw [hfront] at hsplit
    have hids := congrArg (List.map (·.2)) hsplit
    rw [List.map_append, map_filter_rate] at hids
    rw [suggestions, List.map_take, hids]
    rfl

/-! ## What becomes of a slip -/

/-- The first suggestion is the first id that begins alike, if there is one. -/
theorem head?_suggestions {wanted : String} {ids : List String}
    (h : ∃ id ∈ ids, BeginsAlike wanted id) :
    (suggestions wanted ids).head? = ids.find? (BeginsAlike wanted ·) := by
  obtain ⟨others, -, heq⟩ := suggestions_beginning wanted ids
  obtain ⟨first, hfirst⟩ : ∃ first, ids.find? (BeginsAlike wanted ·) = some first :=
    Option.isSome_iff_exists.mp (List.find?_isSome.mpr (by simpa using h))
  rw [heq, hfirst, List.head?_take, if_neg (by decide), List.head?_append, List.head?_filter,
    hfirst]
  rfl

/-- **Slips of case.** Where an id is what was wanted but for its capitals, there are suggestions,
and the first one is the first configured id that begins alike. That is a slip of case if and only
if no other id that begins alike comes before the first slip. The first slip is suggested at all if
and only if fewer than five ids that begin alike come before it. -/
theorem suggestions_of_case_slip (wanted : String) (before after : List String) (slip : String)
    (hslip : lowercase slip = lowercase wanted)
    (hfirst : ∀ earlier ∈ before, lowercase earlier ≠ lowercase wanted) :
    (∃ first, (suggestions wanted (before ++ slip :: after)).head? = some first ∧
        (before ++ slip :: after).find? (BeginsAlike wanted ·) = some first) ∧
      ((∃ first, (suggestions wanted (before ++ slip :: after)).head? = some first ∧
        lowercase first = lowercase wanted) ↔ ∀ earlier ∈ before, ¬BeginsAlike wanted earlier) ∧
      (slip ∈ suggestions wanted (before ++ slip :: after) ↔
        (before.filter (BeginsAlike wanted ·)).length < 5) := by
  have hbegins := beginsAlike_of_eq hslip
  have hhead : (suggestions wanted (before ++ slip :: after)).head?
      = (before ++ slip :: after).find? (BeginsAlike wanted ·) :=
    head?_suggestions ⟨slip, by simp, hbegins⟩
  -- the first id that begins alike stands before the slip, or it is the slip
  have hfind : (before ++ slip :: after).find? (BeginsAlike wanted ·)
      = some ((before.find? (BeginsAlike wanted ·)).getD slip) := by
    rw [List.find?_append, List.find?_cons, decide_eq_true hbegins]
    cases before.find? (BeginsAlike wanted ·) <;> rfl
  refine ⟨⟨_, hhead.trans hfind, hfind⟩, ?_, ?_⟩
  · rw [hhead, hfind]
    cases hearlier : before.find? (BeginsAlike wanted ·) with
    | none =>
      have hnone : ∀ earlier ∈ before, ¬BeginsAlike wanted earlier := by
        simpa using List.find?_eq_none.mp hearlier
      exact ⟨fun _ => hnone, fun _ => ⟨slip, rfl, hslip⟩⟩
    | some earlier =>
      have hm := List.mem_of_find?_eq_some hearlier
      have hb : BeginsAlike wanted earlier := by simpa using List.find?_some hearlier
      constructor
      · rintro ⟨first, h, hsame⟩
        cases h
        exact absurd hsame (hfirst earlier hm)
      · intro h
        exact absurd hb (h earlier hm)
  · obtain ⟨others, hothers, heq⟩ := suggestions_beginning wanted (before ++ slip :: after)
    have hnew : slip ∉ before.filter (BeginsAlike wanted ·) := fun hm =>
      hfirst slip (List.mem_of_mem_filter hm) hslip
    rw [heq, List.filter_append, List.filter_cons, if_pos (decide_eq_true hbegins),
      List.append_assoc, List.cons_append, List.take_append, List.mem_append]
    constructor
    · rintro (hm | hm)
      · exact absurd (List.mem_of_mem_take hm) hnew
      · by_contra hge
        rw [Nat.sub_eq_zero_of_le (Nat.le_of_not_lt hge), List.take_zero] at hm
        cases hm
    · intro hlt
      obtain ⟨left, hleft⟩ := Nat.exists_eq_add_of_lt hlt
      refine .inr ?_
      have hmore : 5 - (before.filter (BeginsAlike wanted ·)).length = left + 1 := by omega
      rw [hmore, List.take_succ_cons]
      exact List.mem_cons_self

/-- A slip of case that is put right first, since what begins with it is configured behind it. -/
theorem suggestions_of_case_slip_label :
    (suggestions "LABEL" ["list", "label", "label-title"]).head? = some "label" ∧
      "label" ∈ suggestions "LABEL" ["list", "label", "label-title"] := by
  have hslip : lowercase "label" = lowercase "LABEL" := by decide +kernel
  have hfirst : ∀ earlier ∈ ["list"], lowercase earlier ≠ lowercase "LABEL" := by decide +kernel
  obtain ⟨⟨first, hhead, hfind⟩, -, hmem⟩ :=
    suggestions_of_case_slip "LABEL" ["list"] ["label-title"] "label" hslip hfirst
  have hlabel : ["list", "label", "label-title"].find? (BeginsAlike "LABEL" ·) = some "label" := by
    decide +kernel
  obtain rfl : first = "label" := Option.some_inj.mp (hfind.symm.trans hlabel)
  exact ⟨hhead, hmem.mpr (by decide +kernel)⟩

/-- A slip of case that the first suggestion does not put right. -/
theorem case_slip_not_first :
    (∃ id ∈ ["label-title", "label"], lowercase id = lowercase "LABEL") ∧
      ¬∃ first, (suggestions "LABEL" ["label-title", "label"]).head? = some first ∧
        lowercase first = lowercase "LABEL" := by
  have hsuggested : (suggestions "LABEL" ["label-title", "label"]).head? = some "label-title" := by
    rw [head?_suggestions ⟨"label-title", by decide, by decide +kernel⟩]
    decide +kernel
  have hother : lowercase "label-title" ≠ lowercase "LABEL" := by decide +kernel
  refine ⟨⟨"label", by simp, by decide +kernel⟩, ?_⟩
  rintro ⟨first, hfirst, hsame⟩
  obtain rfl := Option.some_inj.mp (hsuggested.symm.trans hfirst)
  exact hother hsame

end AccessReport.Suggestion
