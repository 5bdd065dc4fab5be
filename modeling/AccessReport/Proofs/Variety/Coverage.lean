import AccessReport.Proofs.Variety.Texts
import AccessReport.Variety.Survey
/-!
# What a survey covers

`Makes` says which values a variety can stand for. Whatever is seen in such a value, at any place in
it, the survey of the variety has seen at that place too: a value of that type, with bounds around
its length, with its characters, and without the names that it lacks.

* `covered_ofValue`: what is seen in a made value was seen in the variety.
* `factsAt_cover`: what is known of a place holds of every value.
* `survey_covers`: the whole survey.
-/
namespace AccessReport

/-- The variety can stand for the value. -/
inductive Variety.Makes : Variety → Json → Prop where
  | exactly (value : Json) : Makes (.exactly value) value
  | anyOf {alternatives : List Variety} {variety : Variety} {value : Json}
    (hm : variety ∈ alternatives) (h : Makes variety value) : Makes (.anyOf alternatives) value
  | number (held : Json.Number) : Makes .number (.number held)
  | text {pattern : Pattern} {held : String} (h : pattern.Makes held.toList) :
    Makes (.text pattern) (.string held)
  | listOf {least most : Nat} {variety : Variety} {items : List Json}
    (hleast : least ≤ items.length) (hmost : items.length ≤ most)
    (h : ∀ item ∈ items, Makes variety item) : Makes (.listOf least most variety) (.array items)
  /-- Some fields are kept, the certain ones among them, and each has a value. -/
  | record {fields kept : List (String × Bool × Variety)} {members : List (String × Json)}
    (hkept : kept.Sublist fields) (hcertain : (fields.filter (·.2.1)).Sublist kept)
    (hnames : members.map (·.1) = kept.map (·.1))
    (h : ∀ pair ∈ kept.zip members, Makes pair.1.2.2 pair.2.2) :
    Makes (.record fields) (.object members)
  | mapOf {names : List String} {least most : Nat} {values : Variety}
    {members : List (String × Json)} (hleast : least ≤ members.length)
    (hmost : members.length ≤ most) (hnames : ∀ member ∈ members, member.1 ∈ names)
    (h : ∀ member ∈ members, Makes values member.2) :
    Makes (.mapOf names least most values) (.object members)

namespace Survey

/-! ## Sightings -/

/-- Everything about a sighting is also said by a more general one. -/
structure Covers (known seen : Sighting) : Prop where
  type : seen.type = known.type
  lengths : ∀ shortest longest, seen.lengths? = some (shortest, longest) →
    ∃ least most, known.lengths? = some (least, most) ∧ least ≤ shortest ∧ longest ≤ most
  characters : ∀ c ∈ seen.characters, c ∈ known.characters
  missing : ∀ name, seen.canMiss name = true → known.canMiss name = true

theorem Covers.refl (seen : Sighting) : Covers seen seen where
  type := rfl
  lengths shortest longest h := ⟨shortest, longest, h, Nat.le_refl _, Nat.le_refl _⟩
  characters _ h := h
  missing _ h := h

/-- Every sighting is covered by one at the same place. -/
def Covered (known seen : Sightings) : Prop :=
  ∀ entry ∈ seen, ∃ other ∈ known, other.1 = entry.1 ∧ Covers other.2 entry.2

theorem Covered.cons {place : Place} {known seen : Sighting} {inner within : Sightings}
    (hhead : Covers known seen) (hinner : Covered inner within) :
    Covered ((place, known) :: inner) ((place, seen) :: within) := by
  intro entry hentry
  rcases List.mem_cons.mp hentry with rfl | hentry
  · exact ⟨(place, known), List.mem_cons_self, rfl, hhead⟩
  · obtain ⟨other, hother, hcovers⟩ := hinner entry hentry
    exact ⟨other, List.mem_cons_of_mem _ hother, hcovers⟩

theorem Covered.singleton {place : Place} {known seen : Sighting} (h : Covers known seen) :
    Covered [(place, known)] [(place, seen)] :=
  .cons h fun _ hentry => absurd hentry List.not_mem_nil

/-- What is seen in parts is covered part by part. -/
theorem covered_flatMap {α : Type} {known : Sightings} {parts : List α} {sightings : α → Sightings}
    (h : ∀ part ∈ parts, Covered known (sightings part)) :
    Covered known (parts.flatMap sightings) := by
  intro entry hentry
  obtain ⟨part, hpart, hentry⟩ := List.mem_flatMap.mp hentry
  exact h part hpart entry hentry

theorem Covered.part {α : Type} {parts : List α} {sightings : α → Sightings} {seen : Sightings}
    {part : α} (h : Covered (sightings part) seen) (hpart : part ∈ parts) :
    Covered (parts.flatMap sightings) seen := by
  intro entry hentry
  obtain ⟨other, hother, hcovers⟩ := h entry hentry
  exact ⟨other, List.mem_flatMap_of_mem hpart hother, hcovers⟩

theorem ofItems_eq (place : Place) (items : List Json) :
    ofItems place items = items.flatMap (ofValue (.item :: place)) := by
  induction items with
  | nil => rfl
  | cons item rest ih => rw [ofItems, ih, List.flatMap_cons]

theorem ofMembers_eq (place : Place) (members : List (String × Json)) :
    ofMembers place members
      = members.flatMap fun member => ofValue (.field member.1 :: place) member.2 := by
  induction members with
  | nil => rfl
  | cons member rest ih => rw [ofMembers, ih, List.flatMap_cons]

theorem ofAll_eq (place : Place) (alternatives : List Variety) :
    ofAll place alternatives = alternatives.flatMap (ofVariety place) := by
  induction alternatives with
  | nil => rfl
  | cons variety rest ih => rw [ofAll, ih, List.flatMap_cons]

theorem ofFields_eq (place : Place) (fields : List (String × Bool × Variety)) :
    ofFields place fields
      = fields.flatMap fun field => ofVariety (.field field.1 :: place) field.2.2 := by
  induction fields with
  | nil => rfl
  | cons field rest ih => rw [ofFields, ih, List.flatMap_cons]

/-! ## What is seen in a value -/

theorem covers_text {pattern : Pattern} {held : String} (h : pattern.Makes held.toList) :
    Covers (.text pattern) (.scalar (.string held)) where
  type := rfl
  lengths shortest longest hlengths := by
    obtain ⟨rfl, rfl⟩ : held.length = shortest ∧ held.length = longest := by
      simpa [Sighting.lengths?] using hlengths
    have hbounds := h.length_bounds
    rw [String.length_toList] at hbounds
    exact ⟨pattern.least, pattern.most, rfl, hbounds⟩
  characters c hc := h.mem_characters c hc
  missing name hname := by simp [Sighting.canMiss] at hname

theorem covers_list {least most length : Nat} (hleast : least ≤ length) (hmost : length ≤ most) :
    Covers (.list least most) (.list length length) where
  type := rfl
  lengths shortest longest hlengths := by
    obtain ⟨rfl, rfl⟩ : length = shortest ∧ length = longest := by
      simpa [Sighting.lengths?] using hlengths
    exact ⟨least, most, rfl, hleast, hmost⟩
  characters _ h := h
  missing name hname := by simp [Sighting.canMiss] at hname

theorem covers_object {least most length : Nat} {certain names : List String}
    (hleast : least ≤ length) (hmost : length ≤ most) (hcertain : ∀ name ∈ certain, name ∈ names) :
    Covers (.object least most certain) (.object length length names) where
  type := rfl
  lengths shortest longest hlengths := by
    obtain ⟨rfl, rfl⟩ : length = shortest ∧ length = longest := by
      simpa [Sighting.lengths?] using hlengths
    exact ⟨least, most, rfl, hleast, hmost⟩
  characters _ h := h
  missing name hname := by
    simp only [Sighting.canMiss, List.contains_eq_mem, Bool.not_eq_true', decide_eq_false_iff_not]
      at hname ⊢
    exact fun hmem => hname (hcertain name hmem)

/-- Every member of a made object is made of one of the fields. -/
theorem exists_field {kept : List (String × Bool × Variety)} {members : List (String × Json)}
    (hnames : members.map (·.1) = kept.map (·.1)) {member : String × Json} (h : member ∈ members) :
    ∃ field ∈ kept, field.1 = member.1 ∧ (field, member) ∈ kept.zip members := by
  induction members generalizing kept with
  | nil => cases h
  | cons first rest ih =>
    cases kept with
    | nil => simp at hnames
    | cons field kept =>
      obtain ⟨hname, hrest⟩ := List.cons.inj hnames
      rcases List.mem_cons.mp h with rfl | h
      · exact ⟨field, List.mem_cons_self, hname.symm, List.mem_cons_self⟩
      · obtain ⟨other, hother, heq, hpair⟩ := ih hrest h
        exact ⟨other, List.mem_cons_of_mem _ hother, heq, List.mem_cons_of_mem _ hpair⟩

/-- A made object has as many members as fields were kept, with the certain names among theirs. -/
theorem covers_record {fields kept : List (String × Bool × Variety)}
    {members : List (String × Json)} (hkept : kept.Sublist fields)
    (hcertain : (fields.filter (·.2.1)).Sublist kept)
    (hnames : members.map (·.1) = kept.map (·.1)) :
    Covers (.object (certainNames fields).length fields.length (certainNames fields))
      (.object members.length members.length (members.map (·.1))) := by
  have hlength : members.length = kept.length := by simpa using congrArg List.length hnames
  have hsublist : (certainNames fields).Sublist (members.map (·.1)) := by
    rw [hnames]
    exact hcertain.map (·.1)
  refine covers_object ?_ ?_ hsublist.subset
  · simpa using hsublist.length_le
  · rw [hlength]
    exact hkept.length_le

/-- What is seen in a made value was seen in the variety. -/
theorem covered_ofValue {variety : Variety} {value : Json} (h : variety.Makes value) :
    ∀ place, Covered (ofVariety place variety) (ofValue place value) := by
  induction h with
  | exactly value => exact fun place entry hentry => ⟨entry, hentry, rfl, .refl entry.2⟩
  | anyOf hm _ ih =>
    intro place
    rw [ofVariety, ofAll_eq]
    exact (ih place).part hm
  | number held =>
    refine fun place => .singleton ⟨rfl, ?_, ?_, ?_⟩ <;>
      simp [Sighting.lengths?, Sighting.characters, Sighting.canMiss]
  | text h => exact fun place => .singleton (covers_text h)
  | listOf hleast hmost _ ih =>
    intro place
    rw [ofVariety, ofValue, ofItems_eq]
    refine .cons (covers_list hleast hmost) (covered_flatMap fun item hitem => ?_)
    -- a list that has an item is not one of those that have none
    have hpos := List.length_pos_of_mem hitem
    rw [if_neg (by omega)]
    exact ih item hitem _
  | record hkept hcertain hnames _ ih =>
    intro place
    rw [ofVariety, ofValue, ofMembers_eq, ofFields_eq]
    refine .cons (covers_record hkept hcertain hnames) (covered_flatMap fun member hmember => ?_)
    obtain ⟨field, hfield, hname, hpair⟩ := exists_field hnames hmember
    rw [← hname]
    refine .part ?_ (hkept.subset hfield)
    exact ih (field, member) hpair _
  | mapOf hleast hmost hnames _ ih =>
    intro place
    rw [ofVariety, ofValue, ofMembers_eq]
    refine .cons (covers_object hleast hmost (by simp)) (covered_flatMap fun member hmember => ?_)
    refine .part ?_ (hnames member hmember)
    exact ih member hmember _

/-! ## What is known of a place -/

/-- All that is known of one place in some values holds by what is known of it in others. -/
structure Facts.Cover (known seen : Facts) : Prop where
  types : ∀ type ∈ seen.types, type ∈ known.types
  missable : seen.missable = some true → known.missable = some true
  lengths : ∀ shortest longest, seen.lengths = some (shortest, longest) →
    ∃ least most, known.lengths = some (least, most) ∧ least ≤ shortest ∧ longest ≤ most
  characters : ∀ c ∈ seen.characters, c ∈ known.characters

theorem mem_at? {sightings : Sightings} {place : Place} {seen : Sighting} :
    seen ∈ at? sightings place ↔ (place, seen) ∈ sightings := by
  simp [at?]

theorem Covered.exists_at? {known seen : Sightings} (h : Covered known seen) {place : Place}
    {one : Sighting} (hone : one ∈ at? seen place) :
    ∃ other ∈ at? known place, Covers other one := by
  obtain ⟨⟨there, other⟩, hother, rfl, hcovers⟩ := h _ (mem_at?.mp hone)
  exact ⟨other, mem_at?.mpr hother, hcovers⟩

theorem mem_sortTexts {texts : List String} {text : String} :
    text ∈ sortTexts texts ↔ text ∈ texts := by
  simp [sortTexts]

theorem foldl_spread (rest : List (Nat × Nat)) (whole : Nat × Nat) :
    rest.foldl (fun whole one => (min whole.1 one.1, max whole.2 one.2)) whole
      = ((rest.map (·.1)).foldl min whole.1, (rest.map (·.2)).foldl max whole.2) := by
  induction rest generalizing whole with
  | nil => rfl
  | cons one rest ih => rw [List.foldl_cons, ih, List.map_cons, List.map_cons]; rfl

theorem spread_eq {lengths : List (Nat × Nat)} (h : lengths ≠ []) : spread lengths
    = some (Pattern.leastOf (lengths.map (·.1)), Pattern.mostOf (lengths.map (·.2))) := by
  cases lengths with
  | nil => exact absurd rfl h
  | cons first rest =>
    rw [spread, foldl_spread, List.map_cons, List.map_cons, Pattern.leastOf, Pattern.mostOf,
      List.foldl_cons, Nat.zero_max]

/-- The whole spread of some lengths is around each of them. -/
theorem spread_around {lengths : List (Nat × Nat)} {one : Nat × Nat} (h : one ∈ lengths) :
    ∃ least most, spread lengths = some (least, most) ∧ least ≤ one.1 ∧ one.2 ≤ most :=
  ⟨_, _, spread_eq (List.ne_nil_of_mem h), Pattern.leastOf_le (List.mem_map_of_mem h),
    Pattern.le_mostOf (List.mem_map_of_mem h)⟩

/-- The ends of a spread are those of some of the lengths. -/
theorem spread_reached {lengths : List (Nat × Nat)} {shortest longest : Nat}
    (h : spread lengths = some (shortest, longest)) :
    (∃ one ∈ lengths, one.1 = shortest) ∧ ∃ one ∈ lengths, one.2 = longest := by
  have hne : lengths ≠ [] := by
    rintro rfl
    cases h
  rw [spread_eq hne] at h
  obtain ⟨rfl, rfl⟩ := Prod.mk.inj (Option.some.inj h)
  exact ⟨List.mem_map.mp (Pattern.leastOf_mem (by simpa using hne)),
    List.mem_map.mp (Pattern.mostOf_mem (by simpa using hne))⟩

/-- Each length that was seen is within the spread of what is known. -/
theorem Covered.exists_spread {known seen : Sightings} (h : Covered known seen) {place : Place}
    {one : Nat × Nat} (hone : one ∈ (at? seen place).filterMap (·.lengths?)) :
    ∃ least most, spread ((at? known place).filterMap (·.lengths?)) = some (least, most)
      ∧ least ≤ one.1 ∧ one.2 ≤ most := by
  obtain ⟨sighting, hsighting, hlengths⟩ := List.mem_filterMap.mp hone
  obtain ⟨other, hother, hcovers⟩ := h.exists_at? hsighting
  obtain ⟨least, most, hknown, hleast, hmost⟩ := hcovers.lengths one.1 one.2 hlengths
  obtain ⟨low, high, hspread, hlow, hhigh⟩ :=
    spread_around (List.mem_filterMap.mpr ⟨other, hother, hknown⟩)
  exact ⟨low, high, hspread, Nat.le_trans hlow hleast, Nat.le_trans hmost hhigh⟩

theorem factsAt_cover {known seen : Sightings} (h : Covered known seen) (place : Place) :
    (factsAt known place).Cover (factsAt seen place) where
  types type htype := by
    obtain ⟨one, hone, rfl⟩ := List.mem_map.mp (mem_sortTexts.mp htype)
    obtain ⟨other, hother, hcovers⟩ := h.exists_at? hone
    exact mem_sortTexts.mpr (List.mem_map.mpr ⟨other, hother, hcovers.type.symm⟩)
  missable hmissable := by
    cases place with
    | nil => cases hmissable
    | cons step outer =>
      cases step with
      | item => cases hmissable
      | field name =>
        obtain ⟨one, hone, hmiss⟩ := List.any_eq_true.mp (Option.some.inj hmissable)
        obtain ⟨other, hother, hcovers⟩ := h.exists_at? hone
        exact congrArg some (List.any_eq_true.mpr ⟨other, hother, hcovers.missing name hmiss⟩)
  lengths shortest longest hlengths := by
    obtain ⟨⟨one, hone, rfl⟩, two, htwo, rfl⟩ := spread_reached hlengths
    obtain ⟨least, most, hspread, hleast, -⟩ := h.exists_spread hone
    obtain ⟨low, high, hspread', -, hmost⟩ := h.exists_spread htwo
    obtain ⟨rfl, rfl⟩ := Prod.mk.inj (Option.some.inj (hspread.symm.trans hspread'))
    exact ⟨least, most, hspread, hleast, hmost⟩
  characters c hc := by
    simp only [factsAt, List.mem_mergeSort, List.mem_eraseDups, List.mem_flatMap] at hc ⊢
    obtain ⟨one, hone, hmem⟩ := hc
    obtain ⟨other, hother, hcovers⟩ := h.exists_at? hone
    exact ⟨other, hother, hcovers.characters c hmem⟩

/-- **Surveys.** Of each place in a made value the survey of the variety says what holds there. -/
theorem survey_covers {variety : Variety} {value : Json} (h : variety.Makes value) :
    ∀ entry ∈ ofValue [] value, ∃ facts, (pathText entry.1, facts) ∈ variety.survey
      ∧ facts.Cover (factsAt (ofValue [] value) entry.1) := by
  intro entry hentry
  have hcovered := covered_ofValue h []
  obtain ⟨other, hother, hplace, -⟩ := hcovered entry hentry
  refine ⟨factsAt (ofVariety [] variety) entry.1, ?_, factsAt_cover hcovered entry.1⟩
  refine List.mem_map.mpr ⟨entry.1, ?_, rfl⟩
  rw [List.mem_eraseDups, ← hplace]
  exact List.mem_map_of_mem hother

end Survey
end AccessReport
