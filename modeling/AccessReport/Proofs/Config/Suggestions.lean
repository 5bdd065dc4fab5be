import AccessReport.Config.Suggestion
import AccessReport.Proofs.Text.Edits
import Mathlib.Data.List.Sort
/-!
# The closest ids

Two ids are held against each other with the one of fewer bytes in front; how they are alike can be
said without that choice, since a text that occurs in one with no more bytes is that text
(`eq_of_isInfix`). The sort is stable, so equally close ids stay in their configured order
(`pairwise_mergeSort`), and there is only one order that has the closest first.

* `Closeness.between?_eq_some_iff`: how two texts are alike, the same in both directions.
* `Closeness.rank_lt_iff`: a lower rank is closer.
* `Suggestion.closestFirst_places`, `Suggestion.ClosestFirst.unique`: the order of the ids that are
  alike what was wanted, and that it is the only one.
* `Suggestion.suggestions_closest`: the suggestions are the first five in this order.
-/
namespace AccessReport

open Text

namespace Closeness

/-! ## Closer and less close -/

inductive Closer : Closeness → Closeness → Prop where
  | beginning_piece : Closer beginning piece
  | beginning_typo (edits : Nat) : Closer beginning (typo edits)
  | piece_typo (edits : Nat) : Closer piece (typo edits)
  | typo {edits more : Nat} (h : edits < more) : Closer (typo edits) (typo more)

theorem rank_lt_iff {first second : Closeness} :
    first.rank < second.rank ↔ Closer first second := by
  constructor
  · intro h
    cases first <;> cases second <;> simp only [rank] at h
    case beginning.piece => exact .beginning_piece
    case beginning.typo edits => exact .beginning_typo edits
    case piece.typo edits => exact .piece_typo edits
    case typo.typo edits more => exact .typo (by omega)
    all_goals omega
  · intro h
    cases h <;> simp only [rank] <;> omega

theorem rank_inj {first second : Closeness} : first.rank = second.rank ↔ first = second := by
  cases first <;> cases second <;> simp [rank] <;> omega

/-! ## How two texts are alike -/

/-- How two texts are alike, whichever of them is the shorter one. -/
inductive Relates (a b : List Char) : Closeness → Prop where
  | beginning (h : a <+: b ∨ b <+: a) : Relates a b beginning
  | piece (hb : ¬(a <+: b ∨ b <+: a)) (h : a <:+: b ∨ b <:+: a) : Relates a b piece
  | typo {edits : Nat} (hb : ¬(a <+: b ∨ b <+: a)) (hp : ¬(a <:+: b ∨ b <:+: a))
    (h : IsLeast {n | Edit.Edits n a b} edits) (hmax : edits ≤ 3) : Relates a b (typo edits)

theorem byteCount_append (a b : List Char) : byteCount (a ++ b) = byteCount a + byteCount b := by
  induction a with
  | nil => simp [byteCount]
  | cons c a ih => simp [byteCount, ih, Nat.add_assoc]

theorem eq_nil_of_byteCount {a : List Char} (h : byteCount a = 0) : a = [] := by
  cases a with
  | nil => rfl
  | cons c a =>
    have hc := c.utf8Size_pos
    simp only [byteCount] at h
    omega

/-- A text that occurs in one with no more bytes is all of it. -/
theorem eq_of_isInfix {a b : List Char} (h : a <:+: b) (hle : byteCount b ≤ byteCount a) :
    a = b := by
  obtain ⟨before, after, rfl⟩ := h
  rw [byteCount_append, byteCount_append] at hle
  have hbefore : before = [] := eq_nil_of_byteCount (by omega)
  have hafter : after = [] := eq_nil_of_byteCount (by omega)
  simp [hbefore, hafter]

/-- Whether one text occurs in the other, anywhere or in a certain place, can be seen from the one
with fewer bytes alone. -/
theorem shorterFirst_iff {Occurs : List Char → List Char → Prop} (hself : ∀ a, Occurs a a)
    (hoccurs : ∀ a b, Occurs a b → a <:+: b) {a b : List Char} :
    Occurs (shorterFirst a b).1 (shorterFirst a b).2 ↔ Occurs a b ∨ Occurs b a := by
  rw [shorterFirst]
  split
  · rename_i hle
    refine ⟨.inl, ?_⟩
    rintro (h | h)
    · exact h
    · rw [eq_of_isInfix (hoccurs b a h) hle]
      exact hself a
  · rename_i hlt
    refine ⟨.inr, ?_⟩
    rintro (h | h)
    · rw [eq_of_isInfix (hoccurs a b h) (Nat.le_of_not_le hlt)]
      exact hself b
    · exact h

theorem between?_eq_some_iff {a b : List Char} {closeness : Closeness} :
    between? a b = some closeness ↔ Relates a b closeness := by
  have hstarts : (shorterFirst a b).1.isPrefixOf (shorterFirst a b).2 = true
      ↔ a <+: b ∨ b <+: a :=
    List.isPrefixOf_iff_prefix.trans (shorterFirst_iff List.prefix_refl fun _ _ h => h.isInfix)
  have hpiece : occursIn (shorterFirst a b).1 (shorterFirst a b).2 = true
      ↔ a <:+: b ∨ b <:+: a :=
    occursIn_iff.trans (shorterFirst_iff List.infix_refl fun _ _ h => h)
  have hleast := Edit.isLeast_distance a b
  simp only [between?, hstarts, hpiece]
  constructor
  · intro h
    split at h
    · rename_i hb
      cases h
      exact .beginning hb
    · rename_i hb
      split at h
      · rename_i hp
        cases h
        exact .piece hb hp
      · rename_i hp
        split at h
        · rename_i hmax
          cases h
          exact .typo hb hp hleast hmax
        · cases h
  · intro h
    cases h with
    | beginning hb => rw [if_pos hb]
    | piece hb hp => rw [if_neg hb, if_pos hp]
    | typo hb hp h hmax =>
      rw [if_neg hb, if_neg hp, hleast.unique h]
      exact if_pos hmax

theorem Relates.unique {a b : List Char} {first second : Closeness} (h : Relates a b first)
    (h' : Relates a b second) : first = second :=
  Option.some_inj.mp ((between?_eq_some_iff.mpr h).symm.trans (between?_eq_some_iff.mpr h'))

theorem Relates.symm {a b : List Char} {closeness : Closeness} (h : Relates a b closeness) :
    Relates b a closeness := by
  cases h with
  | beginning h => exact .beginning h.symm
  | piece hb h => exact .piece (fun hc => hb hc.symm) h.symm
  | typo hb hp h hmax =>
    refine .typo (fun hc => hb hc.symm) (fun hc => hp hc.symm) ⟨h.1.symm, fun n hn => ?_⟩ hmax
    exact h.2 (Edit.Edits.symm hn)

end Closeness

/-! ## Sorting by rank -/

section
variable {α : Type} (rank : α → Nat)

/-- Items of one rank are left in their order. -/
theorem filter_mergeSort (items : List α) (n : Nat) :
    (items.mergeSort fun a b => rank a ≤ rank b).filter (rank · = n)
      = items.filter (rank · = n) := by
  have hperm := List.mergeSort_perm items fun a b => rank a ≤ rank b
  have hequal : (items.filter (rank · = n)).Pairwise
      fun a b => decide (rank a ≤ rank b) = true := by
    refine List.pairwise_of_forall_mem_list fun a ha b hb => ?_
    simp only [List.mem_filter, decide_eq_true_eq] at ha hb ⊢
    omega
  have hsub : (items.filter (rank · = n)).Sublist (items.mergeSort fun a b => rank a ≤ rank b) :=
    List.sublist_mergeSort (fun a b c => by simpa using Nat.le_trans)
      (fun a b => by simpa using Nat.le_total _ _) hequal List.filter_sublist
  have hfilter := hsub.filter (rank · = n)
  rw [List.filter_filter] at hfilter
  simp only [Bool.and_self] at hfilter
  exact (hfilter.eq_of_length (hperm.filter _).length_eq.symm).symm

/-- Sorted by rank, two items are in order of rank, or equal in rank and in order as before. -/
theorem pairwise_mergeSort {Before : α → α → Prop} {items : List α} (h : items.Pairwise Before) :
    (items.mergeSort fun a b => rank a ≤ rank b).Pairwise fun a b =>
      rank a < rank b ∨ rank a = rank b ∧ Before a b := by
  have hsorted : (items.mergeSort fun a b => rank a ≤ rank b).Pairwise
      fun a b => decide (rank a ≤ rank b) = true :=
    List.pairwise_mergeSort (fun a b c => by simpa using Nat.le_trans)
      (fun a b => by simpa using Nat.le_total _ _) items
  rw [List.pairwise_iff_forall_sublist] at hsorted h ⊢
  intro a b hab
  rcases Nat.lt_or_eq_of_le (of_decide_eq_true (hsorted hab)) with hlt | heq
  · exact .inl hlt
  · have hfilter := hab.filter (rank · = rank b)
    rw [filter_mergeSort] at hfilter
    simp only [List.filter_cons, heq, decide_true, if_true, List.filter_nil] at hfilter
    exact .inr ⟨heq, h (hfilter.trans List.filter_sublist)⟩

end

namespace Suggestion

/-! ## The order of the ids -/

/-- How an id is alike what was wanted, both in lower case. -/
def IsAlike (wanted id : String) (closeness : Closeness) : Prop :=
  closeness.Relates (lowercase wanted).toList (lowercase id).toList

/-- The id at one place is closer than the id at another, or as close and configured before it. -/
def Precedes (wanted : String) (ids : List String) (i j : Fin ids.length) : Prop :=
  ∃ first second, IsAlike wanted ids[i] first ∧ IsAlike wanted ids[j] second ∧
    (first.Closer second ∨ first = second ∧ i < j)

/-- The places of all ids that are alike what was wanted, the closest first. -/
structure ClosestFirst (wanted : String) (ids : List String) (places : List (Fin ids.length)) :
    Prop where
  mem : ∀ i, i ∈ places ↔ ∃ closeness, IsAlike wanted ids[i] closeness
  ordered : places.Pairwise (Precedes wanted ids)

theorem precedes_iff {wanted : String} {ids : List String} {i j : Fin ids.length}
    {first second : Closeness} (hi : IsAlike wanted ids[i] first)
    (hj : IsAlike wanted ids[j] second) :
    Precedes wanted ids i j ↔
      first.rank < second.rank ∨ first.rank = second.rank ∧ i < j := by
  rw [Closeness.rank_lt_iff, Closeness.rank_inj]
  constructor
  · rintro ⟨first', second', hi', hj', h⟩
    rwa [hi'.unique hi, hj'.unique hj] at h
  · intro h
    exact ⟨first, second, hi, hj, h⟩

variable (wanted : String) (ids : List String)

/-- How the id at a place is alike what was wanted, together with the place. -/
def rateAt (i : Fin ids.length) : Option (Closeness × Fin ids.length) :=
  (Closeness.between? (lowercase wanted).toList (lowercase ids[i]).toList).map (·, i)

/-- The places of the ids that are alike, sorted as the ids are. -/
def rankedPlaces : List (Closeness × Fin ids.length) :=
  ((List.finRange ids.length).filterMap (rateAt wanted ids)).mergeSort
    fun a b => a.1.rank ≤ b.1.rank

theorem rateAt_eq_some_iff {i : Fin ids.length} {rated : Closeness × Fin ids.length} :
    rateAt wanted ids i = some rated ↔ IsAlike wanted ids[i] rated.1 ∧ rated.2 = i := by
  rw [rateAt, Option.map_eq_some_iff]
  constructor
  · rintro ⟨closeness, h, rfl⟩
    exact ⟨Closeness.between?_eq_some_iff.mp h, rfl⟩
  · rintro ⟨h, rfl⟩
    exact ⟨rated.1, Closeness.between?_eq_some_iff.mpr h, rfl⟩

/-- The sort does not look at the ids. -/
theorem ranked_eq :
    ranked wanted ids = (rankedPlaces wanted ids).map fun rated => (rated.1, ids[rated.2]) := by
  have hrate : ids.filterMap (rate wanted) = ((List.finRange ids.length).filterMap
      (rateAt wanted ids)).map fun rated => (rated.1, ids[rated.2]) := by
    conv_lhs => rw [← List.map_getElem_finRange ids]
    rw [List.filterMap_map, List.map_filterMap]
    refine List.filterMap_congr fun i _ => ?_
    simp only [Function.comp_apply, rate, rateAt, Option.map_map]
    rfl
  rw [ranked, hrate, rankedPlaces, List.map_mergeSort]
  exact fun _ _ _ _ => rfl

theorem closestFirst_places : ClosestFirst wanted ids ((rankedPlaces wanted ids).map (·.2)) := by
  have halike : ∀ rated ∈ rankedPlaces wanted ids, IsAlike wanted ids[rated.2] rated.1 := by
    intro rated h
    obtain ⟨i, -, hi⟩ := List.mem_filterMap.mp (List.mem_mergeSort.mp h)
    obtain ⟨hrated, rfl⟩ := (rateAt_eq_some_iff wanted ids).mp hi
    exact hrated
  constructor
  · intro i
    rw [List.mem_map]
    constructor
    · rintro ⟨rated, h, rfl⟩
      exact ⟨rated.1, halike rated h⟩
    · rintro ⟨closeness, h⟩
      refine ⟨(closeness, i), List.mem_mergeSort.mpr (List.mem_filterMap.mpr ?_), rfl⟩
      exact ⟨i, List.mem_finRange i, (rateAt_eq_some_iff wanted ids).mpr ⟨h, rfl⟩⟩
  · have hconfigured : ((List.finRange ids.length).filterMap (rateAt wanted ids)).Pairwise
        fun a b => a.2 < b.2 := by
      refine List.Pairwise.filterMap _ ?_ (List.pairwise_lt_finRange ids.length)
      intro i j hlt a ha b hb
      rwa [((rateAt_eq_some_iff wanted ids).mp ha).2, ((rateAt_eq_some_iff wanted ids).mp hb).2]
    rw [List.pairwise_map]
    refine (pairwise_mergeSort (fun rated => rated.1.rank) hconfigured).imp_of_mem ?_
    intro a b ha hb h
    exact (precedes_iff (halike a ha) (halike b hb)).mpr h

variable {wanted ids}

theorem not_closer_of_precedes {i j : Fin ids.length} (h : Precedes wanted ids i j)
    {first second : Closeness} (hi : IsAlike wanted ids[i] first)
    (hj : IsAlike wanted ids[j] second) : ¬second.Closer first := by
  intro hc
  rw [precedes_iff hi hj] at h
  rw [← Closeness.rank_lt_iff] at hc
  omega

theorem not_precedes_of_precedes {i j : Fin ids.length} (h : Precedes wanted ids i j) :
    ¬Precedes wanted ids j i := by
  intro hback
  have ⟨first, second, hi, hj, _⟩ := h
  rw [precedes_iff hi hj] at h
  rw [precedes_iff hj hi] at hback
  omega

instance : Std.Irrefl (Precedes wanted ids) where
  irrefl _ h := not_precedes_of_precedes h h

instance : Std.Antisymm (Precedes wanted ids) where
  antisymm _ _ h h' := absurd h' (not_precedes_of_precedes h)

theorem ClosestFirst.unique {places other : List (Fin ids.length)}
    (h : ClosestFirst wanted ids places) (h' : ClosestFirst wanted ids other) : places = other :=
  h.ordered.eq_of_mem_iff h'.ordered fun i => (h.mem i).trans (h'.mem i).symm

/-- What is left out is not closer than what is taken. -/
theorem ClosestFirst.not_closer {places : List (Fin ids.length)}
    (h : ClosestFirst wanted ids places) {count : Nat} {i j : Fin ids.length}
    (hi : i ∈ places.take count) (hj : j ∉ places.take count) {first second : Closeness}
    (hfirst : IsAlike wanted ids[i] first) (hsecond : IsAlike wanted ids[j] second) :
    ¬second.Closer first := by
  have hmem : j ∈ places.take count ++ places.drop count := by
    rw [List.take_append_drop]
    exact (h.mem j).mpr ⟨second, hsecond⟩
  have hdrop := (List.mem_append.mp hmem).resolve_left hj
  have hordered := h.ordered
  rw [← List.take_append_drop count places, List.pairwise_append] at hordered
  exact not_closer_of_precedes (hordered.2.2 i hi j hdrop) hfirst hsecond

/-! ## The suggestions -/

/-- The suggestions are the first five ids in the one order that has the closest first, equally
close ones as configured. So no id left out is closer than one suggested. How close two texts are
does not depend on which of them is wanted. -/
theorem suggestions_closest (wanted : String) (ids : List String) :
    (∃ places, ClosestFirst wanted ids places ∧
      (∀ other, ClosestFirst wanted ids other → other = places) ∧
      suggestions wanted ids = (places.take 5).map (fun i => ids[i]) ∧
      ∀ i ∈ places.take 5, ∀ j ∉ places.take 5, ∀ first second, IsAlike wanted ids[i] first →
        IsAlike wanted ids[j] second → ¬second.Closer first) ∧
    ∀ a b closeness,
      (Closeness.between? a b = some closeness ↔ Closeness.Relates a b closeness) ∧
      (Closeness.Relates a b closeness ↔ Closeness.Relates b a closeness) := by
  have hplaces := closestFirst_places wanted ids
  refine ⟨⟨_, hplaces, fun other h => h.unique hplaces, ?_, ?_⟩, fun a b closeness => ?_⟩
  · rw [suggestions, ranked_eq, ← List.map_take, ← List.map_take, List.map_map, List.map_map]
    rfl
  · intro i hi j hj first second hfirst hsecond
    exact hplaces.not_closer hi hj hfirst hsecond
  · exact ⟨Closeness.between?_eq_some_iff, Closeness.Relates.symm, Closeness.Relates.symm⟩

/-- Two ids as close as can be stay as configured, before one that only contains what was wanted. -/
example : suggestions "NAME" ["link-name", "name-of", "nam", "game", "mode"]
    = ["name-of", "nam", "link-name", "game", "mode"] := by cbv

end Suggestion
end AccessReport
