import AccessReport.Proofs.Config.Expansion
/-!
# Variables that are set to nothing

A placeholder without a default asks for a variable that is set. A variable can be set and still
have the empty value. For a placeholder with a default that is as good as unset, and for one without
a default it is the same: the text is refused, with the error that speaks of a variable that is not
set. So where all the variables that are asked for are set, it is their values that decide.

Results:
* `becomes_demand_iff`: a placeholder without a default becomes the value of its variable.
* `isMissing_iff_empty`: among variables that are set, only an empty one is missed.
* `expand_of_set`: what becomes of a text when all the variables that it asks for are set.
* `expand_refuses_empty`: a text that is refused although no variable is unset.
-/
namespace AccessReport.Expansion

/-- A placeholder without a default. -/
def demand (name : String) : Piece := .placeholder ⟨name, none⟩

/-- All variables that are asked for without a default are set, be it to nothing. -/
def AllSet (around : Surroundings) (parts : List Piece) : Prop :=
  ∀ name, demand name ∈ parts → ∃ value, around.value? name = some value

variable {around : Surroundings} {parts : List Piece} {text : String}

/-! ## One placeholder -/

theorem becomes_demand_iff {name value : String} :
    (demand name).Becomes around value ↔ around.value? name = some value ∧ value ≠ "" := by
  unfold demand
  rw [← fillPiece_ok_iff, fillPiece, outcome_fill_eq, ← filter_eq_some_iff]
  cases (around.value? name).filter (!·.isEmpty) <;> simp

theorem isMissing_iff_empty (hset : AllSet around parts) {found : Placeholder}
    (hfound : .placeholder found ∈ parts) :
    found.IsMissing around ↔ found.fallback = none ∧ around.value? found.name = some "" := by
  obtain ⟨name, fallback⟩ := found
  cases fallback with
  | some text => simp [Placeholder.IsMissing]
  | none =>
    obtain ⟨value, hvalue⟩ := hset name hfound
    simp [Placeholder.IsMissing, Surroundings.Lacks, hvalue]

/-- Nothing is missing among pieces whose demands are for no empty variable. -/
theorem none_missing_iff (hset : AllSet around parts) {front : List Piece}
    (hfront : ∀ part ∈ front, part ∈ parts) :
    (∀ found, .placeholder found ∈ front → ¬found.IsMissing around) ↔
      ∀ name, demand name ∈ front → around.value? name ≠ some "" := by
  constructor
  · intro h name hname hempty
    apply h ⟨name, none⟩ hname
    exact (isMissing_iff_empty hset (hfront _ hname)).mpr ⟨rfl, hempty⟩
  · intro h found hfound hmissing
    obtain ⟨hnone, hempty⟩ := (isMissing_iff_empty hset (hfront _ hfound)).mp hmissing
    obtain ⟨name, fallback⟩ := found
    subst hnone
    exact h name hfound hempty

/-! ## A whole text -/

theorem expand_succeeds_iff : (∃ result, ((expand text).run around).outcome = .ok result) ↔
    ∀ found, .placeholder found ∈ pieces text.toList → ¬found.IsMissing around := by
  constructor
  · intro ⟨result, hresult⟩ found hfound hmissing
    obtain ⟨before, first, after, hparts, hbefore, hfirst⟩ :=
      exists_isMissing_iff.mp ⟨found, hfound, hmissing⟩
    have herror : ((expand text).run around).outcome = .error (.unset first.name) :=
      expand_error_iff.mpr ⟨before, first, after, hparts, hbefore, hfirst, rfl⟩
    rw [hresult] at herror
    cases herror
  · intro h
    cases houtcome : ((expand text).run around).outcome with
    | ok result => exact ⟨result, rfl⟩
    | error error =>
      obtain ⟨before, found, after, hparts, -, hmissing, -⟩ := expand_error_iff.mp houtcome
      exact absurd hmissing (h found (by simp [hparts]))

/-- **Variables that are set.** Where every variable that a placeholder without a default names is
set, a text is expanded if and only if none of these variables is empty; then each such placeholder
becomes the value of its variable. Otherwise the text is refused, and the first such placeholder
whose variable is empty is named as unset. -/
theorem expand_of_set (hreads : Reads text.toList parts) (hset : AllSet around parts) :
    ((∃ result, ((expand text).run around).outcome = .ok result) ↔
        ∀ name, demand name ∈ parts → around.value? name ≠ some "") ∧
      (∀ result, ((expand text).run around).outcome = .ok result →
        ∃ texts, List.Forall₂ (Piece.Becomes around) parts texts ∧ result = String.join texts ∧
          ∀ (i : Nat) (name : String), parts[i]? = some (demand name) →
            texts[i]? = around.value? name) ∧
      ∀ error, ((expand text).run around).outcome = .error error ↔
        ∃ before name after, parts = before ++ demand name :: after ∧
          (∀ earlier, demand earlier ∈ before → around.value? earlier ≠ some "") ∧
          around.value? name = some "" ∧ error = .unset name := by
  obtain rfl := hreads.unique
  refine ⟨?_, ?_, ?_⟩
  · rw [expand_succeeds_iff, none_missing_iff hset fun _ h => h]
  · intro result hresult
    obtain ⟨texts, htexts, hjoin⟩ := expand_ok_iff.mp hresult
    refine ⟨texts, htexts, hjoin, ?_⟩
    intro i name hi
    obtain ⟨hlt, hpart⟩ := List.getElem?_eq_some_iff.mp hi
    have hlt' : i < texts.length := htexts.length_eq ▸ hlt
    have hbecomes : (demand name).Becomes around texts[i] := by
      have h := htexts.get hlt hlt'
      simpa [hpart] using h
    rw [List.getElem?_eq_getElem hlt', (becomes_demand_iff.mp hbecomes).1]
  · intro error
    rw [expand_error_iff]
    constructor
    · intro ⟨before, found, after, hparts, hbefore, hmissing, herror⟩
      have hfound : .placeholder found ∈ pieces text.toList := by simp [hparts]
      obtain ⟨hnone, hempty⟩ := (isMissing_iff_empty hset hfound).mp hmissing
      obtain ⟨name, fallback⟩ := found
      subst hnone
      refine ⟨before, name, after, hparts, ?_, hempty, herror⟩
      exact (none_missing_iff hset fun part h => by simp [hparts, h]).mp hbefore
    · intro ⟨before, name, after, hparts, hbefore, hempty, herror⟩
      have hfound : demand name ∈ pieces text.toList := by simp [hparts]
      refine ⟨before, ⟨name, none⟩, after, hparts, ?_, ?_, herror⟩
      · exact (none_missing_iff hset fun part h => by simp [hparts, h]).mpr hbefore
      · exact (isMissing_iff_empty hset hfound).mpr ⟨rfl, hempty⟩

/-- Variables, one of which is set to nothing. -/
def sparse : Surroundings where
  read _ := .ok ""
  canonical path := .ok path
  value? name := if name = "SITE" then some "https://shop.example"
    else if name = "EMPTY" then some "" else none
  input := .ok ""

/-- A text with defaults for what may be empty or not set. -/
def guarded : String := "$\x7bSITE\x7d/$\x7bEMPTY:-a\x7d$\x7bUNSET:-b\x7d"

theorem expand_of_set_guarded :
    AllSet sparse (pieces guarded.toList) ∧
      ∃ texts, ((expand guarded).run sparse).outcome = .ok (String.join texts) ∧
        texts[0]? = some "https://shop.example" := by
  have hpieces : pieces guarded.toList = [demand "SITE", .character '/',
      .placeholder ⟨"EMPTY", some "a"⟩, .placeholder ⟨"UNSET", some "b"⟩] := by
    decide +kernel
  have hdemand (name : String) (h : demand name ∈ pieces guarded.toList) : name = "SITE" := by
    rw [hpieces] at h
    simpa [demand] using h
  have hset : AllSet sparse (pieces guarded.toList) := by
    intro name h
    rw [hdemand name h]
    exact ⟨"https://shop.example", rfl⟩
  obtain ⟨hsucceeds, hresult, -⟩ := expand_of_set (reads_pieces _) hset
  obtain ⟨result, hok⟩ := hsucceeds.mpr fun name h => by
    rw [hdemand name h]
    decide
  obtain ⟨texts, -, rfl, hvalues⟩ := hresult result hok
  refine ⟨hset, texts, hok, ?_⟩
  rw [hvalues 0 "SITE" (by rw [hpieces]; rfl)]
  rfl

/-- Both variables are set, and yet the text is refused, since one of them is empty. -/
theorem expand_refuses_empty :
    AllSet sparse (pieces "$\x7bSITE\x7d/$\x7bEMPTY\x7d".toList) ∧
      ((expand "$\x7bSITE\x7d/$\x7bEMPTY\x7d").run sparse).outcome
        = .error (.unset "EMPTY") := by
  have hpieces : pieces "$\x7bSITE\x7d/$\x7bEMPTY\x7d".toList
      = [demand "SITE", .character '/', demand "EMPTY"] := by
    decide +kernel
  constructor
  · intro name h
    rw [hpieces] at h
    have hname : name = "SITE" ∨ name = "EMPTY" := by simpa [demand] using h
    rcases hname with rfl | rfl
    · exact ⟨"https://shop.example", rfl⟩
    · exact ⟨"", rfl⟩
  · rw [outcome_expand, hpieces]
    rfl

end AccessReport.Expansion
