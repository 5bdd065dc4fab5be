import AccessReport.Proofs.Template.Grammar
import Mathlib.Data.List.Forall2
/-!
# What templates mean

A text is read as a template if and only if parts spell it, and the template writes part by part
what the parts show. Where no parts spell the text, its leftmost offence is reported, and before
that one all is in order. A placeholder is at least as long as `{data}` and leaves nothing of it
where the data is null; so a template that always gives its own text back has none.

* `valueAt_eq_some_iff`: what stands at a place below the data.
* `parse_of_spells`, `spells_of_parse`: which texts are read, and as what.
* `parse_error_iff`: which offence is reported of the others.
* `render_of_spells`: what a template writes for the data of a check.
* `isStatic_iff`: the templates without placeholders.
* `parse_meets_grammar`: all of this together, and for two texts one after the other.
-/
namespace AccessReport.Template

open Text

/-! ## Values -/

/-- What stands at a place below a value. -/
inductive Reaches : Json → List String → Json → Prop where
  | here (value : Json) : Reaches value [] value
  | member {members : List (String × Json)} {field : String} {value found : Json}
    {path : List String} (h : members.lookup field = some value)
    (rest : Reaches value path found) : Reaches (.object members) (field :: path) found

theorem valueAt_eq_some_iff {data value : Json} {path : List String} :
    valueAt data path = some value ↔ Reaches data path value := by
  induction path generalizing data with
  | nil =>
    constructor
    · intro h
      cases h
      exact .here _
    · rintro ⟨⟩
      rfl
  | cons field path ih =>
    constructor
    · intro h
      rw [valueAt] at h
      split at h
      · cases h
      · rename_i next hnext
        cases data with
        | object members => exact .member hnext (ih.mp h)
        | _ => cases hnext
    · intro h
      cases h with
      | member h rest =>
        rw [valueAt, Json.get?, h]
        exact ih.mpr rest

/-- What is written for the value at a place: a string as it is, nothing for null and where there
is none, and the JSON text of any other value. -/
inductive Writes (data : Json) (path : List String) : List Char → Prop where
  | missing (h : ∀ value, ¬Reaches data path value) : Writes data path []
  | null (h : Reaches data path .null) : Writes data path []
  | string {text : String} (h : Reaches data path (.string text)) : Writes data path text.toList
  | other {value : Json} (h : Reaches data path value) (hnull : value ≠ .null)
    (hstring : ∀ text, value ≠ .string text) : Writes data path value.compactChars

/-- What a part shows of the data. -/
inductive Part.Shows (data : Json) : Part → List Char → Prop where
  | literal (text : List Char) : Shows data (literal text) text
  | placeholder {inner text : List Char} {path : List String} (h : Writes data path text) :
    Shows data (placeholder inner path) text

def Part.render (data : Json) : Part → List Char
  | literal text => text
  | placeholder _ path => Segment.render data (.data path)

theorem writes_iff {data : Json} {path : List String} {text : List Char} :
    Writes data path text ↔ Segment.render data (.data path) = text := by
  simp only [Segment.render]
  constructor
  · intro h
    cases h with
    | missing h =>
      have hnone : valueAt data path = none := Option.eq_none_iff_forall_ne_some.mpr
        fun value hvalue => h value (valueAt_eq_some_iff.mp hvalue)
      rw [hnone]
    | null h =>
      rw [valueAt_eq_some_iff.mpr h]
      rfl
    | string h =>
      rw [valueAt_eq_some_iff.mpr h]
      rfl
    | @other value h hnull hstring =>
      rw [valueAt_eq_some_iff.mpr h]
      cases value with
      | null => exact absurd rfl hnull
      | string text => exact absurd rfl (hstring text)
      | bool | number | array | object => rfl
  · rintro rfl
    cases hvalue : valueAt data path with
    | none =>
      refine .missing fun value h => ?_
      rw [valueAt_eq_some_iff.mpr h] at hvalue
      cases hvalue
    | some value =>
      have h := valueAt_eq_some_iff.mp hvalue
      cases value with
      | null => exact .null h
      | string text => exact .string h
      | bool | number | array | object => exact .other h (by simp) (by simp)

theorem Part.shows_iff {data : Json} {part : Part} {text : List Char} :
    part.Shows data text ↔ part.render data = text := by
  cases part with
  | literal held =>
    constructor
    · rintro ⟨⟩
      rfl
    · rintro rfl
      exact .literal held
  | placeholder inner path =>
    rw [Part.render, ← writes_iff]
    constructor
    · rintro ⟨⟩
      assumption
    · exact .placeholder

/-! ## Reading -/

theorem parse_of_spells {parts : List Part} {text : String} (h : Spells parts text.toList) :
    parse text = .ok ⟨parts.foldr Part.onto []⟩ := by
  have hread := segmentsOf_parts h []
  rw [List.append_nil] at hread
  rw [parse, hread]
  rfl

theorem parse_of_offends {parts : List Part} {before rest : List Char} {text : String}
    {error : TemplateError} (h : Spells parts before) (htext : text.toList = before ++ rest)
    (ho : Offends before rest error) : parse text = .error error := by
  rw [parse, htext, segmentsOf_parts h, segmentsOf_of_offends ho]
  rfl

theorem spells_of_parse {text : String} {template : Template} (h : parse text = .ok template) :
    ∃ parts, Spells parts text.toList := by
  obtain ⟨parts, before, rest, hspells, htext, rfl | ⟨error, ho⟩⟩ := exists_spells text.toList
  · rw [List.append_nil] at htext
    exact ⟨parts, htext ▸ hspells⟩
  · rw [parse_of_offends hspells htext ho] at h
    cases h

/-- The offence at the leftmost place where there is one. -/
inductive FirstOffence (cs : List Char) (error : TemplateError) : Prop where
  | intro {before rest : List Char} (split : cs = before ++ rest) (here : Offends before rest error)
    (first : ∀ earlier later, cs = earlier ++ later → earlier.length < before.length →
      ∀ other, ¬Offends earlier later other)

theorem FirstOffence.unique {cs : List Char} {error other : TemplateError}
    (h : FirstOffence cs error) (h' : FirstOffence cs other) : error = other := by
  obtain ⟨hsplit, hhere, hfirst⟩ := h
  obtain ⟨hsplit', hhere', hfirst'⟩ := h'
  rename_i before rest before' rest'
  rcases Nat.lt_trichotomy before.length before'.length with hlt | heq | hlt
  · exact absurd hhere (hfirst' before rest hsplit hlt error)
  · obtain ⟨rfl, rfl⟩ := List.append_inj (hsplit.symm.trans hsplit') heq
    exact hhere.unique hhere'
  · exact absurd hhere' (hfirst before' rest' hsplit' hlt other)

/-- An offence behind parts is the first one. -/
theorem Offends.first {parts : List Part} {before rest : List Char} {error : TemplateError}
    (h : Offends before rest error) (hspells : Spells parts before) :
    FirstOffence (before ++ rest) error := by
  refine .intro rfl h fun earlier later hsplit hlt other => ?_
  rcases List.append_eq_append_iff.mp hsplit with ⟨as, rfl, -⟩ | ⟨bs, rfl, rfl⟩
  · rw [List.length_append] at hlt
    omega
  · have hne : bs ≠ [] := by
      rintro rfl
      simp at hlt
    exact hspells.not_offends hne [] rest other

theorem Spells.not_firstOffence {parts : List Part} {cs : List Char} (h : Spells parts cs)
    (error : TemplateError) : ¬FirstOffence cs error := by
  rintro ⟨rfl, hhere, -⟩
  rename_i before rest
  have hne : rest ≠ [] := by
    rintro rfl
    cases hhere
  have hnot := h.not_offends hne [] [] error
  rw [List.append_nil] at hnot
  exact hnot hhere

theorem parse_error_iff {text : String} {error : TemplateError} :
    parse text = .error error ↔ FirstOffence text.toList error := by
  obtain ⟨parts, before, rest, hspells, htext, rfl | ⟨other, ho⟩⟩ := exists_spells text.toList
  · rw [List.append_nil] at htext
    rw [← htext] at hspells
    refine iff_of_false (fun h => ?_) (hspells.not_firstOffence error)
    rw [parse_of_spells hspells] at h
    cases h
  · have hfirst : FirstOffence text.toList other := htext ▸ ho.first hspells
    rw [parse_of_offends hspells htext ho]
    constructor
    · intro h
      cases h
      exact hfirst
    · intro h
      rw [hfirst.unique h]

/-! ## Rendering -/

theorem flatMap_addLiteral (data : Json) (c : Char) (segments : List Segment) :
    (addLiteral c segments).flatMap (Segment.render data)
      = c :: segments.flatMap (Segment.render data) := by
  unfold addLiteral
  split <;> simp [Segment.render]

theorem flatMap_onto (data : Json) (part : Part) (segments : List Segment) :
    (part.onto segments).flatMap (Segment.render data)
      = part.render data ++ segments.flatMap (Segment.render data) := by
  cases part with
  | literal text =>
    rw [Part.onto, Part.render]
    induction text with
    | nil => rfl
    | cons c text ih => rw [List.foldr_cons, flatMap_addLiteral, ih, List.cons_append]
  | placeholder inner path => rw [Part.onto, Part.render, List.flatMap_cons]

theorem flatMap_parts (data : Json) (parts : List Part) :
    (parts.foldr Part.onto []).flatMap (Segment.render data)
      = parts.flatMap (Part.render data) := by
  induction parts with
  | nil => rfl
  | cons part parts ih => rw [List.foldr_cons, flatMap_onto, ih, List.flatMap_cons]

variable {text : String} {template : Template} {parts : List Part}

theorem render_of_spells (h : parse text = .ok template) (hspells : Spells parts text.toList)
    (data : Json) : (template.render data).toList = parts.flatMap (Part.render data) := by
  rw [parse_of_spells hspells] at h
  cases h
  rw [render, flatMap_parts, String.toList_ofList]

theorem forall₂_shows_iff {data : Json} {texts : List (List Char)} :
    List.Forall₂ (Part.Shows data) parts texts ↔ parts.map (Part.render data) = texts := by
  have hshows : Part.Shows data = fun part text => part.render data = text := by
    funext part text
    exact propext Part.shows_iff
  rw [hshows, ← List.forall₂_map_left_iff, List.forall₂_eq_eq_eq]

theorem render_eq_iff (h : parse text = .ok template) (hspells : Spells parts text.toList)
    (data : Json) (result : String) :
    template.render data = result ↔
      ∃ texts, List.Forall₂ (Part.Shows data) parts texts ∧ result.toList = texts.flatten := by
  simp only [forall₂_shows_iff, exists_eq_left', ← List.flatMap_def, ← render_of_spells h hspells]
  rw [String.toList_inj, eq_comm]

/-! ## Static templates -/

def Part.isLiteral : Part → Bool
  | literal _ => true
  | placeholder _ _ => false

theorem isStatic_addLiteral (c : Char) (segments : List Segment) :
    isStatic ⟨addLiteral c segments⟩ = isStatic ⟨segments⟩ := by
  unfold addLiteral
  split <;> rfl

theorem isStatic_onto (part : Part) (segments : List Segment) :
    isStatic ⟨part.onto segments⟩ = (part.isLiteral && isStatic ⟨segments⟩) := by
  cases part with
  | literal text =>
    rw [Part.onto, Part.isLiteral, Bool.true_and]
    induction text with
    | nil => rfl
    | cons c text ih => rw [List.foldr_cons, isStatic_addLiteral, ih]
  | placeholder inner path => rfl

theorem isStatic_parts (parts : List Part) :
    isStatic ⟨parts.foldr Part.onto []⟩ = parts.all Part.isLiteral := by
  induction parts with
  | nil => rfl
  | cons part parts ih => rw [List.foldr_cons, isStatic_onto, ih, List.all_cons]

/-- Null leaves nothing of a placeholder. -/
theorem render_null (inner : List Char) (path : List String) :
    (Part.placeholder inner path).render .null = [] := by
  cases path <;> rfl

theorem render_null_sublist (parts : List Part) :
    (parts.flatMap (Part.render .null)).Sublist (parts.flatMap Part.written) := by
  induction parts with
  | nil => exact .slnil
  | cons part parts ih =>
    rw [List.flatMap_cons, List.flatMap_cons]
    refine .append ?_ ih
    cases part with
    | literal text => exact .refl text
    | placeholder inner path =>
      rw [render_null]
      exact List.nil_sublist _

theorem isLiteral_of_render_null
    (h : parts.flatMap (Part.render .null) = parts.flatMap Part.written) :
    parts.all Part.isLiteral = true := by
  induction parts with
  | nil => rfl
  | cons part parts ih =>
    rw [List.flatMap_cons, List.flatMap_cons] at h
    cases part with
    | literal text => exact ih (List.append_cancel_left h)
    | placeholder inner path =>
      have hle := (render_null_sublist parts).length_le
      have hlength := congrArg List.length h
      simp only [render_null, Part.written, List.nil_append, List.length_append,
        List.length_cons] at hlength
      omega

theorem isStatic_iff (h : parse text = .ok template) (hspells : Spells parts text.toList) :
    template.isStatic = true ↔ ∀ data, template.render data = text := by
  have hrender := render_of_spells h hspells
  rw [parse_of_spells hspells] at h
  cases h
  rw [isStatic_parts]
  constructor
  · intro hliteral data
    rw [← String.toList_inj, hrender, ← hspells.text]
    refine List.flatMap_congr fun part hpart => ?_
    cases part with
    | literal text => rfl
    | placeholder inner path => cases List.all_eq_true.mp hliteral _ hpart
  · intro hsame
    refine isLiteral_of_render_null ?_
    rw [← hrender, hsame, hspells.text]

/-! ## The whole -/

theorem Spells.append {parts more : List Part} {cs rest : List Char} (h : Spells parts cs)
    (h' : Spells more rest) : Spells (parts ++ more) (cs ++ rest) :=
  ⟨List.forall_mem_append.mpr ⟨h.proper, h'.proper⟩,
    by rw [List.flatMap_append, h.text, h'.text]⟩

theorem parse_append {other : String} {next : Template} (h : parse text = .ok template)
    (h' : parse other = .ok next) :
    ∃ both, parse (text ++ other) = .ok both ∧
      ∀ data, both.render data = template.render data ++ next.render data := by
  obtain ⟨parts, hspells⟩ := spells_of_parse h
  obtain ⟨more, hspells'⟩ := spells_of_parse h'
  have hboth : Spells (parts ++ more) (text ++ other).toList := by
    rw [String.toList_append]
    exact hspells.append hspells'
  refine ⟨_, parse_of_spells hboth, fun data => ?_⟩
  rw [← String.toList_inj, render_of_spells (parse_of_spells hboth) hboth, String.toList_append,
    render_of_spells h hspells, render_of_spells h' hspells', List.flatMap_append]

/-- A text is a template if and only if parts spell it; else its leftmost offence is reported. A
template writes what its parts show, whichever parts spell it, and nothing of that is read again;
it is static if and only if it always gives its own text. Two templates, one after the other, are
one. -/
theorem parse_meets_grammar (text : String) :
    ((∃ template, parse text = .ok template) ↔ ∃ parts, Spells parts text.toList) ∧
    (∀ error, parse text = .error error ↔ FirstOffence text.toList error) ∧
    ∀ template, parse text = .ok template →
      (∀ parts, Spells parts text.toList → ∀ data result, template.render data = result ↔
        ∃ texts, List.Forall₂ (Part.Shows data) parts texts ∧ result.toList = texts.flatten) ∧
      (template.isStatic = true ↔ ∀ data, template.render data = text) ∧
      ∀ other next, parse other = .ok next → ∃ both, parse (text ++ other) = .ok both ∧
        ∀ data, both.render data = template.render data ++ next.render data := by
  refine ⟨⟨fun ⟨_, h⟩ => spells_of_parse h, fun ⟨_, h⟩ => ⟨_, parse_of_spells h⟩⟩,
    fun _ => parse_error_iff, fun template h => ⟨fun parts hspells => ?_, ?_, ?_⟩⟩
  · exact render_eq_iff h hspells
  · obtain ⟨parts, hspells⟩ := spells_of_parse h
    exact isStatic_iff h hspells
  · exact fun other next h' => parse_append h h'

end AccessReport.Template
