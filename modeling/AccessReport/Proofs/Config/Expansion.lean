import AccessReport.Config.Expansion
import AccessReport.Proofs.Outcomes
import Mathlib.Data.List.Infix
import Mathlib.Data.List.TakeWhile
/-!
# One pass over a configuration text

Where a placeholder starts, there is only one, and it can be told from the characters that follow;
so a text is read from left to right in only one way (`reads_pieces`, `Reads.unique`). What a text
becomes is then what its pieces become one by one, and the first placeholder that has neither a
value nor a default is the one that is named.

* `placeholder?_eq_some_iff`: what is found at the start of a text is a placeholder as written.
* `fill_ok_iff`, `fill_error_iff`: what takes its place, and when nothing can.
* `pieces_of_isPlain`: a text in which no placeholder is written has none.
* `expand_in_one_pass`: what becomes of a whole text.
-/
namespace AccessReport

/-! ## Placeholders as written -/

namespace Expansion

def StartsName (c : Char) : Prop := ('A' ≤ c ∧ c ≤ 'Z') ∨ ('a' ≤ c ∧ c ≤ 'z') ∨ c = '_'

def ContinuesName (c : Char) : Prop := StartsName c ∨ ('0' ≤ c ∧ c ≤ '9')

theorem isNameStart_iff {c : Char} : isNameStart c = true ↔ StartsName c := by
  have halpha : c.isAlpha = (c.isUpper || c.isLower) := rfl
  have hupper : c.isUpper = decide ('A' ≤ c ∧ c ≤ 'Z') := rfl
  have hlower : c.isLower = (decide ('a' ≤ c) && decide (c ≤ 'z')) := rfl
  simp [isNameStart, StartsName, halpha, hupper, hlower, or_assoc]

theorem isNamePart_iff {c : Char} : isNamePart c = true ↔ ContinuesName c := by
  rw [ContinuesName, ← isNameStart_iff]
  simp [isNamePart, isNameStart, Char.isAlphanum, Char.isDigit, Char.le_def, or_right_comm]

/-- What is written behind the name of a variable. -/
def writtenEnd : Option (List Char) → List Char
  | none => ['\x7d']
  | some fallback => ':' :: '-' :: fallback ++ ['\x7d']

end Expansion

open Expansion

namespace Placeholder

/-- A placeholder in a text. -/
def written (found : Placeholder) : List Char :=
  '$' :: '\x7b' :: found.name.toList ++ writtenEnd (found.fallback.map String.toList)

structure Proper (found : Placeholder) : Prop where
  name : ∃ c rest, found.name.toList = c :: rest ∧ StartsName c ∧ ∀ d ∈ rest, ContinuesName d
  fallback : ∀ text, found.fallback = some text → '\x7d' ∉ text.toList

end Placeholder

namespace Expansion

/-- A run of characters ends where one follows that does not belong to it. -/
theorem run_ends {p : Char → Bool} {run after : List Char} (h : ∀ c ∈ run, p c = true)
    (hstop : ∀ c ∈ after.head?, p c = false) :
    (run ++ after).takeWhile p = run ∧ (run ++ after).dropWhile p = after := by
  rw [List.takeWhile_append_of_pos h, List.dropWhile_append_of_pos h]
  cases after with
  | nil => simp
  | cons c after => simp [hstop c rfl]

theorem fallback?_eq_some_iff {cs after : List Char} {fallback : Option (List Char)} :
    fallback? cs = some (fallback, after) ↔
      (∀ text, fallback = some text → '\x7d' ∉ text) ∧ cs = writtenEnd fallback ++ after := by
  constructor
  · intro h
    unfold fallback? at h
    split at h
    · cases h
      exact ⟨by simp, rfl⟩
    · rename_i rest
      split at h
      · rename_i c more hdrop
        cases h
        have hne : rest.dropWhile (· != '\x7d') ≠ [] := by simp [hdrop]
        have hclose := List.head_dropWhile_not (· != '\x7d') hne
        simp only [hdrop, List.head_cons, bne_eq_false_iff_eq] at hclose
        subst hclose
        constructor
        · rintro text ⟨⟩ hmem
          simpa using List.mem_takeWhile_imp hmem
        · have hrest := List.takeWhile_append_dropWhile (p := (· != '\x7d')) (l := rest)
          rw [hdrop] at hrest
          simp [writtenEnd, hrest]
      · cases h
    · cases h
  · rintro ⟨hfree, rfl⟩
    cases fallback with
    | none => rfl
    | some text =>
      have hkeep : ∀ c ∈ text, (c != '\x7d') = true := by
        intro c hc
        simpa using fun he : c = '\x7d' => hfree text rfl (he ▸ hc)
      have hstop : ∀ c ∈ ('\x7d' :: after).head?, (c != '\x7d') = false := by simp
      simp [writtenEnd, fallback?, run_ends hkeep hstop]

/-- No name goes on behind its end. -/
theorem not_isNamePart_writtenEnd (fallback : Option (List Char)) (after : List Char) :
    ∀ c ∈ (writtenEnd fallback ++ after).head?, isNamePart c = false := by
  cases fallback <;> simp [writtenEnd] <;> decide

theorem placeholder?_eq_some_iff {cs after : List Char} {found : Placeholder} :
    placeholder? cs = some (found, after) ↔ found.Proper ∧ cs = found.written ++ after := by
  constructor
  · intro h
    unfold placeholder? at h
    split at h
    · rename_i c rest
      split at h
      · rename_i hc
        obtain ⟨⟨fallback, tail⟩, hf, he⟩ := Option.map_eq_some_iff.mp h
        cases he
        obtain ⟨hfree, hrest⟩ := fallback?_eq_some_iff.mp hf
        constructor
        · constructor
          · refine ⟨c, rest.takeWhile isNamePart, by simp, isNameStart_iff.mp hc, fun d hd => ?_⟩
            exact isNamePart_iff.mp (List.mem_takeWhile_imp hd)
          · intro text ht
            obtain ⟨chars, hchars, rfl⟩ := Option.map_eq_some_iff.mp ht
            simpa using hfree chars hchars
        · have hname := List.takeWhile_append_dropWhile (p := isNamePart) (l := rest)
          rw [hrest] at hname
          simpa [Placeholder.written, Function.comp_def] using hname.symm
      · cases h
    · cases h
  · rintro ⟨hproper, rfl⟩
    obtain ⟨c, rest, hname, hc, hrest⟩ := hproper.name
    have hends := run_ends (fun d hd => isNamePart_iff.mpr (hrest d hd))
      (not_isNamePart_writtenEnd (found.fallback.map String.toList) after)
    have hfallback : fallback? (writtenEnd (found.fallback.map String.toList) ++ after)
        = some (found.fallback.map String.toList, after) := by
      refine fallback?_eq_some_iff.mpr ⟨fun text ht => ?_, rfl⟩
      obtain ⟨fallback, hf, rfl⟩ := Option.map_eq_some_iff.mp ht
      exact hproper.fallback fallback hf
    rw [Placeholder.written, hname]
    simp only [List.cons_append, List.append_assoc, placeholder?, if_pos (isNameStart_iff.mpr hc),
      hends, hfallback, Option.map_some, Option.map_map, Function.comp_def, String.ofList_toList]
    rw [← hname]
    simp

/-! ## Reading from left to right -/

/-- The pieces of a text from left to right: a placeholder where one is written, else the next
character. -/
inductive Reads : List Char → List Piece → Prop where
  | nil : Reads [] []
  | placeholder {found : Placeholder} {after : List Char} {parts : List Piece}
    (h : found.Proper) (rest : Reads after parts) :
    Reads (found.written ++ after) (.placeholder found :: parts)
  | character {c : Char} {cs : List Char} {parts : List Piece}
    (h : ∀ found : Placeholder, found.Proper → ¬found.written <+: c :: cs)
    (rest : Reads cs parts) : Reads (c :: cs) (.character c :: parts)

theorem placeholder?_eq_none_iff {cs : List Char} :
    placeholder? cs = none ↔ ∀ found : Placeholder, found.Proper → ¬found.written <+: cs := by
  constructor
  · rintro h found hproper ⟨after, rfl⟩
    rw [placeholder?_eq_some_iff.mpr ⟨hproper, rfl⟩] at h
    cases h
  · intro h
    rw [Option.eq_none_iff_forall_ne_some]
    rintro ⟨found, after⟩ hfound
    obtain ⟨hproper, rfl⟩ := placeholder?_eq_some_iff.mp hfound
    exact h found hproper ⟨after, rfl⟩

theorem pieces_of_placeholder {cs after : List Char} {found : Placeholder}
    (h : placeholder? cs = some (found, after)) :
    pieces cs = .placeholder found :: pieces after := by
  rw [pieces]
  split
  · rename_i found' after' h'
    rw [h'] at h
    cases h
    rfl
  · rename_i h'
    rw [h'] at h
    cases h

theorem pieces_of_character {c : Char} {cs : List Char} (h : placeholder? (c :: cs) = none) :
    pieces (c :: cs) = .character c :: pieces cs := by
  rw [pieces]
  split
  · rename_i h'
    rw [h'] at h
    cases h
  · rfl

theorem reads_pieces (cs : List Char) : Reads cs (pieces cs) := by
  induction cs using pieces.induct with
  | case1 cs found after h ih =>
    rw [pieces_of_placeholder h]
    obtain ⟨hproper, rfl⟩ := placeholder?_eq_some_iff.mp h
    exact .placeholder hproper ih
  | case2 h =>
    rw [pieces_nil]
    exact .nil
  | case3 c cs h ih =>
    rw [pieces_of_character h]
    exact .character (placeholder?_eq_none_iff.mp h) ih

theorem Reads.unique {cs : List Char} {parts : List Piece} (h : Reads cs parts) :
    parts = pieces cs := by
  induction h with
  | nil => exact pieces_nil.symm
  | placeholder hproper rest ih =>
    rw [pieces_of_placeholder (placeholder?_eq_some_iff.mpr ⟨hproper, rfl⟩), ih]
  | character h rest ih => rw [pieces_of_character (placeholder?_eq_none_iff.mpr h), ih]

/-- No placeholder is written anywhere in the text. -/
def IsPlain (cs : List Char) : Prop :=
  ∀ found : Placeholder, found.Proper → ¬found.written <:+: cs

theorem isPlain_iff {cs : List Char} :
    IsPlain cs ↔ ∀ tail ∈ cs.tails, placeholder? tail = none := by
  constructor
  · intro h tail htail
    refine placeholder?_eq_none_iff.mpr fun found hproper hstarts => h found hproper ?_
    exact hstarts.isInfix.trans ((List.mem_tails tail cs).mp htail).isInfix
  · intro h found hproper hoccurs
    obtain ⟨tail, hstarts, hsuffix⟩ := List.infix_iff_prefix_suffix.mp hoccurs
    have hnone := h tail ((List.mem_tails tail cs).mpr hsuffix)
    exact placeholder?_eq_none_iff.mp hnone found hproper hstarts

/-- A plain text is read character by character. -/
theorem pieces_of_isPlain {cs : List Char} (h : IsPlain cs) : pieces cs = cs.map .character := by
  induction cs with
  | nil => exact pieces_nil
  | cons c cs ih =>
    have hnone := placeholder?_eq_none_iff.mpr fun found hproper hstarts =>
      h found hproper hstarts.isInfix
    rw [pieces_of_character hnone, List.map_cons,
      ih fun found hproper hoccurs => h found hproper (List.infix_cons hoccurs)]

end Expansion

/-! ## What takes the place of a placeholder -/

/-- An empty value counts as none. -/
def Surroundings.Lacks (around : Surroundings) (name : String) : Prop :=
  around.value? name = none ∨ around.value? name = some ""

/-- Neither a value nor a default. -/
def Placeholder.IsMissing (around : Surroundings) (found : Placeholder) : Prop :=
  around.Lacks found.name ∧ found.fallback = none

inductive Placeholder.Becomes (around : Surroundings) (found : Placeholder) : String → Prop where
  | value {value : String} (h : around.value? found.name = some value) (hne : value ≠ "") :
    found.Becomes around value
  | fallback {text : String} (h : around.Lacks found.name) (hf : found.fallback = some text) :
    found.Becomes around text

inductive Expansion.Piece.Becomes (around : Surroundings) : Piece → String → Prop where
  | character (c : Char) : Becomes around (.character c) c.toString
  | placeholder {found : Placeholder} {text : String} (h : found.Becomes around text) :
    Becomes around (.placeholder found) text

namespace Expansion

variable {around : Surroundings} {found : Placeholder}

theorem filter_eq_none_iff {name : String} :
    (around.value? name).filter (!·.isEmpty) = none ↔ around.Lacks name := by
  cases h : around.value? name <;> simp [Surroundings.Lacks, h, Option.filter]

theorem filter_eq_some_iff {name value : String} :
    (around.value? name).filter (!·.isEmpty) = some value ↔
      around.value? name = some value ∧ value ≠ "" := by
  simp [Option.filter_eq_some_iff]

theorem outcome_fill_eq : ((fill found).run around).outcome =
    match (around.value? found.name).filter (!·.isEmpty), found.fallback with
    | some value, _ => .ok value
    | none, some fallback => .ok fallback
    | none, none => .error (.unset found.name) := by
  rw [fill, Inquiry.run_bind, Traced.outcome_bind, Inquiry.run_value, Traced.outcome_pure, ok_bind]
  cases (around.value? found.name).filter (!·.isEmpty) with
  | some value => rfl
  | none => cases found.fallback <;> rfl

theorem fill_ok_iff {text : String} :
    ((fill found).run around).outcome = .ok text ↔ found.Becomes around text := by
  rw [outcome_fill_eq]
  constructor
  · intro h
    split at h
    · rename_i value _ hvalue
      cases h
      obtain ⟨hvalue, hne⟩ := filter_eq_some_iff.mp hvalue
      exact .value hvalue hne
    · rename_i hnone hfallback
      cases h
      exact .fallback (filter_eq_none_iff.mp hnone) hfallback
    · cases h
  · intro h
    cases h with
    | value h hne => rw [filter_eq_some_iff.mpr ⟨h, hne⟩]
    | fallback h hf => rw [filter_eq_none_iff.mpr h, hf]

theorem fill_error_iff {error : ExpansionError} :
    ((fill found).run around).outcome = .error error ↔
      found.IsMissing around ∧ error = .unset found.name := by
  rw [outcome_fill_eq]
  constructor
  · intro h
    split at h
    · cases h
    · cases h
    · rename_i hnone hfallback
      cases h
      exact ⟨⟨filter_eq_none_iff.mp hnone, hfallback⟩, rfl⟩
  · rintro ⟨⟨hlacks, hfallback⟩, rfl⟩
    rw [filter_eq_none_iff.mpr hlacks, hfallback]

/-- A placeholder that is not missing becomes some text. -/
theorem not_isMissing_iff :
    ¬found.IsMissing around ↔ ∃ text, ((fill found).run around).outcome = .ok text := by
  cases h : ((fill found).run around).outcome with
  | error error => simpa using (fill_error_iff.mp h).1
  | ok text =>
    refine iff_of_true (fun hmissing => ?_) ⟨text, rfl⟩
    rw [fill_error_iff.mpr ⟨hmissing, rfl⟩] at h
    cases h

theorem fillPiece_ok_iff {part : Piece} {text : String} :
    ((fillPiece part).run around).outcome = .ok text ↔ part.Becomes around text := by
  cases part with
  | character c =>
    constructor
    · intro h
      cases h
      exact .character c
    · rintro ⟨⟩
      rfl
  | placeholder found =>
    rw [fillPiece, fill_ok_iff]
    constructor
    · exact .placeholder
    · rintro ⟨⟩
      assumption

theorem fillPiece_error_iff {part : Piece} {error : ExpansionError} :
    ((fillPiece part).run around).outcome = .error error ↔
      ∃ found, part = .placeholder found ∧ found.IsMissing around ∧ error = .unset found.name := by
  cases part with
  | character c =>
    constructor
    · intro h
      cases h
    · rintro ⟨found, h, -⟩
      cases h
  | placeholder found =>
    rw [fillPiece, fill_error_iff]
    constructor
    · exact fun h => ⟨found, rfl, h⟩
    · rintro ⟨other, h, hother⟩
      cases h
      exact hother

/-! ## A whole text -/

theorem outcome_expand (text : String) :
    ((expand text).run around).outcome = ((pieces text.toList).mapM fun part =>
      ((fillPiece part).run around).outcome) >>= fun texts => .ok (String.join texts) := by
  rw [expand, Inquiry.run_bind, Traced.outcome_bind, Inquiry.outcome_mapM]
  rfl

theorem expand_ok_iff {text result : String} :
    ((expand text).run around).outcome = .ok result ↔
      ∃ texts, List.Forall₂ (Piece.Becomes around) (pieces text.toList) texts ∧
        result = String.join texts := by
  rw [outcome_expand, bind_eq_ok]
  simp only [mapM_ok_iff, fillPiece_ok_iff]
  constructor
  · rintro ⟨texts, h, he⟩
    cases he
    exact ⟨texts, h, rfl⟩
  · rintro ⟨texts, h, rfl⟩
    exact ⟨texts, h, rfl⟩

/-- The first placeholder that is missing is the one that is named. -/
theorem expand_error_iff {text : String} {error : ExpansionError} :
    ((expand text).run around).outcome = .error error ↔
      ∃ before found after, pieces text.toList = before ++ .placeholder found :: after ∧
        (∀ earlier, .placeholder earlier ∈ before → ¬earlier.IsMissing around) ∧
        found.IsMissing around ∧ error = .unset found.name := by
  rw [outcome_expand, bind_eq_error, mapM_error_iff]
  constructor
  · rintro (⟨before, part, after, hparts, hbefore, hpart⟩ | ⟨texts, -, h⟩)
    · obtain ⟨found, rfl, hmissing⟩ := fillPiece_error_iff.mp hpart
      refine ⟨before, found, after, hparts, fun earlier hearlier => ?_, hmissing⟩
      exact not_isMissing_iff.mpr (hbefore _ hearlier)
    · cases h
  · rintro ⟨before, found, after, hparts, hbefore, hmissing⟩
    refine .inl ⟨before, _, after, hparts, fun part hpart => ?_,
      fillPiece_error_iff.mpr ⟨found, rfl, hmissing⟩⟩
    cases part with
    | character c => exact ⟨c.toString, rfl⟩
    | placeholder earlier => exact not_isMissing_iff.mp (hbefore earlier hpart)

/-- Something is missing if and only if there is a first placeholder that is. -/
theorem exists_isMissing_iff {parts : List Piece} :
    (∃ found, .placeholder found ∈ parts ∧ found.IsMissing around) ↔
      ∃ before found after, parts = before ++ .placeholder found :: after ∧
        (∀ earlier, .placeholder earlier ∈ before → ¬earlier.IsMissing around) ∧
        found.IsMissing around := by
  constructor
  · rintro ⟨found, hmem, hmissing⟩
    induction parts with
    | nil => cases hmem
    | cons part parts ih =>
      by_cases hfirst : ∃ first, part = .placeholder first ∧ first.IsMissing around
      · obtain ⟨first, rfl, hfirst⟩ := hfirst
        exact ⟨[], first, parts, rfl, by simp, hfirst⟩
      · rcases List.mem_cons.mp hmem with rfl | hmem
        · exact absurd ⟨found, rfl, hmissing⟩ hfirst
        · obtain ⟨before, other, after, rfl, hbefore, hother⟩ := ih hmem
          refine ⟨part :: before, other, after, rfl, fun earlier hearlier hm => ?_, hother⟩
          rcases List.mem_cons.mp hearlier with he | he
          · exact hfirst ⟨earlier, he.symm, hm⟩
          · exact hbefore earlier he hm
  · rintro ⟨before, found, after, rfl, -, hmissing⟩
    exact ⟨found, by simp, hmissing⟩

theorem expand_of_isPlain {text : String} (h : IsPlain text.toList) :
    ((expand text).run around).outcome = .ok text := by
  refine expand_ok_iff.mpr ⟨text.toList.map Char.toString, ?_, ?_⟩
  · rw [pieces_of_isPlain h, List.forall₂_map_left_iff, List.forall₂_map_right_iff,
      List.forall₂_same]
    exact fun c _ => .character c
  · rw [← String.toList_inj, String.toList_join, List.flatMap_map]
    simp [Char.toString]

/-- What looks like a placeholder at first. -/
def nearMisses : List String :=
  ["\x7bdata.x\x7d", "$HOME", "$\x7b", "$\x7b1x\x7d", "$\x7ba.b\x7d"]

/-- A text is read from left to right in exactly one way. It fails if and only if a placeholder in
it has neither a value nor a default, and then names the first of these; else each placeholder
becomes its value or its default and all other characters stay. So a text without placeholders
stays as it is, near misses among them. -/
theorem expand_in_one_pass (around : Surroundings) (text : String) :
    (∃ parts, Reads text.toList parts ∧ (∀ other, Reads text.toList other → other = parts) ∧
      ((∃ error, ((expand text).run around).outcome = .error error) ↔
        ∃ found, .placeholder found ∈ parts ∧ found.IsMissing around) ∧
      (∀ name, ((expand text).run around).outcome = .error (.unset name) ↔
        ∃ before found after, parts = before ++ .placeholder found :: after ∧
          (∀ earlier, .placeholder earlier ∈ before → ¬earlier.IsMissing around) ∧
          found.IsMissing around ∧ name = found.name) ∧
      ∀ result, ((expand text).run around).outcome = .ok result ↔
        ∃ texts, List.Forall₂ (Piece.Becomes around) parts texts ∧ result = String.join texts) ∧
    (IsPlain text.toList → ((expand text).run around).outcome = .ok text) ∧
    ∀ near ∈ nearMisses, IsPlain near.toList := by
  refine ⟨⟨pieces text.toList, reads_pieces _, fun other h => h.unique, ?_, fun name => ?_,
    fun result => expand_ok_iff⟩, expand_of_isPlain, ?_⟩
  · rw [exists_isMissing_iff]
    simp only [expand_error_iff]
    constructor
    · rintro ⟨-, before, found, after, hparts, hbefore, hmissing, -⟩
      exact ⟨before, found, after, hparts, hbefore, hmissing⟩
    · rintro ⟨before, found, after, hparts, hbefore, hmissing⟩
      exact ⟨_, before, found, after, hparts, hbefore, hmissing, rfl⟩
  · simp only [expand_error_iff, ExpansionError.unset.injEq]
  · simp only [isPlain_iff]
    decide

/-- A default ends at the first closing brace, whatever stands in it. -/
example : pieces "$\x7bA:-$\x7bB\x7d\x7d".toList
    = [.placeholder ⟨"A", some "$\x7bB"⟩, .character '\x7d'] := by cbv

end Expansion
end AccessReport
