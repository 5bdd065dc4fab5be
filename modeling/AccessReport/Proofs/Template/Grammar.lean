import AccessReport.Template
import Mathlib.Data.List.Basic
/-!
# The grammar of templates

A template text is a sequence of parts, text without braces and placeholders. Reading one part in
front of a text does not depend on what follows (`segmentsOf_part`); so a text that is spelled by
parts is read, and where the parts end in front of something that no part starts with, the reading
fails.

* `path?_ok_iff`, `path?_error_iff`: which texts between braces name a place, and what is said of
  the others.
* `segmentsOf_parts`: what is read of parts.
* `segmentsOf_of_offends`: what is said where no part starts.
* `Spells.not_offends`: nothing is wrong inside parts.
* `exists_spells`: every text is spelled by parts up to its end or up to an offence.
-/
namespace AccessReport.Template

open Text

/-! ## Parts -/

structure BraceFree (cs : List Char) : Prop where
  opening : '\x7b' ∉ cs
  closing : '\x7d' ∉ cs

/-- Without blanks around it, the text is `data` with the names of members, each behind a point. -/
structure Names (inner : List Char) (path : List String) : Prop where
  text : trimmed inner = "data".toList ++ path.flatMap fun field => '.' :: field.toList
  fields : ∀ field ∈ path, field ≠ "" ∧ '.' ∉ field.toList

inductive Part where
  | literal (text : List Char)
  | placeholder (inner : List Char) (path : List String)

namespace Part

def written : Part → List Char
  | literal text => text
  | placeholder inner _ => '\x7b' :: inner ++ ['\x7d']

inductive Proper : Part → Prop where
  | literal {text : List Char} (free : BraceFree text) : Proper (literal text)
  | placeholder {inner : List Char} {path : List String} (free : BraceFree inner)
    (names : Names inner path) : Proper (placeholder inner path)

/-- What a part is read as, in front of what the rest is read as. -/
def onto : Part → List Segment → List Segment
  | literal text, segments => text.foldr addLiteral segments
  | placeholder _ path, segments => .data path :: segments

end Part

/-- The parts, one after the other, are the text. -/
structure Spells (parts : List Part) (cs : List Char) : Prop where
  proper : ∀ part ∈ parts, part.Proper
  text : parts.flatMap Part.written = cs

/-- What is wrong where a brace belongs to no placeholder, or a placeholder names nothing. -/
inductive Offends (before : List Char) : List Char → TemplateError → Prop where
  | opening {rest : List Char}
    (h : ∀ inner after, BraceFree inner → rest ≠ inner ++ '\x7d' :: after) :
    Offends before ('\x7b' :: rest) .unbalancedBrace
  | closing {rest : List Char}
    (h : ∀ start inner, BraceFree inner → before ≠ start ++ '\x7b' :: inner) :
    Offends before ('\x7d' :: rest) .unbalancedBrace
  | unknown {inner after : List Char} (free : BraceFree inner) (h : ∀ path, ¬Names inner path) :
    Offends before ('\x7b' :: inner ++ '\x7d' :: after)
      (.unknownPlaceholder (String.ofList (trimmed inner)))

theorem BraceFree.cons_iff {c : Char} {cs : List Char} :
    BraceFree (c :: cs) ↔ (c ≠ '\x7b' ∧ c ≠ '\x7d') ∧ BraceFree cs := by
  constructor
  · rintro ⟨ho, hc⟩
    rw [List.mem_cons, not_or] at ho hc
    exact ⟨⟨Ne.symm ho.1, Ne.symm hc.1⟩, ho.2, hc.2⟩
  · rintro ⟨⟨ho, hc⟩, h⟩
    exact ⟨by simpa [Ne.symm ho] using h.opening, by simpa [Ne.symm hc] using h.closing⟩

theorem BraceFree.nil : BraceFree [] := ⟨List.not_mem_nil, List.not_mem_nil⟩

/-! ## The text between braces -/

theorem splitAt_dotted {first : List Char} {fields : List (List Char)} (hfirst : '.' ∉ first)
    (hfields : ∀ field ∈ fields, '.' ∉ field) :
    splitAt '.' (first ++ fields.flatMap ('.' :: ·)) = first :: fields := by
  induction fields generalizing first with
  | nil => simpa using splitAt_of_not_mem hfirst
  | cons field fields ih =>
    rw [List.forall_mem_cons] at hfields
    rw [List.flatMap_cons, List.cons_append, splitAt_append hfirst, ih hfields.1 hfields.2]

theorem joinWith_cons (separator : Char) (first : List Char) (parts : List (List Char)) :
    joinWith [separator] (first :: parts) = first ++ parts.flatMap (separator :: ·) := by
  induction parts generalizing first with
  | nil => simp [joinWith]
  | cons part parts ih => simp [joinWith, ih]

theorem eq_dotted_of_splitAt {cs first : List Char} {fields : List (List Char)}
    (h : splitAt '.' cs = first :: fields) : cs = first ++ fields.flatMap ('.' :: ·) := by
  rw [← joinWith_cons, ← h, joinWith_splitAt]

theorem names_iff {inner : List Char} {path : List String} :
    Names inner path ↔ splitAt '.' (trimmed inner) = rootName :: path.map String.toList ∧
      ∀ field ∈ path, field ≠ "" := by
  constructor
  · intro h
    refine ⟨?_, fun field hf => (h.fields field hf).1⟩
    rw [← splitAt_dotted (by decide) (by simpa using fun f hf => (h.fields f hf).2), h.text,
      List.flatMap_map]
    rfl
  · rintro ⟨hsplit, hne⟩
    constructor
    · rw [eq_dotted_of_splitAt hsplit, List.flatMap_map]
      rfl
    · intro field hf
      have hmem : field.toList ∈ splitAt '.' (trimmed inner) := by
        rw [hsplit]
        exact List.mem_cons_of_mem _ (List.mem_map_of_mem hf)
      exact ⟨hne field hf, not_mem_of_mem_splitAt hmem⟩

theorem path?_ok_iff {inner : List Char} {path : List String} :
    path? inner = .ok path ↔ Names inner path := by
  rw [names_iff]
  cases hsplit : splitAt '.' (trimmed inner) with
  | nil => exact absurd hsplit (splitAt_ne_nil '.' (trimmed inner))
  | cons root fields =>
    simp only [path?, hsplit]
    constructor
    · intro h
      split at h
      · rename_i hnamed
        cases h
        refine ⟨by simp [hnamed.1], fun field hf => ?_⟩
        obtain ⟨chars, hchars, rfl⟩ := List.mem_map.mp hf
        simpa using List.all_eq_true.mp hnamed.2 chars hchars
      · cases h
    · rintro ⟨h, hne⟩
      obtain ⟨rfl, rfl⟩ := List.cons_eq_cons.mp h
      rw [if_pos ⟨rfl, by simpa using hne⟩]
      simp

theorem path?_error_iff {inner : List Char} {error : TemplateError} :
    path? inner = .error error ↔ (∀ path, ¬Names inner path) ∧
      error = .unknownPlaceholder (String.ofList (trimmed inner)) := by
  have honly : (∃ path, path? inner = .ok path) ∨
      path? inner = .error (.unknownPlaceholder (String.ofList (trimmed inner))) := by
    simp only [path?]
    split
    · split
      · exact .inl ⟨_, rfl⟩
      · exact .inr rfl
    · exact .inr rfl
  simp only [← path?_ok_iff]
  constructor
  · intro h
    rcases honly with ⟨path, hok⟩ | herror
    · rw [hok] at h
      cases h
    · rw [herror] at h
      cases h
      refine ⟨fun path hok => ?_, rfl⟩
      rw [herror] at hok
      cases hok
  · rintro ⟨h, rfl⟩
    exact honly.resolve_left fun ⟨path, hok⟩ => h path hok

/-! ## Reading part by part -/

theorem segmentsOf_inside {inner : List Char} (h : BraceFree inner) (read rest : List Char) :
    segmentsOf (some read) (inner ++ rest) = segmentsOf (some (inner.reverse ++ read)) rest := by
  induction inner generalizing read with
  | nil => rfl
  | cons c inner ih =>
    obtain ⟨⟨ho, hc⟩, h⟩ := BraceFree.cons_iff.mp h
    simp only [List.cons_append, segmentsOf, if_neg ho, if_neg hc, ih h]
    simp

theorem segmentsOf_placeholder {inner : List Char} (h : BraceFree inner) (rest : List Char) :
    segmentsOf none ('\x7b' :: inner ++ '\x7d' :: rest) = (do
      let path ← path? inner
      let segments ← segmentsOf none rest
      pure (.data path :: segments)) := by
  simp [segmentsOf, segmentsOf_inside h]

theorem segmentsOf_literal {text : List Char} (h : BraceFree text) (rest : List Char) :
    segmentsOf none (text ++ rest) = (segmentsOf none rest).map (text.foldr addLiteral) := by
  induction text with
  | nil =>
    show segmentsOf none rest = _
    cases segmentsOf none rest <;> rfl
  | cons c text ih =>
    obtain ⟨⟨ho, hc⟩, h⟩ := BraceFree.cons_iff.mp h
    simp only [List.cons_append, segmentsOf, if_neg ho, if_neg hc, ih h]
    cases segmentsOf none rest <;> rfl

theorem segmentsOf_part {part : Part} (h : part.Proper) (rest : List Char) :
    segmentsOf none (part.written ++ rest) = (segmentsOf none rest).map part.onto := by
  cases h with
  | literal hfree => exact segmentsOf_literal hfree rest
  | placeholder hfree hnames =>
    have hread := segmentsOf_placeholder hfree rest
    rw [path?_ok_iff.mpr hnames] at hread
    simp only [Part.written, List.append_assoc, List.singleton_append, hread]
    cases segmentsOf none rest <;> rfl

/-- Parts are read one by one. -/
theorem segmentsOf_parts {parts : List Part} {cs : List Char} (h : Spells parts cs)
    (rest : List Char) :
    segmentsOf none (cs ++ rest)
      = (segmentsOf none rest).map fun segments => parts.foldr Part.onto segments := by
  obtain ⟨hproper, rfl⟩ := h
  induction parts with
  | nil =>
    show segmentsOf none rest = _
    cases segmentsOf none rest <;> rfl
  | cons part parts ih =>
    obtain ⟨hpart, hparts⟩ := List.forall_mem_cons.mp hproper
    rw [List.flatMap_cons, List.append_assoc, segmentsOf_part hpart, ih hparts]
    cases segmentsOf none rest <;> rfl

/-- Where a placeholder is not closed before the next opening brace or the end, reading fails. -/
theorem segmentsOf_unclosed {read rest : List Char}
    (h : ∀ inner after, BraceFree inner → rest ≠ inner ++ '\x7d' :: after) :
    segmentsOf (some read) rest = .error .unbalancedBrace := by
  induction rest generalizing read with
  | nil => rfl
  | cons c rest ih =>
    by_cases ho : c = '\x7b'
    · simp only [segmentsOf, if_pos ho]
    · have hc : c ≠ '\x7d' := by
        rintro rfl
        exact h [] rest .nil rfl
      simp only [segmentsOf, if_neg ho, if_neg hc]
      refine ih fun inner after hfree he => h (c :: inner) after ?_ (by rw [he]; rfl)
      exact BraceFree.cons_iff.mpr ⟨⟨ho, hc⟩, hfree⟩

theorem segmentsOf_of_offends {before rest : List Char} {error : TemplateError}
    (h : Offends before rest error) : segmentsOf none rest = .error error := by
  cases h with
  | opening h => simpa [segmentsOf] using segmentsOf_unclosed h
  | closing h => simp [segmentsOf]
  | unknown hfree h =>
    rw [segmentsOf_placeholder hfree, path?_error_iff.mpr ⟨h, rfl⟩]
    rfl

/-! ## Offences -/

/-- A placeholder ends at its first closing brace. -/
theorem eq_of_closed {inner other after rest : List Char} (h : BraceFree inner)
    (ho : BraceFree other) (he : inner ++ '\x7d' :: after = other ++ '\x7d' :: rest) :
    inner = other := by
  have hsplit := congrArg (splitAt '\x7d') he
  rw [splitAt_append h.closing, splitAt_append ho.closing] at hsplit
  exact (List.cons_eq_cons.mp hsplit).1

theorem BraceFree.not_closed {inner : List Char} (h : BraceFree inner) :
    ∀ other rest, BraceFree other → inner ≠ other ++ '\x7d' :: rest := by
  rintro other rest - rfl
  exact h.closing (by simp)

theorem Offends.head {before rest : List Char} {c : Char} {error : TemplateError}
    (h : Offends before (c :: rest) error) : c = '\x7b' ∨ c = '\x7d' := by
  generalize hcs : c :: rest = cs at h
  cases h <;> simp_all

theorem not_offends_placeholder {inner : List Char} {path : List String} (hfree : BraceFree inner)
    (hnames : Names inner path) (before rest : List Char) (error : TemplateError) :
    ¬Offends before ('\x7b' :: inner ++ '\x7d' :: rest) error := by
  intro h
  generalize hcs : '\x7b' :: inner ++ '\x7d' :: rest = cs at h
  cases h with
  | opening h => exact h inner rest hfree (by simpa using hcs.symm)
  | closing h => simp at hcs
  | unknown hfree' h =>
    have he := eq_of_closed hfree hfree' (by simpa using hcs)
    exact h path (he ▸ hnames)

/-- A brace inside a part belongs to it, and its placeholder names something. -/
theorem Part.Proper.not_offends {part : Part} (h : part.Proper) {before after : List Char}
    (hsplit : part.written = before ++ after) (hne : after ≠ []) (start rest : List Char)
    (error : TemplateError) : ¬Offends (start ++ before) (after ++ rest) error := by
  obtain ⟨c, after, rfl⟩ := List.exists_cons_of_ne_nil hne
  have hplain {cs : List Char} (hfree : BraceFree cs) (hc : c ∈ cs) :
      ¬Offends (start ++ before) (c :: after ++ rest) error := by
    intro ho
    rcases ho.head with rfl | rfl
    · exact hfree.opening hc
    · exact hfree.closing hc
  cases h with
  | @literal text hfree => exact hplain hfree (by rw [show text = _ from hsplit]; simp)
  | @placeholder inner path hfree hnames =>
    cases before with
    | nil =>
      have hwhole : c :: after ++ rest = '\x7b' :: inner ++ '\x7d' :: rest := by
        rw [← List.nil_append (c :: after), ← hsplit]
        simp [Part.written]
      rw [hwhole]
      exact not_offends_placeholder hfree hnames _ rest error
    | cons b before =>
      obtain ⟨rfl, hrest⟩ := List.cons_eq_cons.mp hsplit
      -- either the split is inside the braces, or just before the closing one
      have hclosing (hbefore : before = inner) (hc : c = '\x7d') :
          ¬Offends (start ++ '\x7b' :: before) (c :: after ++ rest) error := by
        subst hbefore hc
        rintro ⟨⟩
        rename_i h
        exact h start before hfree rfl
      rcases List.append_eq_append_iff.mp hrest with ⟨as, hbefore, hlast⟩ | ⟨bs, hinner, hlast⟩
      · cases as with
        | nil => exact hclosing (by simpa using hbefore) (List.cons_eq_cons.mp hlast).1.symm
        | cons a as => simp at hlast
      · cases bs with
        | nil => exact hclosing (by simpa using hinner.symm) (List.cons_eq_cons.mp hlast).1
        | cons b bs =>
          obtain ⟨rfl, -⟩ := List.cons_eq_cons.mp hlast
          exact hplain hfree (by simp [hinner])

/-- So does a brace inside parts. -/
theorem Spells.not_offends {parts : List Part} {before after : List Char}
    (h : Spells parts (before ++ after)) (hne : after ≠ []) (start rest : List Char)
    (error : TemplateError) : ¬Offends (start ++ before) (after ++ rest) error := by
  obtain ⟨hproper, htext⟩ := h
  induction parts generalizing before start with
  | nil => simp_all
  | cons part parts ih =>
    obtain ⟨hpart, hparts⟩ := List.forall_mem_cons.mp hproper
    rw [List.flatMap_cons] at htext
    have hlater (as : List Char) (hbefore : before = part.written ++ as)
        (has : parts.flatMap Part.written = as ++ after) :
        ¬Offends (start ++ before) (after ++ rest) error := by
      rw [hbefore, ← List.append_assoc]
      exact ih _ hparts has
    rcases List.append_eq_append_iff.mp htext with ⟨as, hbefore, has⟩ | ⟨bs, hwritten, hafter⟩
    · exact hlater as hbefore has
    · by_cases hbs : bs = []
      · subst hbs
        exact hlater [] (by simpa using hwritten.symm) (by simpa using hafter.symm)
      · rw [hafter, List.append_assoc]
        exact hpart.not_offends hwritten hbs start _ error

/-- Behind parts no placeholder is open. -/
theorem Offends.behind {parts : List Part} {before start rest : List Char} {error : TemplateError}
    (h : Offends start rest error) (hspells : Spells parts before) : Offends before rest error := by
  cases h with
  | opening h => exact .opening h
  | unknown hfree h => exact .unknown hfree h
  | closing =>
    refine .closing fun start inner hfree he => ?_
    rw [he] at hspells
    have hopen : Offends start ('\x7b' :: inner) .unbalancedBrace := .opening hfree.not_closed
    have hclosed := hspells.not_offends (List.cons_ne_nil _ _) [] [] .unbalancedBrace
    rw [List.append_nil, List.nil_append] at hclosed
    exact hclosed hopen

theorem Offends.unique {before rest : List Char} {first second : TemplateError}
    (h : Offends before rest first) (h' : Offends before rest second) : first = second :=
  Except.error.inj ((segmentsOf_of_offends h).symm.trans (segmentsOf_of_offends h'))

theorem Spells.nil : Spells [] [] := ⟨by simp, rfl⟩

theorem Spells.cons {part : Part} {parts : List Part} {cs : List Char} (hpart : part.Proper)
    (h : Spells parts cs) : Spells (part :: parts) (part.written ++ cs) :=
  ⟨List.forall_mem_cons.mpr ⟨hpart, h.proper⟩, by rw [List.flatMap_cons, h.text]⟩

theorem offends_or_starts {cs : List Char} (hne : cs ≠ []) :
    (∃ error, Offends [] cs error) ∨
      ∃ (part : Part) (after : List Char), part.Proper ∧ part.written ≠ [] ∧
        cs = part.written ++ after := by
  obtain ⟨c, cs, rfl⟩ := List.exists_cons_of_ne_nil hne
  by_cases ho : c = '\x7b'
  · subst ho
    by_cases hclosed : ∃ inner after, BraceFree inner ∧ cs = inner ++ '\x7d' :: after
    · obtain ⟨inner, after, hfree, rfl⟩ := hclosed
      by_cases hnames : ∃ path, Names inner path
      · obtain ⟨path, hnames⟩ := hnames
        refine .inr ⟨.placeholder inner path, after, .placeholder hfree hnames, ?_, ?_⟩
        · simp [Part.written]
        · simp [Part.written]
      · exact .inl ⟨_, .unknown hfree fun path h => hnames ⟨path, h⟩⟩
    · exact .inl ⟨_, .opening fun inner after hfree he => hclosed ⟨inner, after, hfree, he⟩⟩
  · by_cases hc : c = '\x7d'
    · subst hc
      exact .inl ⟨_, .closing (by simp)⟩
    · have hfree : BraceFree [c] := BraceFree.cons_iff.mpr ⟨⟨ho, hc⟩, .nil⟩
      exact .inr ⟨.literal [c], cs, .literal hfree, List.cons_ne_nil c [], rfl⟩

/-- From left to right, parts lead to the end or to an offence. -/
theorem exists_spells (cs : List Char) :
    ∃ parts before rest, Spells parts before ∧ cs = before ++ rest ∧
      (rest = [] ∨ ∃ error, Offends before rest error) := by
  induction hlength : cs.length using Nat.strongRecOn generalizing cs with
  | ind n ih =>
    by_cases hne : cs = []
    · exact ⟨[], [], cs, .nil, rfl, .inl hne⟩
    rcases offends_or_starts hne with h | ⟨part, after, hpart, hwritten, rfl⟩
    · exact ⟨[], [], cs, .nil, rfl, .inr h⟩
    · have hlt : after.length < n := by
        have hpos := List.length_pos_iff.mpr hwritten
        rw [List.length_append] at hlength
        omega
      obtain ⟨parts, before, rest, h, rfl, hend⟩ := ih after.length hlt after rfl
      have hcons := h.cons hpart
      refine ⟨part :: parts, part.written ++ before, rest, hcons, by simp, hend.imp_right ?_⟩
      rintro ⟨error, ho⟩
      exact ⟨error, ho.behind hcons⟩

end AccessReport.Template
