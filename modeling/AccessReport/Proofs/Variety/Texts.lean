import AccessReport.Variety.Pattern
/-!
# Texts of a pattern

`Makes` says which texts a pattern can stand for, one case for each way to put texts together. What
is computed from a pattern alone holds of all its texts, and the bounds on their lengths are
reached.

* `Makes.length_bounds`: how long the texts are.
* `Makes.mem_characters`: what is in them.
* `Proper.exists_least`, `Proper.exists_most`: a pattern without empty choices has texts of both
  lengths.
-/
namespace AccessReport.Pattern

/-- The pattern can stand for the characters. -/
inductive Makes : Pattern → List Char → Prop where
  | exactly (text : String) : Makes (.exactly text) text.toList
  | among {characters : List Char} {c : Char} (h : c ∈ characters) : Makes (.among characters) [c]
  | nil : Makes (.sequence []) []
  | cons {part : Pattern} {parts : List Pattern} {cs rest : List Char} (h : Makes part cs)
    (hrest : Makes (.sequence parts) rest) : Makes (.sequence (part :: parts)) (cs ++ rest)
  | either {alternatives : List Pattern} {part : Pattern} {cs : List Char}
    (hm : part ∈ alternatives) (h : Makes part cs) : Makes (.either alternatives) cs
  | repeated {least most : Nat} {inner : Pattern} {pieces : List (List Char)}
    (hleast : least ≤ pieces.length) (hmost : pieces.length ≤ most)
    (h : ∀ piece ∈ pieces, Makes inner piece) : Makes (.repeated least most inner) pieces.flatten

/-! ## The least and the greatest of some numbers -/

theorem leastOf_eq (numbers : List Nat) : leastOf numbers = numbers.min?.getD 0 := by
  cases numbers <;> rfl

theorem mostOf_eq (numbers : List Nat) : mostOf numbers = numbers.max?.getD 0 := by
  cases numbers with
  | nil => rfl
  | cons first rest =>
    rw [List.max?_cons', Option.getD_some, mostOf, List.foldl_cons, Nat.zero_max]

theorem leastOf_le {numbers : List Nat} {n : Nat} (h : n ∈ numbers) : leastOf numbers ≤ n := by
  rw [leastOf_eq]
  exact List.min?_getD_le_of_mem h

theorem le_mostOf {numbers : List Nat} {n : Nat} (h : n ∈ numbers) : n ≤ mostOf numbers := by
  rw [mostOf_eq]
  exact List.le_max?_getD_of_mem h

theorem leastOf_mem {numbers : List Nat} (h : numbers ≠ []) : leastOf numbers ∈ numbers := by
  cases hmin : numbers.min? with
  | none => exact absurd (List.min?_eq_none_iff.mp hmin) h
  | some least =>
    rw [leastOf_eq, hmin]
    exact List.min?_mem hmin

theorem mostOf_mem {numbers : List Nat} (h : numbers ≠ []) : mostOf numbers ∈ numbers := by
  cases hmax : numbers.max? with
  | none => exact absurd (List.max?_eq_none_iff.mp hmax) h
  | some most =>
    rw [mostOf_eq, hmax]
    exact List.max?_mem hmax

theorem leasts_eq (patterns : List Pattern) : leasts patterns = patterns.map least := by
  induction patterns with
  | nil => rfl
  | cons pattern rest ih => rw [leasts, ih, List.map_cons]

theorem mosts_eq (patterns : List Pattern) : mosts patterns = patterns.map most := by
  induction patterns with
  | nil => rfl
  | cons pattern rest ih => rw [mosts, ih, List.map_cons]

theorem mem_charactersOfAll {patterns : List Pattern} {c : Char} :
    c ∈ charactersOfAll patterns ↔ ∃ pattern ∈ patterns, c ∈ pattern.characters := by
  induction patterns with
  | nil => simp [charactersOfAll]
  | cons pattern rest ih => simp [charactersOfAll, ih]

/-! ## All texts of a pattern -/

variable {pattern : Pattern} {cs : List Char}

/-- Pieces that are at least so long are together as long as that many times the one. -/
theorem length_flatten_bounds {pieces : List (List Char)} {shortest longest : Nat}
    (h : ∀ piece ∈ pieces, shortest ≤ piece.length ∧ piece.length ≤ longest) :
    pieces.length * shortest ≤ pieces.flatten.length
      ∧ pieces.flatten.length ≤ pieces.length * longest := by
  induction pieces with
  | nil => simp
  | cons piece rest ih =>
    obtain ⟨hpiece, hrest⟩ := List.forall_mem_cons.mp h
    obtain ⟨hleast, hmost⟩ := ih hrest
    simp only [List.flatten_cons, List.length_append, List.length_cons, Nat.succ_mul]
    omega

/-- No text is shorter or longer than the pattern says. -/
theorem Makes.length_bounds (h : pattern.Makes cs) :
    pattern.least ≤ cs.length ∧ cs.length ≤ pattern.most := by
  induction h with
  | exactly text => simp [least, most, String.length_toList]
  | among => simp [least, most]
  | nil => simp [least, most, leasts, mosts, total]
  | cons _ _ ih ihrest =>
    simp only [least, most, leasts, mosts, total, List.length_append] at ihrest ⊢
    omega
  | either hm _ ih =>
    simp only [least, most, leasts_eq, mosts_eq]
    exact ⟨Nat.le_trans (leastOf_le (List.mem_map_of_mem hm)) ih.1,
      Nat.le_trans ih.2 (le_mostOf (List.mem_map_of_mem hm))⟩
  | repeated hleast hmost _ ih =>
    obtain ⟨hshort, hlong⟩ := length_flatten_bounds ih
    simp only [least, most]
    exact ⟨Nat.le_trans (Nat.mul_le_mul_right _ hleast) hshort,
      Nat.le_trans hlong (Nat.mul_le_mul_right _ hmost)⟩

/-- No text has a character that is not one of the pattern. -/
theorem Makes.mem_characters (h : pattern.Makes cs) : ∀ c ∈ cs, c ∈ pattern.characters := by
  induction h with
  | exactly text => exact fun c hc => hc
  | among h => simpa [characters] using h
  | nil => simp
  | cons _ _ ih ihrest =>
    intro c hc
    simp only [characters, charactersOfAll, List.mem_append] at ihrest ⊢
    rcases List.mem_append.mp hc with hfirst | hrest
    · exact .inl (ih c hfirst)
    · exact .inr (ihrest c hrest)
  | either hm _ ih => exact fun c hc => mem_charactersOfAll.mpr ⟨_, hm, ih c hc⟩
  | @repeated least most inner pieces _ hmost _ ih =>
    intro c hc
    obtain ⟨piece, hpiece, hmem⟩ := List.mem_flatten.mp hc
    have hpos : most ≠ 0 := by
      rintro rfl
      simp_all
    rw [characters, if_neg hpos]
    exact ih piece hpiece c hmem

/-! ## Texts that reach the bounds -/

/-- There is something to choose from wherever there is a choice. -/
inductive Proper : Pattern → Prop where
  | exactly (text : String) : Proper (.exactly text)
  | among {characters : List Char} (h : characters ≠ []) : Proper (.among characters)
  | sequence {parts : List Pattern} (h : ∀ part ∈ parts, Proper part) : Proper (.sequence parts)
  | either {alternatives : List Pattern} (hne : alternatives ≠ [])
    (h : ∀ part ∈ alternatives, Proper part) : Proper (.either alternatives)
  | repeated {least most : Nat} {inner : Pattern} (hle : least ≤ most) (h : Proper inner) :
    Proper (.repeated least most inner)

/-- The same text over and over. -/
theorem Makes.replicate {inner : Pattern} {least most count : Nat} (h : inner.Makes cs)
    (hleast : least ≤ count) (hmost : count ≤ most) :
    (Pattern.repeated least most inner).Makes (List.replicate count cs).flatten := by
  refine .repeated (by simpa using hleast) (by simpa using hmost) fun piece hpiece => ?_
  rw [List.eq_of_mem_replicate hpiece]
  exact h

theorem exists_sequence {lengthOf : Pattern → Nat} {parts : List Pattern}
    (h : ∀ part ∈ parts, ∃ cs, part.Makes cs ∧ cs.length = lengthOf part) :
    ∃ cs, (sequence parts).Makes cs ∧ cs.length = total (parts.map lengthOf) := by
  induction parts with
  | nil => exact ⟨[], .nil, rfl⟩
  | cons part parts ih =>
    obtain ⟨hpart, hparts⟩ := List.forall_mem_cons.mp h
    obtain ⟨cs, hcs, hlength⟩ := hpart
    obtain ⟨rest, hrest, hlengths⟩ := ih hparts
    exact ⟨cs ++ rest, .cons hcs hrest, by rw [List.length_append, hlength, hlengths]; rfl⟩

section
variable {lengthOf : Pattern → Nat} {pick : List Nat → Nat} {count : Nat → Nat → Nat}
  (hexactly : ∀ text, lengthOf (.exactly text) = text.length)
  (hamong : ∀ characters, lengthOf (.among characters) = 1)
  (hsequence : ∀ parts, lengthOf (.sequence parts) = total (parts.map lengthOf))
  (heither : ∀ alternatives, lengthOf (.either alternatives) = pick (alternatives.map lengthOf))
  (hpick : ∀ numbers : List Nat, numbers ≠ [] → pick numbers ∈ numbers)
  (hrepeated : ∀ least most inner,
    lengthOf (.repeated least most inner) = count least most * lengthOf inner)
  (hcount : ∀ least most, least ≤ most → least ≤ count least most ∧ count least most ≤ most)
include hexactly hamong hsequence heither hpick hrepeated hcount

/-- A length that is one of those that the parts can have is that of a text. -/
theorem Proper.exists_length (h : pattern.Proper) :
    ∃ cs, pattern.Makes cs ∧ cs.length = lengthOf pattern := by
  induction h with
  | exactly text => exact ⟨_, .exactly text, by rw [hexactly, String.length_toList]⟩
  | @among characters hne =>
    obtain ⟨c, hc⟩ := List.exists_mem_of_ne_nil characters hne
    exact ⟨[c], .among hc, by rw [hamong, List.length_singleton]⟩
  | sequence _ ih =>
    rw [hsequence]
    exact exists_sequence ih
  | @either alternatives hne _ ih =>
    have hmem := hpick (alternatives.map lengthOf) (by simpa using hne)
    obtain ⟨part, hpart, heq⟩ := List.mem_map.mp hmem
    obtain ⟨cs, hcs, hlength⟩ := ih part hpart
    exact ⟨cs, .either hpart hcs, by rw [hlength, heq, heither]⟩
  | @repeated least most inner hle _ ih =>
    obtain ⟨cs, hcs, hlength⟩ := ih
    obtain ⟨hleast, hmost⟩ := hcount least most hle
    exact ⟨_, hcs.replicate hleast hmost, by simp [hlength, hrepeated]⟩

end

/-- There is a text that is as short as the pattern says. -/
theorem Proper.exists_least (h : pattern.Proper) :
    ∃ cs, pattern.Makes cs ∧ cs.length = pattern.least := by
  refine h.exists_length (fun _ => rfl) (fun _ => rfl) (fun parts => ?_)
    (fun alternatives => ?_) (fun _ => leastOf_mem) (fun _ _ _ => rfl) (fun least most hle => ?_)
  · rw [least, leasts_eq]
  · rw [least, leasts_eq]
  · exact ⟨Nat.le_refl least, hle⟩

/-- There is a text that is as long as the pattern says. -/
theorem Proper.exists_most (h : pattern.Proper) :
    ∃ cs, pattern.Makes cs ∧ cs.length = pattern.most := by
  refine h.exists_length (fun _ => rfl) (fun _ => rfl) (fun parts => ?_)
    (fun alternatives => ?_) (fun _ => mostOf_mem) (fun _ _ _ => rfl) (fun least most hle => ?_)
  · rw [most, mosts_eq]
  · rw [most, mosts_eq]
  · exact ⟨hle, Nat.le_refl most⟩

end AccessReport.Pattern
