import AccessReport.Text.Parts
import AccessReport.Text.Revealed
/-!
# What is revealed

Each character is shown by itself, by a backslash with one character that names it, or by its number
in braces. So it can be told where what shows one character ends, and a text is shown by nothing
that also shows another one.

* `shown_revealedChar`: the three ways to show a character.
* `Shown.inj`: what shows a character ends where no other character can be shown instead.
* `revealed_append_inj`: a revealed text tells what it was and where it ends.
* `not_isHidden_of_mem_revealed`: all of it shows.
-/
namespace AccessReport.Text

/-! ## Numbers -/

theorem toDigits_eq (n : Nat) : Nat.toDigits 16 n =
    if n < 16 then [n.digitChar] else Nat.toDigits 16 (n / 16) ++ [(n % 16).digitChar] :=
  Nat.toDigits_eq_if (by decide)

theorem digitChar_inj {m n : Nat} (hm : m < 16) (hn : n < 16) (h : m.digitChar = n.digitChar) :
    m = n := by
  have hall : ∀ m < 16, ∀ n < 16, Nat.digitChar m = Nat.digitChar n → m = n := by decide
  exact hall m hm n hn h

theorem toDigits_inj {m n : Nat} (h : Nat.toDigits 16 m = Nat.toDigits 16 n) : m = n := by
  induction m using Nat.strongRecOn generalizing n with
  | ind m ih =>
    have hpos (k : Nat) : 0 < (Nat.toDigits 16 k).length := Nat.length_toDigits_pos
    have hlength := congrArg List.length h
    rw [toDigits_eq m, toDigits_eq n] at h hlength
    by_cases hm : m < 16 <;> by_cases hn : n < 16
    · rw [if_pos hm, if_pos hn] at h
      exact digitChar_inj hm hn (List.singleton_inj.mp h)
    · simp [if_pos hm, if_neg hn] at hlength
    · simp [if_neg hm, if_pos hn] at hlength
    · rw [if_neg hm, if_neg hn] at h
      obtain ⟨hfront, hlast⟩ := List.append_inj' h rfl
      have hquotient := ih (m / 16) (by omega) hfront
      have hremainder := digitChar_inj (by omega) (by omega) (List.singleton_inj.mp hlast)
      omega

theorem mem_toDigits {n : Nat} {c : Char} (h : c ∈ Nat.toDigits 16 n) :
    c ∈ "0123456789abcdef".toList := by
  have hdigit : ∀ m < 16, Nat.digitChar m ∈ "0123456789abcdef".toList := by decide
  induction n using Nat.strongRecOn with
  | ind n ih =>
    rw [toDigits_eq] at h
    split at h
    · rw [List.mem_singleton.mp h]
      exact hdigit n ‹_›
    · rcases List.mem_append.mp h with hmem | hmem
      · exact ih (n / 16) (by omega) hmem
      · rw [List.mem_singleton.mp hmem]
        exact hdigit (n % 16) (by omega)

/-- The digits of a number end at the brace behind them. -/
theorem digits_append_inj {m n : Nat} {rest more : List Char}
    (h : Nat.toDigits 16 m ++ '\x7d' :: rest = Nat.toDigits 16 n ++ '\x7d' :: more) :
    m = n ∧ rest = more := by
  have hbrace (k : Nat) : '\x7d' ∉ Nat.toDigits 16 k := fun hmem =>
    absurd (mem_toDigits hmem) (by decide)
  have hsplit := congrArg (splitAt '\x7d') h
  rw [splitAt_append (hbrace m), splitAt_append (hbrace n)] at hsplit
  obtain ⟨hdigits, -⟩ := List.cons.inj hsplit
  rw [hdigits] at h
  exact ⟨toDigits_inj hdigits, (List.cons.inj (List.append_cancel_left h)).2⟩

/-! ## One character -/

/-- The characters that have a name behind a backslash. -/
def names : List (Char × Char) :=
  [('\x00', '0'), ('\t', 't'), ('\r', 'r'), ('\n', 'n'), ('\\', '\\'), ('"', '"')]

/-- How a character is shown. -/
inductive Shown (c : Char) : List Char → Prop where
  | itself (hc : c ∉ names.map (·.1)) (h : isHidden c = false) : Shown c [c]
  | name {k : Char} (h : (c, k) ∈ names) : Shown c ['\\', k]
  | number : Shown c ('\\' :: 'u' :: '\x7b' :: (Nat.toDigits 16 c.toNat ++ ['\x7d']))

theorem shown_revealedChar (c : Char) : Shown c (revealedChar c) := by
  unfold revealedChar
  split
  case h_7 =>
    split
    · exact .number
    · exact .itself (by simp_all [names]) (by simp_all)
  all_goals exact .name (by decide)

variable {c d : Char} {cs ds rest more : List Char}

theorem names_inj : ∀ entry ∈ names, ∀ other ∈ names, entry.2 = other.2 → entry.1 = other.1 := by
  decide

theorem backslash_named : '\\' ∈ names.map (·.1) := by decide

/-- What shows a character ends where no other character can be shown instead. -/
theorem Shown.inj (h : Shown c cs) (h' : Shown d ds) (heq : cs ++ rest = ds ++ more) :
    c = d ∧ rest = more := by
  have hu : ∀ entry ∈ names, entry.2 ≠ 'u' := by decide
  cases h with
  | itself hc =>
    cases h' with
    | itself => simpa using heq
    | name | number =>
      obtain ⟨rfl, -⟩ := List.cons.inj heq
      exact absurd backslash_named hc
  | name hname =>
    cases h' with
    | itself hd =>
      obtain ⟨rfl, -⟩ := List.cons.inj heq
      exact absurd backslash_named hd
    | name hname' =>
      obtain ⟨hk, hrest⟩ := List.cons.inj (List.cons.inj heq).2
      exact ⟨names_inj _ hname _ hname' hk, hrest⟩
    | number =>
      obtain ⟨hk, -⟩ := List.cons.inj (List.cons.inj heq).2
      exact absurd hk (hu _ hname)
  | number =>
    cases h' with
    | itself hd =>
      obtain ⟨rfl, -⟩ := List.cons.inj heq
      exact absurd backslash_named hd
    | name hname' =>
      obtain ⟨hk, -⟩ := List.cons.inj (List.cons.inj heq).2
      exact absurd hk.symm (hu _ hname')
    | number =>
      have hdigits : Nat.toDigits 16 c.toNat ++ '\x7d' :: rest
          = Nat.toDigits 16 d.toNat ++ '\x7d' :: more := by simpa using heq
      obtain ⟨hnumber, hrest⟩ := digits_append_inj hdigits
      exact ⟨Char.toNat_inj.mp hnumber, hrest⟩

theorem revealedInside_cons (c : Char) (cs : List Char) :
    revealedInside (c :: cs) = revealedChar c ++ revealedInside cs := List.flatMap_cons

/-- A quote comes first only where nothing is left to show. -/
theorem Shown.ne_quote (h : Shown c cs) : cs ++ rest ≠ '"' :: more := by
  intro heq
  cases h with
  | itself hc =>
    obtain ⟨rfl, -⟩ := List.cons.inj heq
    exact absurd (by decide) hc
  | name | number => simp at heq

theorem revealedInside_append_inj {as bs : List Char}
    (h : revealedInside as ++ '"' :: rest = revealedInside bs ++ '"' :: more) :
    as = bs ∧ rest = more := by
  induction as generalizing bs with
  | nil =>
    cases bs with
    | nil => exact ⟨rfl, (List.cons.inj h).2⟩
    | cons d bs =>
      rw [revealedInside_cons, List.append_assoc] at h
      exact absurd h.symm (shown_revealedChar d).ne_quote
  | cons c as ih =>
    cases bs with
    | nil =>
      rw [revealedInside_cons, List.append_assoc] at h
      exact absurd h (shown_revealedChar c).ne_quote
    | cons d bs =>
      rw [revealedInside_cons, revealedInside_cons, List.append_assoc, List.append_assoc] at h
      obtain ⟨rfl, hinside⟩ := (shown_revealedChar c).inj (shown_revealedChar d) h
      obtain ⟨rfl, hrest⟩ := ih hinside
      exact ⟨rfl, hrest⟩

/-- **Revealed texts.** A revealed text tells what it was and where it ends. -/
theorem revealed_append_inj {a b rest more : String}
    (h : revealed a ++ rest = revealed b ++ more) : a = b ∧ rest = more := by
  have hcs : '"' :: (revealedInside a.toList ++ '"' :: rest.toList)
      = '"' :: (revealedInside b.toList ++ '"' :: more.toList) := by
    simpa [revealed] using congrArg String.toList h
  obtain ⟨htext, hrest⟩ := revealedInside_append_inj (List.cons.inj hcs).2
  exact ⟨String.toList_inj.mp htext, String.toList_inj.mp hrest⟩

/-! ## Nothing hidden -/

theorem Shown.not_isHidden (h : Shown c cs) : ∀ k ∈ cs, isHidden k = false := by
  have hnames : names.all (!isHidden ·.2) = true := by decide +kernel
  have hdigits : "0123456789abcdef".toList.all (!isHidden ·) = true := by decide +kernel
  have hmarks : ['\\', 'u', '\x7b', '\x7d'].all (!isHidden ·) = true := by decide +kernel
  simp only [List.all_eq_true, Bool.not_eq_true'] at hnames hdigits hmarks
  cases h with
  | itself _ hc => simpa using hc
  | name hname =>
    simp only [List.forall_mem_cons]
    exact ⟨hmarks _ (by simp), hnames _ hname, by simp⟩
  | number =>
    simp only [List.forall_mem_cons, List.forall_mem_append]
    refine ⟨hmarks _ (by simp), hmarks _ (by simp), hmarks _ (by simp), ?_, ?_⟩
    · exact fun k hk => hdigits k (mem_toDigits hk)
    · exact ⟨hmarks _ (by simp), by simp⟩

theorem not_isHidden_of_mem_revealed (text : String) :
    ∀ k ∈ (revealed text).toList, isHidden k = false := by
  have hquote : isHidden '"' = false := by decide +kernel
  intro k hk
  simp only [revealed, String.toList_ofList, List.mem_cons, List.mem_append, revealedInside,
    List.mem_flatMap, List.not_mem_nil, or_false] at hk
  rcases hk with (rfl | ⟨c, -, hmem⟩) | rfl
  · exact hquote
  · exact (shown_revealedChar c).not_isHidden k hmem
  · exact hquote

end AccessReport.Text
