import AccessReport.Toml.Printer
/-!
# Written texts of TOML

A text is written in one of four styles, and each is read back. On one line a text ends with its
first quote, and those inside are escaped or of the other kind. Over several lines it ends with
three quotes in a row, where up to two more in front of these still belong to it. So a quote inside
is read as one if those behind it are too few to end the text, or are the last ones with at most one
more: `StartsWith` counts them.

* `basicString?_flatMap`, `literalString?_literal`: texts on one line.
* `EndsWithThree.quote`: a quote among the characters of several lines.
* `multilineString?_escapedLines`, `multilineLiteral?_literal`: texts over several lines.
* `string?_textChars`: a text in the form that is chosen for it.
-/
namespace AccessReport.Toml

open Numeric Text

/-! ## Characters between quotes -/

theorem hexChar?_escape {n : Nat} (h : n < 0x80) :
    hexChar? ['0', '0', hexDigit (n / 16), hexDigit (n % 16)] = some (Char.ofNat n) := by
  have hall : ∀ n < 0x80,
      hexChar? ['0', '0', hexDigit (n / 16), hexDigit (n % 16)] = some (Char.ofNat n) := by
    decide +kernel
  exact hall n h

/-- Only control characters are not plain. -/
theorem lt_of_not_isPlain {c : Char} (h : isPlain c = false) : c.toNat < 0x80 := by
  rw [isPlain, Bool.or_eq_false_iff, Bool.and_eq_false_iff, decide_eq_false_iff_not,
    bne_eq_false_iff_eq] at h
  omega

theorem hexChar?_toNat {c : Char} (h : isPlain c = false) :
    hexChar? ['0', '0', hexDigit (c.toNat / 16), hexDigit (c.toNat % 16)] = some c := by
  rw [hexChar?_escape (lt_of_not_isPlain h), Char.ofNat_toNat]

theorem basicString?_plain {c : Char} (hplain : isPlain c = true) (hquote : c ≠ '"')
    (hslash : c ≠ '\\') (more : List Char) :
    basicString? (c :: more) = withChar c (basicString? more) := by
  rw [basicString?]
  all_goals simp [hplain, hquote, hslash]

theorem basicString?_shortEscape {letter c : Char} (h : shortEscape? letter = some c)
    (more : List Char) :
    basicString? ('\\' :: letter :: more) = withChar c (basicString? more) := by
  unfold shortEscape? at h
  split at h <;> first | (cases h; rfl) | cases h

theorem basicString?_hex (a b c d : Char) (more : List Char) :
    basicString? ('\\' :: 'u' :: a :: b :: c :: d :: more)
      = (hexChar? [a, b, c, d]).bind fun read => withChar read (basicString? more) :=
  rfl

theorem basicString?_escaped (c : Char) (more : List Char) :
    basicString? (escaped c ++ more) = withChar c (basicString? more) := by
  unfold escaped
  split
  · exact basicString?_shortEscape rfl more
  · exact basicString?_shortEscape rfl more
  · exact basicString?_shortEscape rfl more
  · exact basicString?_shortEscape rfl more
  · exact basicString?_shortEscape rfl more
  · exact basicString?_shortEscape rfl more
  · exact basicString?_shortEscape rfl more
  · rename_i hquote hslash _ _ _ _ _
    split
    · exact basicString?_plain ‹_› hquote hslash more
    · rename_i hplain
      refine (basicString?_hex _ _ _ _ more).trans ?_
      rw [hexChar?_toNat (Bool.eq_false_iff.mpr hplain), Option.bind_some]

/-- Characters between quotes are read one by one: those that are kept, where an escape stands for
each of these and for no other. -/
theorem basicString?_flatMap {escape : Char → List Char} {kept : Char → Bool}
    (h : ∀ c more, basicString? (escape c ++ more)
      = if kept c then withChar c (basicString? more) else basicString? more)
    (cs rest : List Char) :
    basicString? (cs.flatMap escape ++ '"' :: rest) = some (cs.filter kept, rest) := by
  induction cs with
  | nil => rfl
  | cons c cs ih =>
    rw [List.flatMap_cons, List.append_assoc, h, ih]
    cases hc : kept c
    · rw [List.filter_cons_of_neg (by simp [hc])]
      rfl
    · rw [List.filter_cons_of_pos hc]
      rfl

theorem basicString?_basic (cs rest : List Char) :
    basicString? (cs.flatMap escaped ++ '"' :: rest) = some (cs, rest) := by
  have hread : basicString? (cs.flatMap escaped ++ '"' :: rest)
      = some (cs.filter fun _ => true, rest) :=
    basicString?_flatMap (fun c more => basicString?_escaped c more) cs rest
  rwa [List.filter_eq_self.mpr fun _ _ => rfl] at hread

/-! ## Literal characters -/

theorem literalString?_literal {cs : List Char} (h : fitsLiteral cs = true) (rest : List Char) :
    literalString? (cs ++ '\'' :: rest) = some (cs, rest) := by
  induction cs with
  | nil => rfl
  | cons c cs ih =>
    rw [fitsLiteral, List.all_cons, Bool.and_eq_true, Bool.and_eq_true] at h
    obtain ⟨⟨hplain, hquote⟩, hcs⟩ := h
    rw [List.cons_append, literalString?, if_pos hplain, ih hcs]
    · rfl
    · simpa using hquote

/-! ## Quotes in a row -/

/-- The characters start with exactly that many quotes. -/
def StartsWith (quote : Char) (n : Nat) (cs : List Char) : Prop :=
  ∃ tail, cs = List.replicate n quote ++ tail ∧ tail.head? ≠ some quote

theorem StartsWith.zero {quote c : Char} (h : c ≠ quote) (cs : List Char) :
    StartsWith quote 0 (c :: cs) :=
  ⟨c :: cs, rfl, by simpa using h⟩

theorem StartsWith.cons {quote : Char} {n : Nat} {cs : List Char} (h : StartsWith quote n cs) :
    StartsWith quote (n + 1) (quote :: cs) := by
  obtain ⟨tail, rfl, htail⟩ := h
  exact ⟨tail, rfl, htail⟩

theorem StartsWith.not_prefix {quote : Char} {n : Nat} {cs : List Char}
    (h : StartsWith quote n cs) (hn : n ≤ 1) : ¬ [quote, quote] <+: cs := by
  obtain ⟨tail, rfl, htail⟩ := h
  rintro ⟨more, hmore⟩
  refine htail ?_
  obtain rfl | rfl : n = 0 ∨ n = 1 := by omega
  · exact congrArg List.head? hmore.symm
  · exact congrArg List.head? (List.cons.inj hmore.symm).2

/-- How a text over several lines ends: with three quotes, where one or two more in front still
belong to it. A quote without two more behind it is one of the text. -/
structure EndsWithThree (quote : Char)
    (read : List Char → Option (List Char × List Char)) : Prop where
  itself : ∀ more, ¬ [quote, quote] <+: more → read (quote :: more) = withChar quote (read more)
  close : ∀ n ≤ 2, ∀ tail, tail.head? ≠ some quote →
    read (List.replicate (n + 3) quote ++ tail) = some (List.replicate n quote, tail)

/-- A quote is read as one as long as those behind it do not end the text. -/
theorem EndsWithThree.quote {quote : Char} {read : List Char → Option (List Char × List Char)}
    (hread : EndsWithThree quote read) {n : Nat} {more : List Char} (h : StartsWith quote n more)
    (hn : n ≤ 1 ∨ n = 3 ∨ n = 4) : read (quote :: more) = withChar quote (read more) := by
  obtain hfew | ⟨k, hk, rfl⟩ : n ≤ 1 ∨ ∃ k, k ≤ 1 ∧ n = k + 3 := by
    obtain hn | rfl | rfl := hn
    · exact .inl hn
    · exact .inr ⟨0, by omega, rfl⟩
    · exact .inr ⟨1, by omega, rfl⟩
  · exact hread.itself more (h.not_prefix hfew)
  · obtain ⟨tail, rfl, htail⟩ := h
    rw [← List.cons_append, ← List.replicate_succ, hread.close (k + 1) (by omega) tail htail,
      hread.close k (by omega) tail htail]
    rfl

/-! ## Texts over several lines -/

/-- A character that starts nothing else is read as it is, and so is a quote unless two more are
behind it. -/
theorem multilineString?_itself {c : Char} (hplain : isPlain c = true) (hslash : c ≠ '\\')
    {more : List Char} (hquotes : c = '"' → ¬ ['"', '"'] <+: more) :
    multilineString? .off (c :: more) = withChar c (multilineString? .off more) := by
  have hnewline : c ≠ '\n' := by
    rintro rfl
    cases hplain
  have hreturn : c ≠ '\r' := by
    rintro rfl
    cases hplain
  rw [multilineString?.eq_def]
  split
  · contradiction
  · exact absurd (List.cons.inj ‹_›).1 hnewline
  · exact absurd (List.cons.inj ‹_›).1 hreturn
  · rename_i heq
    obtain ⟨rfl, rfl⟩ := List.cons.inj heq
    rw [if_neg (fun h => h.1 rfl), if_neg Trimming.noConfusion]
    split
    · exact absurd ⟨_, rfl⟩ (hquotes rfl)
    · exact absurd ⟨_, rfl⟩ (hquotes rfl)
    · exact absurd ⟨_, rfl⟩ (hquotes rfl)
    · contradiction
    · contradiction
    · contradiction
    · contradiction
    · simp [hplain, hslash]

theorem multilineString?_endsWithThree : EndsWithThree '"' (multilineString? .off) where
  itself more h := multilineString?_itself rfl (by decide) fun _ => h
  close n hn tail h := by
    have hnext : ∀ c more, tail = c :: more → c ≠ '"' := by
      rintro c more rfl
      simpa using h
    rw [List.replicate_succ, List.cons_append, multilineString?.eq_def]
    obtain rfl | rfl | rfl : n = 0 ∨ n = 1 ∨ n = 2 := by omega
    · cases tail with
      | nil => rfl
      | cons c tail => simp [hnext c tail rfl, List.replicate]
    · cases tail with
      | nil => rfl
      | cons c tail => simp [hnext c tail rfl, List.replicate]
    · rfl

theorem multilineString?_newline (more : List Char) :
    multilineString? .off ('\n' :: more) = withChar '\n' (multilineString? .off more) :=
  rfl

theorem multilineString?_plain {c : Char} (hplain : isPlain c = true) (hquote : c ≠ '"')
    (hslash : c ≠ '\\') (more : List Char) :
    multilineString? .off (c :: more) = withChar c (multilineString? .off more) :=
  multilineString?_itself hplain hslash fun hc => absurd hc hquote

theorem multilineString?_shortEscape {letter c : Char} (h : shortEscape? letter = some c)
    (more : List Char) :
    multilineString? .off ('\\' :: letter :: more) = withChar c (multilineString? .off more) := by
  unfold shortEscape? at h
  split at h <;> first | (cases h; rfl) | cases h

theorem multilineString?_hex (a b c d : Char) (more : List Char) :
    multilineString? .off ('\\' :: 'u' :: a :: b :: c :: d :: more)
      = (hexChar? [a, b, c, d]).bind fun read => withChar read (multilineString? .off more) :=
  rfl

theorem multilineString?_escaped (c : Char) (more : List Char) :
    multilineString? .off (escaped c ++ more) = withChar c (multilineString? .off more) := by
  unfold escaped
  split
  · exact multilineString?_shortEscape rfl more
  · exact multilineString?_shortEscape rfl more
  · exact multilineString?_shortEscape rfl more
  · exact multilineString?_shortEscape rfl more
  · exact multilineString?_shortEscape rfl more
  · exact multilineString?_shortEscape rfl more
  · exact multilineString?_shortEscape rfl more
  · rename_i hquote hslash _ _ _ _ _
    split
    · exact multilineString?_plain ‹_› hquote hslash more
    · rename_i hplain
      refine (multilineString?_hex _ _ _ _ more).trans ?_
      rw [hexChar?_toNat (Bool.eq_false_iff.mpr hplain), Option.bind_some]

/-! ## Quotes among the characters of several lines -/

/-- What is written for a character starts with neither a quote nor an end of a line. -/
theorem head_escaped (c : Char) (more : List Char) :
    ∃ first tail, escaped c ++ more = first :: tail ∧
      first ≠ '"' ∧ first ≠ '\n' ∧ first ≠ '\r' := by
  unfold escaped
  split
  · exact ⟨_, _, rfl, by decide, by decide, by decide⟩
  · exact ⟨_, _, rfl, by decide, by decide, by decide⟩
  · exact ⟨_, _, rfl, by decide, by decide, by decide⟩
  · exact ⟨_, _, rfl, by decide, by decide, by decide⟩
  · exact ⟨_, _, rfl, by decide, by decide, by decide⟩
  · exact ⟨_, _, rfl, by decide, by decide, by decide⟩
  · exact ⟨_, _, rfl, by decide, by decide, by decide⟩
  · rename_i hquote _ hnewline hreturn _ _ _
    split
    · exact ⟨_, _, rfl, hquote, hnewline, hreturn⟩
    · exact ⟨_, _, rfl, by decide, by decide, by decide⟩

/-- Never more than two quotes stand in a row, apart from those at the end. -/
theorem startsWith_escapedLines {rest : List Char} (hrest : rest.head? ≠ some '"')
    (cs : List Char) :
    ∀ quotes ≤ 2, ∃ n, StartsWith '"' n (escapedLines quotes cs ++ '"' :: '"' :: '"' :: rest) ∧
      (n + quotes ≤ 2 ∨ (3 ≤ n ∧ n + quotes ≤ 5)) := by
  induction cs with
  | nil =>
    intro quotes hq
    exact ⟨3, ⟨rest, rfl, hrest⟩, by omega⟩
  | cons c cs ih =>
    intro quotes hq
    rw [escapedLines]
    split
    · split
      · obtain ⟨n, hn, hbound⟩ := ih (quotes + 1) (by omega)
        exact ⟨n + 1, hn.cons, by omega⟩
      · exact ⟨0, .zero (by decide) _, by omega⟩
    · split
      · exact ⟨0, .zero (by decide) _, by omega⟩
      · obtain ⟨first, tail, htext, hfirst, -⟩ :=
          head_escaped c (escapedLines 0 cs ++ '"' :: '"' :: '"' :: rest)
        rw [List.append_assoc, htext]
        exact ⟨0, .zero hfirst tail, by omega⟩

theorem multilineString?_escapedLines {rest : List Char} (hrest : rest.head? ≠ some '"')
    (cs : List Char) : ∀ quotes ≤ 2,
      multilineString? .off (escapedLines quotes cs ++ '"' :: '"' :: '"' :: rest)
        = some (cs, rest) := by
  -- `quotes` stand right before; at a third one the writer escapes, so the reader never sees three
  induction cs with
  | nil => exact fun _ _ => multilineString?_endsWithThree.close 0 (by omega) rest hrest
  | cons c cs ih =>
    intro quotes hq
    rw [escapedLines]
    split
    · rename_i hc
      split
      · obtain ⟨n, hn, hbound⟩ := startsWith_escapedLines hrest cs (quotes + 1) (by omega)
        rw [List.cons_append, multilineString?_endsWithThree.quote hn (by omega),
          ih (quotes + 1) (by omega), hc]
        rfl
      · rw [List.cons_append, List.cons_append, multilineString?_shortEscape rfl,
          ih 0 (by omega), hc]
        rfl
    · split
      · rename_i hc
        rw [List.cons_append, multilineString?_newline, ih 0 (by omega), hc]
        rfl
      · rw [List.append_assoc, multilineString?_escaped, ih 0 (by omega)]
        rfl

theorem afterNewline?_cons {c : Char} (hnewline : c ≠ '\n') (hreturn : c ≠ '\r')
    (cs : List Char) : afterNewline? (c :: cs) = none := by
  unfold afterNewline?
  split
  · rename_i h
    exact absurd (List.cons.inj h).1 hnewline
  · rename_i h
    exact absurd (List.cons.inj h).1 hreturn
  · rfl

theorem dropNewline_cons {c : Char} (hnewline : c ≠ '\n') (hreturn : c ≠ '\r')
    (cs : List Char) : dropNewline (c :: cs) = c :: cs := by
  rw [dropNewline, afterNewline?_cons hnewline hreturn, Option.getD_none]

/-- The line that is opened for a text with several lines is not part of it. -/
theorem dropNewline_opening {cs body : List Char}
    (h : '\n' ∉ cs → ∃ first tail, body = first :: tail ∧ first ≠ '\n' ∧ first ≠ '\r') :
    dropNewline (opening cs ++ body) = body := by
  unfold opening
  split
  · rfl
  · rename_i hcs
    obtain ⟨first, tail, rfl, hnewline, hreturn⟩ := h (by simpa using hcs)
    exact dropNewline_cons hnewline hreturn tail

theorem string?_multiline (cs : List Char) {rest : List Char} (hrest : rest.head? ≠ some '"') :
    string? (multiline cs ++ rest) = some (cs, rest) := by
  have hbody : '\n' ∉ cs → ∃ first tail, escapedLines 0 cs ++ '"' :: '"' :: '"' :: rest
      = first :: tail ∧ first ≠ '\n' ∧ first ≠ '\r' := by
    intro hcs
    cases cs with
    | nil => exact ⟨_, _, rfl, by decide, by decide⟩
    | cons c cs =>
      rw [List.mem_cons, not_or] at hcs
      rw [escapedLines]
      split
      · exact ⟨_, _, rfl, by decide, by decide⟩
      · obtain ⟨first, tail, htext, -, hnewline, hreturn⟩ :=
          head_escaped c (escapedLines 0 cs ++ '"' :: '"' :: '"' :: rest)
        rw [if_neg (Ne.symm hcs.1), List.append_assoc, htext]
        exact ⟨first, tail, rfl, hnewline, hreturn⟩
  have htext : multiline cs ++ rest = '"' :: '"' :: '"' ::
      (opening cs ++ (escapedLines 0 cs ++ '"' :: '"' :: '"' :: rest)) := by
    simp [multiline]
  rw [htext, string?, dropNewline_opening hbody,
    multilineString?_escapedLines hrest cs 0 (by omega)]

/-! ## Literal characters over several lines -/

/-- A character is read as it is, and so is a quote unless two more are behind it. -/
theorem multilineLiteral?_itself {c : Char} (hplain : isPlain c = true) {more : List Char}
    (hquotes : c = '\'' → ¬ ['\'', '\''] <+: more) :
    multilineLiteral? (c :: more) = withChar c (multilineLiteral? more) := by
  rw [multilineLiteral?.eq_7, if_pos hplain]
  · rintro more rfl rfl
    exact hquotes rfl ⟨_, rfl⟩
  · rintro more rfl rfl
    exact hquotes rfl ⟨_, rfl⟩
  · rintro more rfl rfl
    exact hquotes rfl ⟨_, rfl⟩
  · rintro rfl
    cases hplain
  · rintro _ rfl
    cases hplain

theorem multilineLiteral?_newline (more : List Char) :
    multilineLiteral? ('\n' :: more) = withChar '\n' (multilineLiteral? more) :=
  rfl

theorem multilineLiteral?_endsWithThree : EndsWithThree '\'' multilineLiteral? where
  itself more h := multilineLiteral?_itself rfl fun _ => h
  close n hn tail h := by
    have hnext : ∀ c more, tail = c :: more → c ≠ '\'' := by
      rintro c more rfl
      simpa using h
    obtain rfl | rfl | rfl : n = 0 ∨ n = 1 ∨ n = 2 := by omega
    · cases tail with
      | nil => rfl
      | cons c tail => simp [multilineLiteral?, hnext c tail rfl, List.replicate]
    · cases tail with
      | nil => rfl
      | cons c tail => simp [multilineLiteral?, hnext c tail rfl, List.replicate]
    · rfl

/-- Behind a quote there is at most one more in a row, apart from those at the end. -/
theorem startsWith_literal {rest cs : List Char} (hrest : rest.head? ≠ some '\'')
    (h : endsIn '\'' ('\'' :: cs) = false) :
    ∃ n, StartsWith '\'' n (cs ++ '\'' :: '\'' :: '\'' :: rest) ∧ (n ≤ 1 ∨ n = 3 ∨ n = 4) := by
  have hclose : StartsWith '\'' 3 ('\'' :: '\'' :: '\'' :: rest) := ⟨rest, rfl, hrest⟩
  match cs with
  | [] => exact ⟨3, hclose, by omega⟩
  | c :: cs =>
    by_cases hc : c = '\''
    · subst hc
      cases cs with
      | nil => exact ⟨4, hclose.cons, by omega⟩
      | cons d cs =>
        have hd : d ≠ '\'' := by
          rintro rfl
          simp [endsIn, occursIn] at h
        exact ⟨1, (StartsWith.zero hd _).cons, by omega⟩
    · exact ⟨0, .zero hc _, by omega⟩

theorem multilineLiteral?_literal {rest : List Char} (hrest : rest.head? ≠ some '\'')
    {cs : List Char} (hchars : ∀ c ∈ cs, isPlain c = true ∨ c = '\n')
    (hquotes : endsIn '\'' cs = false) :
    multilineLiteral? (cs ++ '\'' :: '\'' :: '\'' :: rest) = some (cs, rest) := by
  induction cs with
  | nil => exact multilineLiteral?_endsWithThree.close 0 (by omega) rest hrest
  | cons c cs ih =>
    have htail : endsIn '\'' cs = false := by
      rw [endsIn, occursIn, Bool.or_eq_false_iff] at hquotes
      exact hquotes.2
    have hread := ih (fun d hd => hchars d (List.mem_cons_of_mem c hd)) htail
    by_cases hc : c = '\''
    · subst hc
      obtain ⟨n, hn, hbound⟩ := startsWith_literal hrest hquotes
      rw [List.cons_append, multilineLiteral?_endsWithThree.quote hn hbound, hread]
      rfl
    · obtain hplain | rfl := hchars c List.mem_cons_self
      · rw [List.cons_append, multilineLiteral?_itself hplain fun he => absurd he hc, hread]
        rfl
      · rw [List.cons_append, multilineLiteral?_newline, hread]
        rfl

theorem string?_multilineLiteral {cs : List Char} (h : fitsMultilineLiteral cs = true)
    {rest : List Char} (hrest : rest.head? ≠ some '\'') :
    string? (multilineLiteral cs ++ rest) = some (cs, rest) := by
  rw [fitsMultilineLiteral, Bool.and_eq_true, Bool.not_eq_true', List.all_eq_true] at h
  have hchars : ∀ c ∈ cs, isPlain c = true ∨ c = '\n' := fun c hc => by simpa using h.1 c hc
  have hbody : '\n' ∉ cs → ∃ first tail, cs ++ '\'' :: '\'' :: '\'' :: rest
      = first :: tail ∧ first ≠ '\n' ∧ first ≠ '\r' := by
    intro hcs
    cases cs with
    | nil => exact ⟨_, _, rfl, by decide, by decide⟩
    | cons c cs =>
      rw [List.mem_cons, not_or] at hcs
      refine ⟨c, _, rfl, Ne.symm hcs.1, ?_⟩
      rintro rfl
      exact absurd (hchars '\r' List.mem_cons_self) (by decide)
  have htext : multilineLiteral cs ++ rest = '\'' :: '\'' :: '\'' ::
      (opening cs ++ (cs ++ '\'' :: '\'' :: '\'' :: rest)) := by
    simp [multilineLiteral]
  rw [htext, string?, dropNewline_opening hbody, multilineLiteral?_literal hrest hchars h.2]

/-! ## Texts -/

/-- What may follow a text: nothing that could be taken for one more quote of it. -/
def NoQuote (rest : List Char) : Prop := rest.head? ≠ some '"' ∧ rest.head? ≠ some '\''

/-- A text between quotes on one line, however its characters are written, is not taken for one
over several lines. -/
theorem string?_quoted {body rest : List Char} (hbody : body.head? ≠ some '"')
    (hrest : rest.head? ≠ some '"') :
    string? ('"' :: body ++ '"' :: rest) = basicString? (body ++ '"' :: rest) := by
  cases body with
  | nil =>
    cases rest with
    | nil => rfl
    | cons c rest =>
      have hc : c ≠ '"' := by simpa using hrest
      simp [string?, hc]
  | cons c body =>
    have hc : c ≠ '"' := by simpa using hbody
    simp [string?, hc]

theorem head?_flatMap_ne {escape : Char → List Char} (h : ∀ c, (escape c).head? ≠ some '"')
    (cs : List Char) : (cs.flatMap escape).head? ≠ some '"' := by
  induction cs with
  | nil => simp
  | cons c cs ih =>
    have hc := h c
    rw [List.flatMap_cons, List.head?_append]
    cases hhead : (escape c).head? with
    | none => exact ih
    | some first =>
      rw [hhead] at hc
      exact hc

theorem string?_basic (cs : List Char) {rest : List Char} (hrest : rest.head? ≠ some '"') :
    string? (basic cs ++ rest) = some (cs, rest) := by
  have hbody : (cs.flatMap escaped).head? ≠ some '"' := by
    refine head?_flatMap_ne (fun c => ?_) cs
    obtain ⟨first, tail, htext, hfirst, -⟩ := head_escaped c []
    rw [List.append_nil] at htext
    rw [htext]
    simpa using hfirst
  have htext : basic cs ++ rest = '"' :: cs.flatMap escaped ++ '"' :: rest := by simp [basic]
  rw [htext, string?_quoted hbody hrest, basicString?_basic]

theorem string?_literal {cs : List Char} (h : fitsLiteral cs = true) (hne : cs ≠ [])
    (rest : List Char) : string? (literal cs ++ rest) = some (cs, rest) := by
  have htext : literal cs ++ rest = '\'' :: (cs ++ '\'' :: rest) := by simp [literal]
  have hread := literalString?_literal h rest
  cases cs with
  | nil => exact absurd rfl hne
  | cons c cs =>
    have hc : c ≠ '\'' := by
      rintro rfl
      simp [fitsLiteral] at h
    rw [htext, ← hread]
    simp [string?, hc]

/-- In whatever style a text is written, it is read as it was. -/
theorem string?_textChars (cs : List Char) {rest : List Char} (hrest : NoQuote rest) :
    string? (textChars cs ++ rest) = some (cs, rest) := by
  obtain ⟨hdouble, hsingle⟩ := hrest
  unfold textChars
  split
  · exact string?_basic cs hdouble
  · rename_i hbasic
    have hne : cs ≠ [] := by
      rintro rfl
      exact hbasic rfl
    split
    · exact string?_literal ‹_› hne rest
    · split
      · exact string?_multiline cs hdouble
      · split
        · exact string?_multilineLiteral ‹_› hsingle
        · split
          · exact string?_multiline cs hdouble
          · exact string?_basic cs hdouble

end AccessReport.Toml
