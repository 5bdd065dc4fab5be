import AccessReport.Proofs.Json.Records
import AccessReport.Proofs.Toml.Strings
/-!
# Written values of TOML

A value is written behind its key on one line, except that a list of several texts has a line for
each of them. The reader skips the blanks and ends of lines in such a list, and stops behind a value
at what follows it.

* `skipTrivia_eq`, `skipTrivia_cons`: what is skipped before a value.
* `arrayItems?_close`, `arrayItems?_last`, `arrayItems?_item`: the items of a list, one by one.
* `value?_write`: a value, up to the end of its line.
-/
namespace AccessReport.Toml

/-! ## Blanks and ends of lines -/

/-- A character that is no blank, starts no comment and ends no line. -/
def isSolid (c : Char) : Bool := !isSpace c && c != '#' && c != '\n' && c != '\r'

theorem skipSpace_cons {c : Char} (h : isSpace c = false) (cs : List Char) :
    skipSpace (c :: cs) = c :: cs :=
  List.dropWhile_cons_of_neg (by simp [h])

theorem skipComment_cons {c : Char} (h : c ≠ '#') (cs : List Char) :
    skipComment (c :: cs) = c :: cs := by
  unfold skipComment
  split
  · rename_i heq
    exact absurd (List.cons.inj heq).1 h
  · rfl

/-- What is skipped, line by line. -/
theorem skipTrivia_eq (cs : List Char) :
    skipTrivia cs = match afterNewline? (skipComment (skipSpace cs)) with
      | none => skipComment (skipSpace cs)
      | some rest => skipTrivia rest := by
  rw [skipTrivia]
  split
  · rename_i h
    rw [h]
  · rename_i h
    rw [h]

theorem skipTrivia_cons {c : Char} (h : isSolid c = true) (cs : List Char) :
    skipTrivia (c :: cs) = c :: cs := by
  simp only [isSolid, Bool.and_eq_true, Bool.not_eq_true', bne_iff_ne] at h
  obtain ⟨⟨⟨hspace, hcomment⟩, hnewline⟩, hreturn⟩ := h
  rw [skipTrivia_eq, skipSpace_cons hspace, skipComment_cons hcomment,
    afterNewline?_cons hnewline hreturn]

theorem skipTrivia_newline (cs : List Char) : skipTrivia ('\n' :: cs) = skipTrivia cs := by
  rw [skipTrivia_eq]
  rfl

theorem skipTrivia_space (cs : List Char) : skipTrivia (' ' :: cs) = skipTrivia cs := by
  have hspace : skipSpace (' ' :: cs) = skipSpace cs := rfl
  rw [skipTrivia_eq, skipTrivia_eq cs, hspace]

/-! ## Texts as values -/

theorem head_textChars (cs : List Char) :
    ∃ c tail, textChars cs = c :: tail ∧ (c = '"' ∨ c = '\'') := by
  unfold textChars
  split
  · exact ⟨_, _, rfl, .inl rfl⟩
  · split
    · exact ⟨_, _, rfl, .inr rfl⟩
    · split
      · exact ⟨_, _, rfl, .inl rfl⟩
      · split
        · exact ⟨_, _, rfl, .inr rfl⟩
        · split
          · exact ⟨_, _, rfl, .inl rfl⟩
          · exact ⟨_, _, rfl, .inl rfl⟩

/-- A quote starts a text. -/
theorem value?_quote {c : Char} (h : c = '"' ∨ c = '\'') (levels : Nat) (cs : List Char) :
    value? levels (c :: cs)
      = (string? (c :: cs)).map fun read => (.string (String.ofList read.1), read.2) := by
  obtain rfl | rfl := h <;> simp [value?]

theorem value?_quoted (levels : Nat) (text : String) {rest : List Char} (hrest : NoQuote rest) :
    value? levels ((quoted text).toList ++ rest) = some (.string text, rest) := by
  have hread := string?_textChars text.toList hrest
  obtain ⟨c, tail, htext, hc⟩ := head_textChars text.toList
  rw [quoted, String.toList_ofList]
  rw [htext, List.cons_append] at hread ⊢
  rw [value?_quote hc, hread, Option.map_some, String.ofList_toList]

/-! ## Lists of texts -/

section
variable {read : List Char → Option (Document × List Char)} {cs start rest : List Char}

theorem arrayItems?_close (h : skipTrivia cs = ']' :: rest) :
    arrayItems? read cs = some ([], rest) := by
  rw [arrayItems?, h]
  rfl

theorem arrayItems?_last {item : Document} (hstart : skipTrivia cs = start)
    (hne : start.head? ≠ some ']') (hread : read start = some (item, ']' :: rest)) :
    arrayItems? read cs = some ([item], rest) := by
  have hclose : skipTrivia (']' :: rest) = ']' :: rest := skipTrivia_cons (by decide) rest
  rw [arrayItems?]
  split
  · rename_i heq
    rw [← hstart, heq] at hne
    exact absurd rfl hne
  · simp [hstart, hread, hclose]

theorem arrayItems?_item {item : Document} (hstart : skipTrivia cs = start)
    (hne : start.head? ≠ some ']') (hread : read start = some (item, ',' :: rest))
    (hlt : rest.length < start.length) :
    arrayItems? read cs
      = (arrayItems? read rest).map fun more => (item :: more.1, more.2) := by
  have hcs := skipTrivia_length_le cs
  have hcomma : skipTrivia (',' :: rest) = ',' :: rest := skipTrivia_cons (by decide) rest
  rw [hstart] at hcs
  rw [arrayItems?]
  split
  · rename_i heq
    rw [← hstart, heq] at hne
    exact absurd rfl hne
  · have hshorter : rest.length < cs.length := by omega
    simp only [hstart, hread, hcomma, hshorter, Option.bind_eq_bind, Option.bind_some, if_true]
    cases arrayItems? read rest <;> rfl

end

/-- What may follow a text inside a list. -/
theorem noQuote_cons {c : Char} (hdouble : c ≠ '"') (hsingle : c ≠ '\'') (rest : List Char) :
    NoQuote (c :: rest) := ⟨by simpa using hdouble, by simpa using hsingle⟩

/-- Where a text starts there is nothing to skip, and no list ends. -/
theorem skipTrivia_quote {c : Char} (h : c = '"' ∨ c = '\'') (cs : List Char) :
    skipTrivia (c :: cs) = c :: cs ∧ (c :: cs).head? ≠ some ']' := by
  obtain rfl | rfl := h
  · exact ⟨skipTrivia_cons (by decide) cs, by simp⟩
  · exact ⟨skipTrivia_cons (by decide) cs, by simp⟩

theorem skipTrivia_quoted (text : String) (rest : List Char) :
    skipTrivia ((quoted text).toList ++ rest) = (quoted text).toList ++ rest ∧
      ((quoted text).toList ++ rest).head? ≠ some ']' := by
  obtain ⟨c, tail, htext, hc⟩ := head_textChars text.toList
  rw [quoted, String.toList_ofList, htext, List.cons_append]
  exact skipTrivia_quote hc (tail ++ rest)

/-- A line for each text of a list. -/
def itemLines (texts : List String) : List Char :=
  texts.flatMap fun text => "    ".toList ++ ((quoted text).toList ++ ",\n".toList)

theorem itemLines_cons (text : String) (texts : List String) (rest : List Char) :
    itemLines (text :: texts) ++ rest
      = ' ' :: ' ' :: ' ' :: ' ' ::
        ((quoted text).toList ++ ',' :: '\n' :: (itemLines texts ++ rest)) := by
  simp [itemLines]

theorem arrayItems?_itemLines (levels : Nat) (texts : List String) (rest : List Char) :
    arrayItems? (value? levels) ('\n' :: (itemLines texts ++ ']' :: rest))
      = some (texts.map .string, rest) := by
  induction texts with
  | nil => exact arrayItems?_close ((skipTrivia_newline _).trans (skipTrivia_cons (by decide) rest))
  | cons text texts ih =>
    have hquoted := skipTrivia_quoted text (',' :: '\n' :: (itemLines texts ++ ']' :: rest))
    have hcomma : NoQuote (',' :: '\n' :: (itemLines texts ++ ']' :: rest)) :=
      noQuote_cons (by decide) (by decide) _
    have hread := value?_quoted levels text hcomma
    have hstart : skipTrivia ('\n' :: (itemLines (text :: texts) ++ ']' :: rest))
        = (quoted text).toList ++ ',' :: '\n' :: (itemLines texts ++ ']' :: rest) := by
      rw [itemLines_cons, skipTrivia_newline, skipTrivia_space, skipTrivia_space, skipTrivia_space,
        skipTrivia_space, hquoted.1]
    have hlt : ('\n' :: (itemLines texts ++ ']' :: rest)).length
        < ((quoted text).toList ++ ',' :: '\n' :: (itemLines texts ++ ']' :: rest)).length := by
      simp only [List.length_append, List.length_cons]
      omega
    rw [arrayItems?_item hstart hquoted.2 hread hlt, ih]
    rfl

/-! ## Values that can be written -/

/-- A value that can be written, as a value of JSON. -/
def Plain.value : Plain → Json
  | text value => .string value
  | flag value => .bool value
  | texts values => Json.strings values

theorem value?_array (levels : Nat) {cs rest : List Char} {items : List Document}
    (h : arrayItems? (value? levels) cs = some (items, rest)) :
    value? (levels + 1) ('[' :: cs) = some (.array items, rest) := by
  rw [value?, h]
  rfl

/-- A word up to the end of its line. -/
theorem word?_cons (word rest : List Char) (h : ∀ c ∈ word, isWordChar c = true) :
    word? (word ++ '\n' :: rest)
      = (ofWord? word).map fun document => (document, '\n' :: rest) := by
  have hstop : isWordChar '\n' = false := by decide
  rw [word?, List.takeWhile_append_of_pos h, List.dropWhile_append_of_pos h,
    List.takeWhile_cons_of_neg (by simp [hstop]), List.dropWhile_cons_of_neg (by simp [hstop]),
    List.append_nil]
  rfl

theorem value?_word {c : Char} (h : isWordChar c = true) (levels : Nat) (cs : List Char) :
    value? levels (c :: cs) = word? (c :: cs) := by
  have hne : c ≠ '[' ∧ c ≠ '\x7b' ∧ c ≠ '"' ∧ c ≠ '\'' := by
    refine ⟨?_, ?_, ?_, ?_⟩ <;> rintro rfl <;> cases h
  rw [value?]
  all_goals simp [hne]

theorem value?_flag (levels : Nat) (value : Bool) (rest : List Char) :
    value? levels ((Plain.flag value).write.toList ++ '\n' :: rest)
      = some (.bool value, '\n' :: rest) := by
  cases value
  · have hread := word?_cons "false".toList rest (List.all_eq_true.mp rfl)
    rw [ofWord?_false] at hread
    exact (value?_word (by decide) levels _).trans hread
  · have hread := word?_cons "true".toList rest (List.all_eq_true.mp rfl)
    rw [ofWord?_true] at hread
    exact (value?_word (by decide) levels _).trans hread

/-- A value is read from its line as what was written there. -/
theorem value?_write (levels : Nat) (value : Plain) (rest : List Char) :
    value? (levels + 1) (value.write.toList ++ '\n' :: rest)
      = some (.ofJson value.value, '\n' :: rest) := by
  have hend : NoQuote ('\n' :: rest) := noQuote_cons (by decide) (by decide) rest
  match value with
  | .text text => exact value?_quoted (levels + 1) text hend
  | .flag flag => exact value?_flag (levels + 1) flag rest
  | .texts [] =>
    exact value?_array levels (arrayItems?_close (skipTrivia_cons (by decide) ('\n' :: rest)))
  | .texts [text] =>
    have hclose : NoQuote (']' :: '\n' :: rest) := noQuote_cons (by decide) (by decide) _
    have hquoted := skipTrivia_quoted text (']' :: '\n' :: rest)
    have hitems := arrayItems?_last hquoted.1 hquoted.2 (value?_quoted levels text hclose)
    have htext : (Plain.texts [text]).write.toList ++ '\n' :: rest
        = '[' :: ((quoted text).toList ++ ']' :: '\n' :: rest) := by
      simp [Plain.write]
    rw [htext, value?_array levels hitems]
    rfl
  | .texts (text :: next :: texts) =>
    have hitems := arrayItems?_itemLines levels (text :: next :: texts) ('\n' :: rest)
    have htext : (Plain.texts (text :: next :: texts)).write.toList ++ '\n' :: rest
        = '[' :: '\n' :: (itemLines (text :: next :: texts) ++ ']' :: '\n' :: rest) := by
      simp [Plain.write, itemLines, List.flatMap_map]
    rw [htext, value?_array levels hitems, Plain.value, Json.strings, Document.ofJson_array,
      List.map_map]
    rfl

theorem skipSpace_quoted (text : String) (rest : List Char) :
    skipSpace ((quoted text).toList ++ rest) = (quoted text).toList ++ rest := by
  obtain ⟨c, tail, htext, hc⟩ := head_textChars text.toList
  rw [quoted, String.toList_ofList, htext, List.cons_append]
  obtain rfl | rfl := hc <;> exact skipSpace_cons (by decide) _

theorem skipSpace_write (value : Plain) (rest : List Char) :
    skipSpace (value.write.toList ++ rest) = value.write.toList ++ rest := by
  match value with
  | .text text => exact skipSpace_quoted text rest
  | .flag true => exact skipSpace_cons (by decide) _
  | .flag false => exact skipSpace_cons (by decide) _
  | .texts [] => exact skipSpace_cons (by decide) _
  | .texts [text] =>
    rw [Plain.write, String.append_assoc, String.toList_append]
    exact skipSpace_cons (by decide) _
  | .texts (text :: next :: texts) =>
    rw [Plain.write, String.append_assoc, String.toList_append]
    · exact skipSpace_cons (by decide) _
    · simp
    · simp

end AccessReport.Toml
