/-!
# Parts of a text

Joining, splitting at a separator, and searching, on lists of characters.

Results:
* `joinWith_concat`: one more part comes behind one more separator.
* `joinWith_splitAt`: joining what `splitAt` separates gives the characters back.
* `splitAt_ne_nil`: there is always at least one part.
* `splitAt_append_separator`: at each separator the parts before it end.
* `splitAt_append`, `not_mem_of_mem_splitAt`: a part ends at the first separator behind it, and
  holds none.
* `occursIn_iff`: what occurs is a piece of the characters.
-/
namespace AccessReport.Text

/-- The parts one after the other, with the separator between neighbours. -/
def joinWith (separator : List Char) : List (List Char) → List Char
  | [] => []
  | [part] => part
  | part :: next :: rest => part ++ separator ++ joinWith separator (next :: rest)

theorem joinWith_concat (separator : List Char) {parts : List (List Char)} (h : parts ≠ [])
    (last : List Char) :
    joinWith separator (parts ++ [last]) = joinWith separator parts ++ separator ++ last := by
  induction parts with
  | nil => exact absurd rfl h
  | cons part rest ih =>
    cases rest with
    | nil => rfl
    | cons next more =>
      have ih := ih (List.cons_ne_nil next more)
      simp only [List.cons_append, joinWith] at ih ⊢
      simp only [ih, List.append_assoc]

/-- The parts between the separator characters; without a separator the whole is one part. -/
def splitAt (separator : Char) : List Char → List (List Char)
  | [] => [[]]
  | c :: rest =>
    if c = separator then [] :: splitAt separator rest
    else match splitAt separator rest with
      | [] => [[c]]
      | part :: parts => (c :: part) :: parts

theorem splitAt_ne_nil (separator : Char) (cs : List Char) : splitAt separator cs ≠ [] := by
  induction cs with
  | nil => simp [splitAt]
  | cons c rest ih =>
    rw [splitAt]
    split
    · simp
    · split <;> simp

theorem joinWith_splitAt (separator : Char) (cs : List Char) :
    joinWith [separator] (splitAt separator cs) = cs := by
  induction cs with
  | nil => rfl
  | cons c rest ih =>
    rw [splitAt]
    split
    · rename_i h
      subst h
      cases hs : splitAt c rest with
      | nil => exact absurd hs (splitAt_ne_nil c rest)
      | cons part parts => rw [hs] at ih; simp [joinWith, ih]
    · cases hs : splitAt separator rest with
      | nil => exact absurd hs (splitAt_ne_nil separator rest)
      | cons part parts =>
        rw [hs] at ih
        cases parts with
        | nil => simp_all [joinWith]
        | cons next more => simp only [joinWith, List.cons_append] at ih ⊢; rw [ih]

theorem splitAt_of_not_mem {separator : Char} {cs : List Char} (h : separator ∉ cs) :
    splitAt separator cs = [cs] := by
  induction cs with
  | nil => rfl
  | cons c rest ih =>
    rw [List.mem_cons, not_or] at h
    rw [splitAt, if_neg (Ne.symm h.1), ih h.2]

theorem splitAt_append_separator (separator : Char) (before rest : List Char) :
    splitAt separator (before ++ separator :: rest)
      = splitAt separator before ++ splitAt separator rest := by
  induction before with
  | nil => simp [splitAt]
  | cons c before ih =>
    rw [List.cons_append, splitAt, splitAt, ih]
    split
    · rfl
    · cases hs : splitAt separator before with
      | nil => exact absurd hs (splitAt_ne_nil separator before)
      | cons part parts => rfl

theorem splitAt_append {separator : Char} {part : List Char} (h : separator ∉ part)
    (rest : List Char) :
    splitAt separator (part ++ separator :: rest) = part :: splitAt separator rest := by
  rw [splitAt_append_separator, splitAt_of_not_mem h, List.singleton_append]

theorem not_mem_of_mem_splitAt {separator : Char} {cs part : List Char}
    (h : part ∈ splitAt separator cs) : separator ∉ part := by
  induction cs generalizing part with
  | nil =>
    rw [splitAt, List.mem_singleton] at h
    simp [h]
  | cons c rest ih =>
    rw [splitAt] at h
    split at h
    · rcases List.mem_cons.mp h with rfl | h
      · exact List.not_mem_nil
      · exact ih h
    · rename_i hc
      split at h
      · rw [List.mem_singleton.mp h, List.mem_singleton]
        exact Ne.symm hc
      · rename_i first parts hs
        rw [hs] at ih
        rcases List.mem_cons.mp h with rfl | h
        · rw [List.mem_cons, not_or]
          exact ⟨Ne.symm hc, ih List.mem_cons_self⟩
        · exact ih (List.mem_cons_of_mem _ h)

/-- Whether `needle` occurs in the characters as one piece. -/
def occursIn (needle : List Char) : List Char → Bool
  | [] => needle.isEmpty
  | c :: rest => needle.isPrefixOf (c :: rest) || occursIn needle rest

theorem occursIn_iff {needle cs : List Char} : occursIn needle cs = true ↔ needle <:+: cs := by
  induction cs with
  | nil => rw [occursIn, List.isEmpty_iff, List.infix_nil]
  | cons c rest ih =>
    rw [occursIn, Bool.or_eq_true, List.isPrefixOf_iff_prefix, ih, List.infix_cons_iff]

/-- What follows the last occurrence of the separator, if it occurs. -/
def afterLast? (separator : List Char) : List Char → Option (List Char)
  | [] => none
  | c :: rest =>
    match afterLast? separator rest with
    | some tail => some tail
    | none =>
      if separator.isPrefixOf (c :: rest) then some ((c :: rest).drop separator.length) else none

end AccessReport.Text
