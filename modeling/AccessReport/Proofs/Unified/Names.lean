import AccessReport.Unified.Results
/-!
# Names of elements

What an element is called is read off the path of selectors that leads to it: the whole path in one
text, and for display what stands behind the last child combinator of its last selector.

Results:
* `Text.afterLast?_eq_none_iff`, `Text.afterLast?_eq_some_iff`: what follows the last occurrence of
  a separator, and when there is none.
* `Identifiers.names_ofTarget`: the names of the element that a path leads to.
-/
namespace AccessReport

namespace Text

/-- What follows the last occurrence of a separator: no occurrence has less behind it. -/
structure FollowsLast (separator cs rest : List Char) : Prop where
  occurs : ∃ before, cs = before ++ separator ++ rest
  last : ∀ before later, cs = before ++ separator ++ later → rest.length ≤ later.length

variable {separator cs rest : List Char}

theorem FollowsLast.unique {other : List Char} (h : FollowsLast separator cs rest)
    (h' : FollowsLast separator cs other) : rest = other := by
  obtain ⟨before, hrest⟩ := h.occurs
  obtain ⟨before', hother⟩ := h'.occurs
  have hlength : rest.length = other.length :=
    Nat.le_antisymm (h.last before' other hother) (h'.last before rest hrest)
  exact (List.append_inj' (hrest.symm.trans hother) hlength).2

theorem afterLast?_eq_none_iff (hne : separator ≠ []) :
    afterLast? separator cs = none ↔ ¬separator <:+: cs := by
  induction cs with
  | nil => simp [afterLast?, hne]
  | cons c cs ih =>
    rw [afterLast?, List.infix_cons_iff, not_or, ← ih]
    cases afterLast? separator cs <;> simp

theorem followsLast_of_afterLast? (hne : separator ≠ []) (h : afterLast? separator cs = some rest) :
    FollowsLast separator cs rest := by
  induction cs with
  | nil => simp [afterLast?] at h
  | cons c cs ih =>
    unfold afterLast? at h
    split at h
    · rename_i tail htail
      obtain rfl : tail = rest := Option.some.inj h
      obtain ⟨⟨before, hbefore⟩, hlast⟩ := ih htail
      refine ⟨⟨c :: before, by simp [hbefore]⟩, fun earlier later hlater => ?_⟩
      cases earlier with
      | nil =>
        -- an occurrence at the first character has the one further on behind it
        have h1 := congrArg List.length hlater
        have h2 := congrArg List.length hbefore
        simp only [List.length_append, List.length_cons, List.length_nil] at h1 h2
        omega
      | cons first earlier => exact hlast earlier later (List.cons.inj hlater).2
    · rename_i hnone
      split at h
      · rename_i hprefix
        obtain ⟨later, hlater⟩ := List.isPrefixOf_iff_prefix.mp hprefix
        obtain rfl : later = rest := by simpa [← hlater] using h
        refine ⟨⟨[], hlater.symm⟩, fun earlier other hother => ?_⟩
        cases earlier with
        | nil => simp [List.append_cancel_left (hlater.trans hother)]
        | cons first earlier =>
          have hinfix : separator <:+: cs := ⟨earlier, other, (List.cons.inj hother).2.symm⟩
          exact absurd hinfix ((afterLast?_eq_none_iff hne).mp hnone)
      · cases h

theorem afterLast?_eq_some_iff (hne : separator ≠ []) :
    afterLast? separator cs = some rest ↔ FollowsLast separator cs rest := by
  constructor
  · exact followsLast_of_afterLast? hne
  · intro h
    cases hfound : afterLast? separator cs with
    | none =>
      obtain ⟨before, hbefore⟩ := h.occurs
      exact absurd ⟨before, rest, hbefore.symm⟩ ((afterLast?_eq_none_iff hne).mp hfound)
    | some other => rw [(followsLast_of_afterLast? hne hfound).unique h]

theorem joinWith_eq_intercalate (separator : List Char) (parts : List (List Char)) :
    joinWith separator parts = separator.intercalate parts := by
  induction parts with
  | nil => simp [joinWith]
  | cons part rest ih =>
    cases rest with
    | nil => simp [joinWith]
    | cons next more => rw [joinWith, ih, List.intercalate_cons_cons]

end Text

namespace Identifiers

/-- The names of the element that a path of selectors leads to: the selectors joined by semicolons,
and for display what follows the last child combinator of the last selector, or all of it. -/
structure Names (identifiers : Identifiers) (target : List String) : Prop where
  identifier : identifiers.identifier = ";".intercalate target
  cssSelector : identifiers.cssSelector = ";".intercalate target
  conciseName : Text.FollowsLast " > ".toList (target.getLastD "").toList
      identifiers.conciseName.toList ∨
    ¬" > ".toList <:+: (target.getLastD "").toList ∧
      identifiers.conciseName = target.getLastD ""

theorem names_ofTarget (target : List String) : (ofTarget target).Names target := by
  have hjoined : String.ofList (Text.joinWith [';'] (target.map String.toList))
      = ";".intercalate target := by
    rw [Text.joinWith_eq_intercalate, ← String.toList_inj, String.toList_intercalate]
    simp
  have hlast : target.getLast?.getD "" = target.getLastD "" := by
    rw [List.getLastD_eq_getLast?]
  have hname : (ofTarget target).conciseName = String.ofList
      ((Text.afterLast? " > ".toList (target.getLastD "").toList).getD
        (target.getLastD "").toList) := by
    rw [← hlast]
    rfl
  refine ⟨hjoined, hjoined, ?_⟩
  rw [hname]
  have hne : " > ".toList ≠ [] := by decide
  cases hfound : Text.afterLast? " > ".toList (target.getLastD "").toList with
  | none =>
    have hnone := (Text.afterLast?_eq_none_iff hne).mp hfound
    exact .inr ⟨hnone, String.ofList_toList⟩
  | some rest =>
    simp only [Option.getD_some, String.toList_ofList]
    exact .inl ((Text.afterLast?_eq_some_iff hne).mp hfound)

example : ofTarget ["iframe", "ul > li > a"]
    = ⟨"iframe;ul > li > a", "a", "iframe;ul > li > a"⟩ := by
  decide +kernel

end Identifiers
end AccessReport
