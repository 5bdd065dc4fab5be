import AccessReport.Surroundings.Inquiry
/-!
# Variables in configuration texts

Before a configuration text is read, the placeholders in it are replaced by the values of
variables. A placeholder is the name of a variable between braces behind a dollar sign; after
the name there may be a default behind a colon and a minus sign. An empty value counts as none.
What was put in is not looked through again, and all other text stays as it is.

Results:
* `placeholder?_length`: what follows a placeholder is shorter than what starts with it.
* `pieces_nil`: there is nothing in the empty text.
-/
namespace AccessReport

inductive ExpansionError where
  | unset (name : String)
deriving DecidableEq, Repr

def ExpansionError.message : ExpansionError → String
  | unset name => s!"Environment variable '{name}' is not set and no default provided"

/-- The name of a variable, and the default if there is one. -/
structure Placeholder where
  name : String
  fallback : Option String
deriving DecidableEq, Repr

namespace Expansion

/-! ## Finding placeholders -/

def isNameStart (c : Char) : Bool := c.isAlpha || c == '_'

def isNamePart (c : Char) : Bool := c.isAlphanum || c == '_'

/-- The default and what follows the placeholder, from behind the name on. -/
def fallback? : List Char → Option (Option (List Char) × List Char)
  | '\x7d' :: rest => some (none, rest)
  | ':' :: '-' :: rest => match rest.dropWhile (· != '\x7d') with
    | _ :: after => some (some (rest.takeWhile (· != '\x7d')), after)
    | [] => none
  | _ => none

/-- The placeholder that the characters start with, and what follows it. -/
def placeholder? : List Char → Option (Placeholder × List Char)
  | '$' :: '\x7b' :: c :: rest =>
    if isNameStart c then
      (fallback? (rest.dropWhile isNamePart)).map fun (fallback, after) =>
        ({ name := String.ofList (c :: rest.takeWhile isNamePart)
           fallback := fallback.map String.ofList }, after)
    else none
  | _ => none

theorem length_dropWhile_le (p : Char → Bool) (cs : List Char) :
    (cs.dropWhile p).length ≤ cs.length :=
  (List.dropWhile_sublist p).length_le

theorem fallback?_length {cs after : List Char} {fallback : Option (List Char)}
    (h : fallback? cs = some (fallback, after)) : after.length < cs.length := by
  unfold fallback? at h
  split at h
  · simp only [Option.some.injEq, Prod.mk.injEq] at h
    simp [← h.2]
  · rename_i rest
    split at h
    · rename_i c more hd
      simp only [Option.some.injEq, Prod.mk.injEq] at h
      have := length_dropWhile_le (· != '\x7d') rest
      rw [hd] at this
      simp only [List.length_cons] at this ⊢
      rw [← h.2]
      omega
    · simp at h
  · simp at h

theorem placeholder?_length {cs after : List Char} {found : Placeholder}
    (h : placeholder? cs = some (found, after)) : after.length < cs.length := by
  unfold placeholder? at h
  split at h
  · rename_i c rest
    split at h
    · obtain ⟨⟨fallback, tail⟩, hf, he⟩ := Option.map_eq_some_iff.1 h
      have h1 := fallback?_length hf
      have h2 := length_dropWhile_le isNamePart rest
      simp only [Prod.mk.injEq] at he
      simp only [List.length_cons]
      rw [← he.2]
      omega
    · simp at h
  · simp at h

/-- A character of the text, or a placeholder in it. -/
inductive Piece where
  | character (c : Char)
  | placeholder (found : Placeholder)
deriving DecidableEq, Repr

/-- The pieces of a text from left to right. -/
def pieces (cs : List Char) : List Piece :=
  match _h : placeholder? cs with
  | some (found, after) => .placeholder found :: pieces after
  | none => match cs with
    | [] => []
    | c :: rest => .character c :: pieces rest
termination_by cs.length
decreasing_by
  · exact placeholder?_length ‹_›
  · simp

theorem pieces_nil : pieces [] = [] := by
  simp [pieces, placeholder?]

/-! ## Replacing them -/

/-- The text that takes the place of a placeholder. -/
def fill (found : Placeholder) : Inquiry ExpansionError String := do
  match (← Inquiry.value? found.name).filter (!·.isEmpty), found.fallback with
  | some value, _ =>
    Inquiry.tell (.expandedVariable found.name)
    pure value
  | none, some fallback =>
    Inquiry.tell (.defaultedVariable found.name)
    pure fallback
  | none, none => Inquiry.fail (.unset found.name)

def fillPiece : Piece → Inquiry ExpansionError String
  | .character c => pure c.toString
  | .placeholder found => fill found

/-- The text with its placeholders replaced (`expand_with`). -/
def expand (text : String) : Inquiry ExpansionError String := do
  pure (String.join (← (pieces text.toList).mapM fillPiece))

end Expansion
end AccessReport
