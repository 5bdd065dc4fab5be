import Mathlib.Data.List.TakeWhile
import AccessReport.Proofs.Json.Records
import AccessReport.Proofs.Json.Scanned
/-!
# Written values are read back

The tokens of a written value build the document that the value is. Whole numbers are read as they
were written, texts from their code points, and no container is too deep as long as there are levels
left for those inside it.

* `documentOfWord?_signed`, `documentOfCodes_toNat`: numbers and texts.
* `run_arrayTokens`, `run_objectTokens`: containers whose parts are each put where they stand.
* `run_tokens`: the tokens of a value, wherever a value may stand.
* `read?_compact`, `read?_pretty`: a written value, in both ways of writing it.
-/
namespace AccessReport.Json

open Numeric

/-! ## Whole numbers -/

/-- Only zero has a zero in front. -/
theorem head_digits (n : Nat) (rest : List Char) (h : digits n = '0' :: rest) : rest = [] := by
  have hzero : ∀ m rest, digits m = '0' :: rest → m = 0 := by
    intro m
    induction m using Nat.strongRecOn with
    | ind m ih =>
      intro rest hm
      rw [digits] at hm
      split at hm
      · rename_i hlt
        have hvalue := digitValue_digitChar m hlt
        rw [(List.cons.inj hm).1] at hvalue
        exact hvalue.symm
      · rename_i hge
        obtain ⟨c, cs, hcs⟩ := List.exists_cons_of_ne_nil (digits_ne_nil (m / 10))
        rw [hcs, List.cons_append] at hm
        have hdiv := ih (m / 10) (by omega) cs (by rw [hcs, (List.cons.inj hm).1])
        omega
  have hn : n = 0 := hzero n rest h
  rw [hn, digits] at h
  exact (List.cons.inj h).2.symm

theorem spanDigits_digits (n : Nat) : spanDigits (digits n) = (digits n, []) := by
  have htake : (digits n).takeWhile Char.isDigit = digits n :=
    List.takeWhile_eq_self_iff.mpr (digits_isDigit n)
  have hdrop : (digits n).dropWhile Char.isDigit = [] :=
    List.dropWhile_eq_nil_iff.mpr (digits_isDigit n)
  rw [spanDigits, htake, hdrop]

theorem numberText?_minus (n : Nat) :
    numberText? ('-' :: digits n) = some ⟨true, digits n, [], none⟩ := by
  simp only [numberText?, spanDigits_digits]
  split
  · rename_i h
    exact absurd h (digits_ne_nil n)
  · rename_i h
    cases head_digits n _ h
  · rfl

theorem numberText?_digits (n : Nat) :
    numberText? (digits n) = some ⟨false, digits n, [], none⟩ := by
  have hsign : ∀ rest, digits n ≠ '-' :: rest := by
    intro rest h
    have hdigit := digits_isDigit n '-' (h ▸ List.mem_cons_self)
    exact absurd hdigit (by decide)
  unfold numberText?
  split
  rename_i heq
  split at heq
  · rename_i h
    exact absurd h (hsign _)
  · cases heq
    simp only [spanDigits_digits]
    split
    · rename_i h
      exact absurd h (digits_ne_nil n)
    · rename_i h
      cases head_digits n _ h
    · rfl

/-- The value of a whole number that is not a negative zero. -/
theorem number?_whole {negative : Bool} {n : Nat} {value : Int}
    (hvalue : value = if negative then -(n : Int) else n) (hzero : negative = true → n ≠ 0)
    (h : holdsInteger value = true) :
    (⟨negative, digits n, [], none⟩ : NumberText).number? = some (.integer value) := by
  subst hvalue
  have hsign : (negative && (n : Int) == 0) = false := by
    cases negative with
    | false => rfl
    | true => simpa using hzero rfl
  simp only [NumberText.number?, valueOf_digits, List.isEmpty_nil, Option.isNone_none, h, hsign]
  rfl

theorem documentOfWord?_of_numberText {cs : List Char} {n : NumberText}
    (h : numberText? cs = some n) :
    documentOfWord? cs = some (match n.number? with
      | some value => .number value
      | none => .unusable) := by
  have hne : ∀ word, numberText? word = none → cs ≠ word := by
    rintro word hword rfl
    rw [h] at hword
    cases hword
  rw [documentOfWord?, if_neg (hne _ (by decide)), if_neg (hne _ (by decide)),
    if_neg (hne _ (by decide)), h]
  rfl

theorem documentOfWord?_signed {n : Int} (h : holdsInteger n = true) :
    documentOfWord? (signed n) = some (.number (.integer n)) := by
  cases n with
  | ofNat n =>
    have hnumber : (⟨false, digits n, [], none⟩ : NumberText).number?
        = some (.integer (.ofNat n)) :=
      number?_whole rfl (fun hf => absurd hf Bool.false_ne_true) h
    rw [signed, documentOfWord?_of_numberText (numberText?_digits n), hnumber]
  | negSucc n =>
    have hnumber : (⟨true, digits (n + 1), [], none⟩ : NumberText).number?
        = some (.integer (.negSucc n)) :=
      number?_whole (Int.negSucc_eq n) (fun _ => Nat.succ_ne_zero n) h
    rw [signed, documentOfWord?_of_numberText (numberText?_minus (n + 1)), hnumber]

/-! ## Texts -/

/-- No character is half of a surrogate pair. -/
theorem isSurrogate_toNat (c : Char) :
    isHighSurrogate c.toNat = false ∧ isLowSurrogate c.toNat = false := by
  have hvalid : c.toNat.isValidChar := c.valid
  unfold Nat.isValidChar at hvalid
  simp only [isHighSurrogate, isLowSurrogate, Bool.and_eq_false_iff, decide_eq_false_iff_not]
  omega

theorem charsOfCodes?_toNat (cs : List Char) : charsOfCodes? (cs.map Char.toNat) = some cs := by
  induction cs with
  | nil => rw [List.map_nil, charsOfCodes?]
  | cons c cs ih =>
    obtain ⟨hhigh, hlow⟩ := isSurrogate_toNat c
    rw [List.map_cons, charsOfCodes?.eq_def]
    simp [hhigh, hlow, ih]

theorem textOfCodes?_toNat (text : String) :
    textOfCodes? (text.toList.map Char.toNat) = some text := by
  simp [textOfCodes?, charsOfCodes?_toNat]

theorem documentOfCodes_toNat (text : String) :
    documentOfCodes (text.toList.map Char.toNat) = .string text := by
  rw [documentOfCodes, textOfCodes?_toNat]

/-! ## Containers -/

namespace Builder

theorem run_cons (b : Builder) (token : Token) (tokens : List Token) :
    b.run (token :: tokens) = (b.step token).bind (·.run tokens) := by
  simp [run, List.foldlM_cons]

/-- Members as an open object holds them. -/
def heldMembers (members : List (String × Document)) : List (Option String × Document) :=
  (members.map fun member => (some member.1, member.2)).reverse

theorem objectOf_heldMembers (members : List (String × Document)) :
    objectOf (heldMembers members) = .object members := by
  have hall : (members.map fun member => (some member.1, member.2)).mapM
      (fun member : Option String × Document => member.1.map fun name => (name, member.2))
        = some members := by
    induction members with
    | nil => rfl
    | cons member members ih =>
      rw [List.map_cons, List.mapM_cons, ih]
      rfl
  rw [objectOf, heldMembers, List.reverse_reverse, hall]

/-- Where a container may end a value may begin as well. -/
theorem run_valueOrClose (stack : List Frame) (value : Json) (rest : List Token) :
    (⟨stack, .valueOrClose, none⟩ : Builder).run (value.tokens ++ rest)
      = (⟨stack, .value, none⟩ : Builder).run (value.tokens ++ rest) := by
  have hfirst : ∃ token more, value.tokens = token :: more ∧ token ≠ .closeArray := by
    cases value with
    | array items => cases items <;> exact ⟨_, _, rfl, by decide⟩
    | object members => cases members <;> exact ⟨_, _, rfl, by decide⟩
    | string text => exact ⟨_, _, rfl, by simp [textToken]⟩
    | _ => exact ⟨_, _, rfl, by simp⟩
  obtain ⟨token, more, htokens, hne⟩ := hfirst
  have hstep : (⟨stack, .valueOrClose, none⟩ : Builder).step token
      = (⟨stack, .value, none⟩ : Builder).step token := if_neg hne
  rw [htokens, List.cons_append, run_cons, run_cons, hstep]

/-- The value is put into every container that is open. -/
def Placed (value : Json) (stack : List Frame) : Prop :=
  ∀ frame rest, (⟨frame :: stack, .value, none⟩ : Builder).run (value.tokens ++ rest)
    = (place (frame :: stack) (Document.ofJson value)).run rest

section
variable {stack : List Frame} (hdeep : stack.length < deepest)
include hdeep

theorem run_closeArray (held : List Document) (rest : List Token) :
    (⟨.array held :: stack, .commaOrClose, none⟩ : Builder).run (.closeArray :: rest)
      = (place stack (.array held.reverse)).run rest := by
  have hstep : (⟨.array held :: stack, .commaOrClose, none⟩ : Builder).step .closeArray
      = some (place stack (close (stack.length + 1) (.array held.reverse))) := rfl
  rw [run_cons, hstep, close, if_pos (by omega), Option.bind_some]

/-- The items after the first. -/
theorem run_moreItemTokens {items : List Json} (h : ∀ item ∈ items, Placed item stack)
    (held : List Document) (rest : List Token) :
    (⟨.array held :: stack, .commaOrClose, none⟩ : Builder).run (moreItemTokens items ++ rest)
      = (place stack (.array (held.reverse ++ items.map Document.ofJson))).run rest := by
  induction items generalizing held with
  | nil =>
    rw [moreItemTokens, List.singleton_append, run_closeArray hdeep, List.map_nil, List.append_nil]
  | cons item items ih =>
    have hstep : (⟨.array held :: stack, .commaOrClose, none⟩ : Builder).step .comma
        = some ⟨.array held :: stack, .value, none⟩ := rfl
    rw [moreItemTokens, List.cons_append, List.cons_append, List.append_assoc, run_cons, hstep,
      Option.bind_some, h item List.mem_cons_self, place,
      ih fun other hm => h other (List.mem_cons_of_mem item hm)]
    simp

theorem run_arrayTokens {items : List Json} (h : ∀ item ∈ items, Placed item stack)
    (rest : List Token) :
    (⟨stack, .value, none⟩ : Builder).run ((Json.array items).tokens ++ rest)
      = (place stack (.array (items.map Document.ofJson))).run rest := by
  have hopen : (⟨stack, .value, none⟩ : Builder).step .openArray
      = some ⟨.array [] :: stack, .valueOrClose, none⟩ := rfl
  cases items with
  | nil =>
    rw [tokens, List.cons_append, run_cons, hopen, Option.bind_some]
    exact run_closeArray hdeep [] rest
  | cons item items =>
    rw [tokens, List.cons_append, List.cons_append, List.append_assoc, run_cons, hopen,
      Option.bind_some, run_valueOrClose, h item List.mem_cons_self, place,
      run_moreItemTokens hdeep fun other hm => h other (List.mem_cons_of_mem item hm)]
    rfl

theorem run_closeObject (before : List (String × Document)) (rest : List Token) :
    (⟨.object (heldMembers before) none :: stack, .commaOrClose, none⟩ : Builder).run
        (.closeObject :: rest)
      = (place stack (.object before)).run rest := by
  have hstep : (⟨.object (heldMembers before) none :: stack, .commaOrClose, none⟩ : Builder).step
      .closeObject
        = some (place stack (close (stack.length + 1) (objectOf (heldMembers before)))) := rfl
  rw [run_cons, hstep, close, if_pos (by omega), objectOf_heldMembers, Option.bind_some]

omit hdeep in
/-- One member, where a member may begin. -/
theorem run_memberTokens {awaiting : Awaiting} (ha : awaiting = .name ∨ awaiting = .nameOrClose)
    {value : Json} (h : Placed value stack) (before : List (String × Document)) (name : String)
    (rest : List Token) :
    (⟨.object (heldMembers before) none :: stack, awaiting, none⟩ : Builder).run
        (textToken name :: .colon :: (value.tokens ++ rest))
      = (⟨.object (heldMembers (before ++ [(name, Document.ofJson value)])) none :: stack,
          .commaOrClose, none⟩ : Builder).run rest := by
  have hname : (⟨.object (heldMembers before) none :: stack, awaiting, none⟩ : Builder).step
      (textToken name)
        = some ⟨.object (heldMembers before) (some name) :: stack, .colon, none⟩ := by
    rw [← textOfCodes?_toNat name]
    obtain rfl | rfl := ha <;> rfl
  have hcolon : (⟨.object (heldMembers before) (some name) :: stack, .colon, none⟩ : Builder).step
      .colon = some ⟨.object (heldMembers before) (some name) :: stack, .value, none⟩ := rfl
  have hheld : (some name, Document.ofJson value) :: heldMembers before
      = heldMembers (before ++ [(name, Document.ofJson value)]) := by
    simp [heldMembers]
  rw [run_cons, hname, Option.bind_some, run_cons, hcolon, Option.bind_some, h, place, hheld]

/-- The members after the first. -/
theorem run_moreMemberTokens {members : List (String × Json)}
    (h : ∀ member ∈ members, Placed member.2 stack) (before : List (String × Document))
    (rest : List Token) :
    (⟨.object (heldMembers before) none :: stack, .commaOrClose, none⟩ : Builder).run
        (moreMemberTokens members ++ rest)
      = (place stack (.object (before ++ members.map fun member =>
          (member.1, Document.ofJson member.2)))).run rest := by
  induction members generalizing before with
  | nil =>
    rw [moreMemberTokens, List.singleton_append, run_closeObject hdeep, List.map_nil,
      List.append_nil]
  | cons member members ih =>
    obtain ⟨name, value⟩ := member
    have hcomma : (⟨.object (heldMembers before) none :: stack, .commaOrClose, none⟩ : Builder).step
        .comma = some ⟨.object (heldMembers before) none :: stack, .name, none⟩ := rfl
    simp only [moreMemberTokens, List.cons_append, List.append_assoc, run_cons _ Token.comma,
      hcomma, Option.bind_some]
    rw [run_memberTokens (.inl rfl) (h (name, value) List.mem_cons_self),
      ih fun other hm => h other (List.mem_cons_of_mem _ hm)]
    simp

theorem run_objectTokens {members : List (String × Json)}
    (h : ∀ member ∈ members, Placed member.2 stack) (rest : List Token) :
    (⟨stack, .value, none⟩ : Builder).run ((Json.object members).tokens ++ rest)
      = (place stack (.object (members.map fun member =>
          (member.1, Document.ofJson member.2)))).run rest := by
  have hopen : (⟨stack, .value, none⟩ : Builder).step .openObject
      = some ⟨.object (heldMembers []) none :: stack, .nameOrClose, none⟩ := rfl
  cases members with
  | nil =>
    rw [tokens, List.cons_append, run_cons, hopen, Option.bind_some]
    exact run_closeObject hdeep [] rest
  | cons member members =>
    obtain ⟨name, value⟩ := member
    simp only [tokens, List.cons_append, List.append_assoc, run_cons _ Token.openObject, hopen,
      Option.bind_some]
    rw [run_memberTokens (.inr rfl) (h (name, value) List.mem_cons_self),
      run_moreMemberTokens hdeep fun other hm => h other (List.mem_cons_of_mem _ hm)]
    rfl

end

/-- The tokens of a value put the value where it stands, if its containers have room there. -/
theorem run_tokens {levels : Nat} {value : Json} (h : value.Exact levels) (stack : List Frame)
    (rest : List Token) (hdeep : levels + stack.length ≤ deepest) :
    (⟨stack, .value, none⟩ : Builder).run (value.tokens ++ rest)
      = (place stack (Document.ofJson value)).run rest := by
  -- inside a container the stack has one frame more and the value one level less
  induction h generalizing stack rest with
  | null => rfl
  | bool _ value => cases value <;> rfl
  | @integer _ n hn =>
    have hstep : (⟨stack, .value, none⟩ : Builder).step (.word (signed n))
        = some (place stack (.number (.integer n))) := by
      simp [step, Builder.value, documentOfWord?_signed hn]
    rw [tokens_integer, List.singleton_append, run_cons, hstep]
    rfl
  | string _ text =>
    have hstep : (⟨stack, .value, none⟩ : Builder).step (textToken text)
        = some (place stack (.string text)) := by
      rw [← documentOfCodes_toNat text]
      rfl
    rw [tokens, List.singleton_append, run_cons, hstep]
    rfl
  | @array levels items _ ih =>
    have hitems : ∀ item ∈ items, Placed item stack := fun item hm frame rest =>
      ih item hm (frame :: stack) rest (by rw [List.length_cons]; omega)
    rw [Document.ofJson_array]
    exact run_arrayTokens (by omega) hitems rest
  | @object levels members _ ih =>
    have hmembers : ∀ member ∈ members, Placed member.2 stack := fun member hm frame rest =>
      ih member hm (frame :: stack) rest (by rw [List.length_cons]; omega)
    rw [Document.ofJson_object]
    exact run_objectTokens (by omega) hmembers rest

end Builder

/-! ## Texts of values -/

theorem documentOfTokens?_tokens {value : Json} (h : value.Exact deepest) :
    documentOfTokens? value.tokens = some (Document.ofJson value) := by
  have hrun := Builder.run_tokens h [] [] (Nat.le_refl deepest)
  rw [List.append_nil] at hrun
  rw [documentOfTokens?, Builder.start, hrun]
  rfl

theorem read?_compact {value : Json} (h : value.Exact deepest) :
    read? value.compact = some (Document.ofJson value) := by
  have hscan : Token.scan value.compactChars = some value.tokens := by
    have htokens := scanned_compact h [] [] trivial
    rw [List.append_nil, List.append_nil, scanned_nil, List.reverse_reverse] at htokens
    exact htokens
  rw [read?, compact, String.toList_ofList, hscan]
  exact documentOfTokens?_tokens h

theorem read?_pretty {value : Json} (h : value.Exact deepest) :
    read? value.pretty = some (Document.ofJson value) := by
  have hscan : Token.scan (value.prettyChars 0) = some value.tokens := by
    have htokens := scanned_pretty h 0 [] [] trivial
    rw [List.append_nil, List.append_nil, scanned_nil, List.reverse_reverse] at htokens
    exact htokens
  rw [read?, pretty, String.toList_ofList, hscan]
  exact documentOfTokens?_tokens h

/-- A value comes back from both ways of writing it. -/
def ReadsBack {α : Type} (toJson : α → Json) (ofDocument? : Document → Option α) (value : α) :
    Prop :=
  (read? (toJson value).compact).bind ofDocument? = some value ∧
    (read? (toJson value).pretty).bind ofDocument? = some value

theorem ReadsBack.of_exact {α : Type} {toJson : α → Json} {ofDocument? : Document → Option α}
    {value : α} (h : (toJson value).Exact deepest)
    (hread : ofDocument? (.ofJson (toJson value)) = some value) :
    ReadsBack toJson ofDocument? value := by
  rw [ReadsBack, read?_compact h, read?_pretty h, Option.bind_some, and_self]
  exact hread

end AccessReport.Json
