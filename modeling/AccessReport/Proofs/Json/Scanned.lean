import AccessReport.Json.Printer
import AccessReport.Json.Reader
/-!
# Written values, token by token

Both ways of writing a value differ in blanks only, so that the scanner cuts them into the same
tokens. A number or a name such as `true` ends where something else begins: what follows a value
must not start with a character of a word.

* `Exact`: the values that are told apart by what is written of them.
* `scanned_quoted`: a quoted text is one token, with the code points of the text.
* `scanned_compact`, `scanned_pretty`: the tokens of a written value.
-/
namespace AccessReport.Json

open Numeric

/-- A value whose containers stand at most that many levels deep inside each other, and whose
numbers are whole and in range. -/
inductive Exact : Nat → Json → Prop where
  | null (levels : Nat) : Exact levels .null
  | bool (levels : Nat) (value : Bool) : Exact levels (.bool value)
  | integer (levels : Nat) {n : Int} (h : holdsInteger n = true) :
    Exact levels (.number (.integer n))
  | string (levels : Nat) (value : String) : Exact levels (.string value)
  | array {levels : Nat} {items : List Json} (h : ∀ item ∈ items, Exact levels item) :
    Exact (levels + 1) (.array items)
  | object {levels : Nat} {members : List (String × Json)}
    (h : ∀ member ∈ members, Exact levels member.2) : Exact (levels + 1) (.object members)

theorem Exact.mono {levels more : Nat} {value : Json} (h : Exact levels value)
    (hle : levels ≤ more) : Exact more value := by
  induction h generalizing more with
  | null => exact .null more
  | bool _ value => exact .bool more value
  | integer _ hn => exact .integer more hn
  | string _ value => exact .string more value
  | array _ ih =>
    obtain ⟨more, rfl⟩ : ∃ n, more = n + 1 := ⟨more - 1, by omega⟩
    exact .array fun item hm => ih item hm (by omega)
  | object _ ih =>
    obtain ⟨more, rfl⟩ : ∃ n, more = n + 1 := ⟨more - 1, by omega⟩
    exact .object fun member hm => ih member hm (by omega)

theorem Exact.array_iff {levels : Nat} {items : List Json} :
    Exact (levels + 1) (.array items) ↔ ∀ item ∈ items, Exact levels item := by
  refine ⟨fun h => ?_, .array⟩
  cases h
  assumption

theorem Exact.object_iff {levels : Nat} {members : List (String × Json)} :
    Exact (levels + 1) (.object members) ↔ ∀ member ∈ members, Exact levels member.2 := by
  refine ⟨fun h => ?_, .object⟩
  cases h
  assumption

/-! ## Tokens -/

/-- The token of a quoted text. -/
def textToken (text : String) : Token := .text (text.toList.map Char.toNat)

mutual

/-- The tokens of a value. -/
def tokens : Json → List Token
  | .array [] => [.openArray, .closeArray]
  | .array (item :: rest) => .openArray :: item.tokens ++ moreItemTokens rest
  | .object [] => [.openObject, .closeObject]
  | .object ((name, value) :: rest) =>
    .openObject :: textToken name :: .colon :: value.tokens ++ moreMemberTokens rest
  | .string value => [textToken value]
  | scalar => [.word (scalarText scalar)]

/-- The tokens of the items after the first, and of the closing bracket. -/
def moreItemTokens : List Json → List Token
  | [] => [.closeArray]
  | item :: rest => .comma :: item.tokens ++ moreItemTokens rest

/-- The tokens of the members after the first, and of the closing brace. -/
def moreMemberTokens : List (String × Json) → List Token
  | [] => [.closeObject]
  | (name, value) :: rest =>
    .comma :: textToken name :: .colon :: value.tokens ++ moreMemberTokens rest

end

/-- The tokens of a text that goes on between two tokens, after those that have been read, the
latest first. -/
def scanned (before : List Token) (cs : List Char) : Option (List Token) :=
  ((⟨.between, before⟩ : Scanner).run cs).bind Scanner.finish

/-- A word that stands before these characters ends there. -/
def Delimited : List Char → Prop
  | [] => True
  | c :: _ => Scanner.isWordChar c = false

/-- Wherever a word can end behind it, the text is cut into these tokens. -/
def CutInto (text : List Char) (tokens : List Token) : Prop :=
  ∀ before rest, Delimited rest →
    scanned before (text ++ rest) = scanned (tokens.reverse ++ before) rest

/-! ## Punctuation and blanks -/

theorem Scanner.run_cons (s : Scanner) (c : Char) (cs : List Char) :
    s.run (c :: cs) = (s.step c).bind (·.run cs) := by
  simp [Scanner.run, List.foldlM_cons]

theorem scanned_nil (before : List Token) : scanned before [] = some before.reverse := rfl

theorem scanned_cons {before after : List Token} {c : Char} (cs : List Char)
    (h : Scanner.between before c = some ⟨.between, after⟩) :
    scanned before (c :: cs) = scanned after cs := by
  have hstep : (⟨.between, before⟩ : Scanner).step c = some ⟨.between, after⟩ := h
  rw [scanned, Scanner.run_cons, hstep]
  rfl

theorem scanned_openArray (before : List Token) (cs : List Char) :
    scanned before ('[' :: cs) = scanned (.openArray :: before) cs := scanned_cons cs rfl

theorem scanned_closeArray (before : List Token) (cs : List Char) :
    scanned before (']' :: cs) = scanned (.closeArray :: before) cs := scanned_cons cs rfl

theorem scanned_openObject (before : List Token) (cs : List Char) :
    scanned before ('\x7b' :: cs) = scanned (.openObject :: before) cs := scanned_cons cs rfl

theorem scanned_closeObject (before : List Token) (cs : List Char) :
    scanned before ('\x7d' :: cs) = scanned (.closeObject :: before) cs := scanned_cons cs rfl

theorem scanned_comma (before : List Token) (cs : List Char) :
    scanned before (',' :: cs) = scanned (.comma :: before) cs := scanned_cons cs rfl

theorem scanned_colon (before : List Token) (cs : List Char) :
    scanned before (':' :: cs) = scanned (.colon :: before) cs := scanned_cons cs rfl

theorem scanned_space (before : List Token) (cs : List Char) :
    scanned before (' ' :: cs) = scanned before cs := scanned_cons cs rfl

theorem scanned_newLine (before : List Token) (level : Nat) (cs : List Char) :
    scanned before (newLine level ++ cs) = scanned before cs := by
  have hspaces : ∀ n, scanned before (List.replicate n ' ' ++ cs) = scanned before cs := by
    intro n
    induction n with
    | zero => rfl
    | succ n ih => rw [List.replicate_succ, List.cons_append, scanned_space, ih]
  have hline : scanned before ('\n' :: (List.replicate (2 * level) ' ' ++ cs))
      = scanned before (List.replicate (2 * level) ' ' ++ cs) := scanned_cons _ rfl
  rw [newLine, List.cons_append, hline, hspaces]

/-! ## Words -/

/-- What ends a word is read as if the word had ended before. -/
theorem Scanner.finish_inWord (before : List Token) (word rest : List Char) (h : Delimited rest) :
    ((⟨.inWord word, before⟩ : Scanner).run rest).bind Scanner.finish
      = scanned (.word word.reverse :: before) rest := by
  cases rest with
  | nil => rfl
  | cons c rest =>
    have hc : Scanner.isWordChar c = false := h
    have hstep : (⟨.inWord word, before⟩ : Scanner).step c
        = (⟨.between, .word word.reverse :: before⟩ : Scanner).step c := by
      simp [Scanner.step, hc]
    rw [scanned, Scanner.run_cons, Scanner.run_cons, hstep]

theorem Scanner.run_inWord (before : List Token) (word cs rest : List Char)
    (h : ∀ c ∈ cs, Scanner.isWordChar c = true) :
    (⟨.inWord word, before⟩ : Scanner).run (cs ++ rest)
      = (⟨.inWord (cs.reverse ++ word), before⟩ : Scanner).run rest := by
  induction cs generalizing word with
  | nil => rfl
  | cons c cs ih =>
    have hstep : (⟨.inWord word, before⟩ : Scanner).step c
        = some ⟨.inWord (c :: word), before⟩ := by
      simp [Scanner.step, h c List.mem_cons_self]
    rw [List.cons_append, Scanner.run_cons, hstep, Option.bind_some,
      ih (c :: word) fun d hd => h d (List.mem_cons_of_mem c hd), List.reverse_cons,
      List.append_assoc, List.singleton_append]

theorem Scanner.between_of_isWordChar (before : List Token) {c : Char}
    (h : Scanner.isWordChar c = true) : Scanner.between before c = some ⟨.inWord [c], before⟩ := by
  have hspace : Scanner.isSpace c = false := by
    rw [Bool.eq_false_iff]
    intro hs
    simp only [Scanner.isSpace, Bool.or_eq_true, beq_iff_eq] at hs
    rcases hs with ((rfl | rfl) | rfl) | rfl <;> exact absurd h (by decide)
  unfold Scanner.between
  split <;> first
    | exact absurd h (by decide)
    | simp [hspace, h]

theorem scanned_word (before : List Token) {word : List Char} (rest : List Char)
    (hne : word ≠ []) (h : ∀ c ∈ word, Scanner.isWordChar c = true) (hrest : Delimited rest) :
    scanned before (word ++ rest) = scanned (.word word :: before) rest := by
  obtain ⟨c, cs, rfl⟩ := List.exists_cons_of_ne_nil hne
  have hstep : (⟨.between, before⟩ : Scanner).step c = some ⟨.inWord [c], before⟩ :=
    Scanner.between_of_isWordChar before (h c List.mem_cons_self)
  rw [scanned, List.cons_append, Scanner.run_cons, hstep, Option.bind_some,
    Scanner.run_inWord before [c] cs rest fun d hd => h d (List.mem_cons_of_mem c hd),
    Scanner.finish_inWord before _ rest hrest]
  simp

/-! ## Quoted texts -/

theorem hexValue?_hexDigit {digit : Nat} (h : digit < 16) :
    hexValue? (hexDigit digit) = some digit := by
  have hall : ∀ i : Fin 16, hexValue? (hexDigit i.val) = some i.val := by decide
  exact hall ⟨digit, h⟩

/-- An escaped control character is read as its code point. -/
theorem Scanner.run_unicode (before : List Token) (codes : List Nat) {code : Nat} (rest : List Char)
    (h : code < 256) :
    (⟨.inText codes, before⟩ : Scanner).run
        ('\\' :: 'u' :: '0' :: '0' :: hexDigit (code / 16) :: hexDigit (code % 16) :: rest)
      = (⟨.inText (code :: codes), before⟩ : Scanner).run rest := by
  have hhigh : hexValue? (hexDigit (code / 16)) = some (code / 16) :=
    hexValue?_hexDigit (by omega)
  have hlow : hexValue? (hexDigit (code % 16)) = some (code % 16) :=
    hexValue?_hexDigit (by omega)
  have hzero : hexValue? '0' = some 0 := by decide
  have hcode : 16 * (code / 16) + code % 16 = code := by omega
  simp [Scanner.run_cons, Scanner.step, hzero, hhigh, hlow, hcode]

theorem Scanner.run_escaped (before : List Token) (codes : List Nat) (c : Char)
    (rest : List Char) :
    (⟨.inText codes, before⟩ : Scanner).run (escaped c ++ rest)
      = (⟨.inText (c.toNat :: codes), before⟩ : Scanner).run rest := by
  unfold escaped
  split
  case h_8 hquote hback _ _ _ _ _ =>
    split
    · rename_i hlow
      exact Scanner.run_unicode before codes rest (by omega)
    · rename_i hlow
      have hstep : (⟨.inText codes, before⟩ : Scanner).step c
          = some ⟨.inText (c.toNat :: codes), before⟩ := by
        simp only [Scanner.step]
        rw [if_neg hquote, if_neg hback, if_neg hlow]
      rw [List.singleton_append, Scanner.run_cons, hstep, Option.bind_some]
  all_goals rfl

theorem Scanner.run_quotedInside (before : List Token) (codes : List Nat) (cs rest : List Char) :
    (⟨.inText codes, before⟩ : Scanner).run (quotedInside cs ++ rest)
      = (⟨.inText ((cs.map Char.toNat).reverse ++ codes), before⟩ : Scanner).run rest := by
  induction cs generalizing codes with
  | nil => rfl
  | cons c cs ih =>
    have hcons : quotedInside (c :: cs) = escaped c ++ quotedInside cs := List.flatMap_cons
    rw [hcons, List.append_assoc, Scanner.run_escaped, ih, List.map_cons, List.reverse_cons,
      List.append_assoc, List.singleton_append]

theorem scanned_quoted (before : List Token) (text : String) (rest : List Char) :
    scanned before (quoted text ++ rest) = scanned (textToken text :: before) rest := by
  have hopen : (⟨.between, before⟩ : Scanner).step '"' = some ⟨.inText [], before⟩ := rfl
  have hclose : ∀ codes, (⟨.inText codes, before⟩ : Scanner).step '"'
      = some ⟨.between, .text codes.reverse :: before⟩ := fun _ => rfl
  rw [scanned, quoted, List.cons_append, List.cons_append, List.append_assoc, Scanner.run_cons,
    hopen, Option.bind_some, Scanner.run_quotedInside, List.singleton_append, Scanner.run_cons,
    hclose, Option.bind_some, List.append_nil, List.reverse_reverse]
  rfl

/-! ## Values -/

theorem isWordChar_of_isDigit {c : Char} (h : c.isDigit = true) :
    Scanner.isWordChar c = true := by
  simp [Scanner.isWordChar, Char.isAlphanum, h]

theorem isWordChar_signed (n : Int) : ∀ c ∈ signed n, Scanner.isWordChar c = true := by
  intro c hc
  unfold signed at hc
  split at hc
  · exact isWordChar_of_isDigit (digits_isDigit _ c hc)
  · rcases List.mem_cons.mp hc with rfl | hc
    · decide
    · exact isWordChar_of_isDigit (digits_isDigit _ c hc)

theorem signed_ne_nil (n : Int) : signed n ≠ [] := by
  unfold signed
  split
  · exact digits_ne_nil _
  · exact List.cons_ne_nil _ _

theorem tokens_integer (n : Int) :
    tokens (.number (.integer n)) = [.word (signed n)] := by
  simp [tokens, scalarText, Number.text]

section
variable (before : List Token) (rest : List Char)

theorem scanned_integer (n : Int) (hrest : Delimited rest) :
    scanned before (signed n ++ rest)
      = scanned ((tokens (.number (.integer n))).reverse ++ before) rest := by
  rw [tokens_integer]
  exact scanned_word before rest (signed_ne_nil n) (isWordChar_signed n) hrest

theorem scanned_null (hrest : Delimited rest) :
    scanned before (scalarText .null ++ rest)
      = scanned ((tokens .null).reverse ++ before) rest :=
  scanned_word before rest (List.cons_ne_nil _ _) (List.all_eq_true.mp rfl) hrest

theorem scanned_bool (value : Bool) (hrest : Delimited rest) :
    scanned before (scalarText (.bool value) ++ rest)
      = scanned ((tokens (.bool value)).reverse ++ before) rest := by
  cases value <;>
    exact scanned_word before rest (List.cons_ne_nil _ _) (List.all_eq_true.mp rfl) hrest

end

/-! ## Written without blanks -/

section
variable {levels : Nat}

theorem scanned_compactMoreItems {items : List Json}
    (h : ∀ item ∈ items, CutInto item.compactChars item.tokens)
    (before : List Token) (rest : List Char) :
    scanned before (compactMoreItems items ++ rest)
      = scanned ((moreItemTokens items).reverse ++ before) rest := by
  induction items generalizing before with
  | nil => exact scanned_closeArray before rest
  | cons item items ih =>
    have hrest : Delimited (compactMoreItems items ++ rest) := by
      cases items <;> exact rfl
    have htail := ih fun other hm => h other (List.mem_cons_of_mem item hm)
    rw [compactMoreItems, List.cons_append, List.cons_append, scanned_comma, List.append_assoc,
      h item List.mem_cons_self _ _ hrest, htail, moreItemTokens]
    simp

theorem scanned_compactMoreMembers {members : List (String × Json)}
    (h : ∀ member ∈ members, CutInto member.2.compactChars member.2.tokens)
    (before : List Token) (rest : List Char) :
    scanned before (compactMoreMembers members ++ rest)
      = scanned ((moreMemberTokens members).reverse ++ before) rest := by
  induction members generalizing before with
  | nil => exact scanned_closeObject before rest
  | cons member members ih =>
    obtain ⟨name, value⟩ := member
    have hrest : Delimited (compactMoreMembers members ++ rest) := by
      cases members <;> exact rfl
    have htail := ih fun other hm => h other (List.mem_cons_of_mem _ hm)
    have hvalue := h (name, value) List.mem_cons_self
    simp only [compactMoreMembers, List.cons_append, List.append_assoc, scanned_comma,
      scanned_quoted, scanned_colon, moreMemberTokens]
    rw [hvalue _ _ hrest, htail]
    simp

theorem scanned_compact {value : Json} (h : value.Exact levels) :
    CutInto value.compactChars value.tokens := by
  intro before rest hrest
  induction h generalizing before rest with
  | null => exact scanned_null before rest hrest
  | bool _ value => exact scanned_bool before rest value hrest
  | @integer _ n _ => exact scanned_integer before rest n hrest
  | string _ value => exact scanned_quoted before value rest
  | @array _ items _ ih =>
    cases items with
    | nil => exact (scanned_openArray before _).trans (scanned_closeArray _ rest)
    | cons item items =>
      have htail : Delimited (compactMoreItems items ++ rest) := by
        cases items <;> exact rfl
      have hitems := scanned_compactMoreItems fun other hm before rest =>
        ih other (List.mem_cons_of_mem item hm) before rest
      simp only [compactChars, compactItems, List.cons_append, List.append_assoc,
        scanned_openArray, tokens]
      rw [ih item List.mem_cons_self _ _ htail, hitems]
      simp
  | @object _ members _ ih =>
    cases members with
    | nil => exact (scanned_openObject before _).trans (scanned_closeObject _ rest)
    | cons member members =>
      obtain ⟨name, value⟩ := member
      have htail : Delimited (compactMoreMembers members ++ rest) := by
        cases members <;> exact rfl
      have hmembers := scanned_compactMoreMembers fun other hm before rest =>
        ih other (List.mem_cons_of_mem _ hm) before rest
      have hvalue := ih (name, value) List.mem_cons_self
      simp only [compactChars, compactMembers, List.cons_append, List.append_assoc,
        scanned_openObject, scanned_quoted, scanned_colon, tokens]
      rw [hvalue _ _ htail, hmembers]
      simp

/-! ## Written with one item a line -/

theorem scanned_prettyMoreItems {items : List Json} (level : Nat)
    (h : ∀ item ∈ items, CutInto (item.prettyChars (level + 1)) item.tokens)
    (before : List Token) (rest : List Char) :
    scanned before (prettyMoreItems level items ++ rest)
      = scanned ((moreItemTokens items).reverse ++ before) rest := by
  induction items generalizing before with
  | nil =>
    rw [prettyMoreItems, List.append_assoc, scanned_newLine]
    exact scanned_closeArray before rest
  | cons item items ih =>
    have hrest : Delimited (prettyMoreItems level items ++ rest) := by
      cases items <;> exact rfl
    have htail := ih fun other hm => h other (List.mem_cons_of_mem item hm)
    simp only [prettyMoreItems, List.cons_append, List.append_assoc, scanned_comma,
      scanned_newLine, moreItemTokens]
    rw [h item List.mem_cons_self _ _ hrest, htail]
    simp

theorem scanned_prettyMoreMembers {members : List (String × Json)} (level : Nat)
    (h : ∀ member ∈ members, CutInto (member.2.prettyChars (level + 1)) member.2.tokens)
    (before : List Token) (rest : List Char) :
    scanned before (prettyMoreMembers level members ++ rest)
      = scanned ((moreMemberTokens members).reverse ++ before) rest := by
  induction members generalizing before with
  | nil =>
    rw [prettyMoreMembers, List.append_assoc, scanned_newLine]
    exact scanned_closeObject before rest
  | cons member members ih =>
    obtain ⟨name, value⟩ := member
    have hrest : Delimited (prettyMoreMembers level members ++ rest) := by
      cases members <;> exact rfl
    have htail := ih fun other hm => h other (List.mem_cons_of_mem _ hm)
    have hvalue := h (name, value) List.mem_cons_self
    simp only [prettyMoreMembers, List.cons_append, List.append_assoc, scanned_comma,
      scanned_newLine, scanned_quoted, scanned_colon, scanned_space, moreMemberTokens]
    rw [hvalue _ _ hrest, htail]
    simp

theorem scanned_pretty {value : Json} (h : value.Exact levels) (level : Nat) :
    CutInto (value.prettyChars level) value.tokens := by
  intro before rest hrest
  induction h generalizing level before rest with
  | null => exact scanned_null before rest hrest
  | bool _ value => exact scanned_bool before rest value hrest
  | @integer _ n _ => exact scanned_integer before rest n hrest
  | string _ value => exact scanned_quoted before value rest
  | @array _ items _ ih =>
    cases items with
    | nil => exact (scanned_openArray before _).trans (scanned_closeArray _ rest)
    | cons item items =>
      have htail : Delimited (prettyMoreItems level items ++ rest) := by
        cases items <;> exact rfl
      have hitems := scanned_prettyMoreItems level fun other hm before rest =>
        ih other (List.mem_cons_of_mem item hm) (level + 1) before rest
      simp only [prettyChars, List.cons_append, List.append_assoc, scanned_openArray,
        scanned_newLine, tokens]
      rw [ih item List.mem_cons_self _ _ _ htail, hitems]
      simp
  | @object _ members _ ih =>
    cases members with
    | nil => exact (scanned_openObject before _).trans (scanned_closeObject _ rest)
    | cons member members =>
      obtain ⟨name, value⟩ := member
      have htail : Delimited (prettyMoreMembers level members ++ rest) := by
        cases members <;> exact rfl
      have hmembers := scanned_prettyMoreMembers level fun other hm before rest =>
        ih other (List.mem_cons_of_mem _ hm) (level + 1) before rest
      have hvalue := ih (name, value) List.mem_cons_self
      simp only [prettyChars, List.cons_append, List.append_assoc, scanned_openObject,
        scanned_newLine, scanned_quoted, scanned_colon, scanned_space, tokens]
      rw [hvalue _ _ _ htail, hmembers]
      simp

end

end AccessReport.Json
