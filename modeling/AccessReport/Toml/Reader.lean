import AccessReport.Toml.Scalar
import AccessReport.Toml.Table
/-!
# Reading TOML texts

A text is read statement by statement; the statements then build the tables. Every reader takes
the characters that are left and gives back what it read and what is left after it, or nothing if
the text is not TOML.

Lines end with a line feed, alone or behind a carriage return; in strings over several lines both
become a line feed. Arrays and inline tables may stand inside each other up to `deepest` levels,
and a key may have as many parts.

Results:
* `skipTrivia_length_le`, `statement?_shrinks`: reading makes progress, so it ends.
-/
namespace AccessReport.Toml

open Numeric

/-! ## Characters -/

def isSpace (c : Char) : Bool := c == ' ' || c == '\t'

/-- The characters of comments and, apart from quotes and backslashes, of strings: no control
characters but the tab. -/
def isPlain (c : Char) : Bool := c == '\t' || (0x20 ≤ c.toNat && c.toNat != 0x7F)

def isKeyChar (c : Char) : Bool := c.isAlphanum || c == '_' || c == '-'

/-- The characters of numbers, truth values, dates and times. -/
def isWordChar (c : Char) : Bool :=
  c.isAlphanum || c == '_' || c == '-' || c == '+' || c == '.' || c == ':'

def skipSpace (cs : List Char) : List Char := cs.dropWhile isSpace

/-- What is left after a comment, up to the end of the line. -/
def skipComment : List Char → List Char
  | '#' :: rest => rest.dropWhile isPlain
  | cs => cs

/-- What is left after the end of a line. -/
def afterNewline? : List Char → Option (List Char)
  | '\n' :: rest => some rest
  | '\r' :: '\n' :: rest => some rest
  | _ => none

/-- What is left after the end of a statement: blanks, perhaps a comment, and the end of the line
or of the text. -/
def afterLine? (cs : List Char) : Option (List Char) :=
  match skipComment (skipSpace cs) with
  | [] => some []
  | cs => afterNewline? cs

theorem skipSpace_length_le (cs : List Char) : (skipSpace cs).length ≤ cs.length :=
  (List.dropWhile_suffix _).length_le

theorem skipComment_length_le (cs : List Char) : (skipComment cs).length ≤ cs.length := by
  unfold skipComment
  split
  · rename_i rest
    have := (List.dropWhile_suffix (l := rest) isPlain).length_le
    simp only [List.length_cons]
    omega
  · exact Nat.le_refl _

theorem afterNewline?_length {cs rest : List Char} (h : afterNewline? cs = some rest) :
    rest.length < cs.length := by
  unfold afterNewline? at h
  split at h
  · cases h; simp
  · cases h; simp only [List.length_cons]; omega
  · cases h

/-- What is left after blanks, comments and ends of lines. -/
def skipTrivia (cs : List Char) : List Char :=
  match _h : afterNewline? (skipComment (skipSpace cs)) with
  | none => skipComment (skipSpace cs)
  | some rest => skipTrivia rest
termination_by cs.length
decreasing_by
  have := afterNewline?_length _h
  have := skipSpace_length_le cs
  have := skipComment_length_le (skipSpace cs)
  omega

theorem skipTrivia_length_le (cs : List Char) : (skipTrivia cs).length ≤ cs.length := by
  have hs := skipSpace_length_le cs
  have hc := skipComment_length_le (skipSpace cs)
  rw [skipTrivia]
  split
  · omega
  · rename_i rest h
    have hn := afterNewline?_length h
    have ih := skipTrivia_length_le rest
    omega
termination_by cs.length

/-! ## Strings -/

/-- The character of an escape with one letter. -/
def shortEscape? : Char → Option Char
  | 'b' => some '\x08'
  | 't' => some '\t'
  | 'n' => some '\n'
  | 'f' => some '\x0c'
  | 'r' => some '\r'
  | '"' => some '"'
  | '\\' => some '\\'
  | _ => none

/-- The character whose code point a row of hexadecimal digits gives. -/
def hexChar? (digits : List Char) : Option Char := do
  let values ← digits.mapM hexValue?
  let code := valueIn 16 values
  if code.isValidChar then some (Char.ofNat code) else none

/-- What is read with one more character in front. -/
def withChar (c : Char) (read : Option (List Char × List Char)) : Option (List Char × List Char) :=
  read.map fun read => (c :: read.1, read.2)

/-- A string on one line, behind its opening quote. -/
def basicString? : List Char → Option (List Char × List Char)
  | [] => none
  | '"' :: rest => some ([], rest)
  | '\\' :: 'u' :: a :: b :: c :: d :: rest => do
    withChar (← hexChar? [a, b, c, d]) (basicString? rest)
  | '\\' :: 'U' :: a :: b :: c :: d :: e :: f :: g :: h :: rest => do
    withChar (← hexChar? [a, b, c, d, e, f, g, h]) (basicString? rest)
  | '\\' :: c :: rest => do withChar (← shortEscape? c) (basicString? rest)
  | c :: rest => if isPlain c && c != '\\' then withChar c (basicString? rest) else none

/-- A string without escapes on one line, behind its opening quote. -/
def literalString? : List Char → Option (List Char × List Char)
  | [] => none
  | '\'' :: rest => some ([], rest)
  | c :: rest => if isPlain c then withChar c (literalString? rest) else none

/-- Where a string over several lines stands: among its characters, or behind a backslash that
ends a line, before or after the end of that line. -/
inductive Trimming where
  | off
  | untilNewline
  | skipping
deriving DecidableEq

/-- A string over several lines, behind its opening quotes. Up to two quotes may stand inside, also
right before the closing ones. A backslash at the end of a line removes all blanks and line ends
that follow it. -/
def multilineString? (trimming : Trimming) : List Char → Option (List Char × List Char)
  | [] => none
  | '\n' :: rest =>
    if trimming = .off then withChar '\n' (multilineString? .off rest)
    else multilineString? .skipping rest
  | '\r' :: '\n' :: rest =>
    if trimming = .off then withChar '\n' (multilineString? .off rest)
    else multilineString? .skipping rest
  | c :: rest =>
    if trimming ≠ .off ∧ isSpace c = true then multilineString? trimming rest
    else if trimming = .untilNewline then none
    else match c, rest with
      | '"', '"' :: '"' :: '"' :: '"' :: rest => some (['"', '"'], rest)
      | '"', '"' :: '"' :: '"' :: rest => some (['"'], rest)
      | '"', '"' :: '"' :: rest => some ([], rest)
      | '\\', 'u' :: a :: b :: c :: d :: rest => do
        withChar (← hexChar? [a, b, c, d]) (multilineString? .off rest)
      | '\\', 'U' :: a :: b :: c :: d :: e :: f :: g :: h :: rest => do
        withChar (← hexChar? [a, b, c, d, e, f, g, h]) (multilineString? .off rest)
      | '\\', '\r' :: '\n' :: rest => multilineString? .skipping rest
      | '\\', c :: rest =>
        if c = '\n' then multilineString? .skipping rest
        else if isSpace c then multilineString? .untilNewline rest
        else do withChar (← shortEscape? c) (multilineString? .off rest)
      | c, rest =>
        if isPlain c && c != '\\' then withChar c (multilineString? .off rest) else none

/-- A string without escapes over several lines, behind its opening quotes. -/
def multilineLiteral? : List Char → Option (List Char × List Char)
  | [] => none
  | '\'' :: '\'' :: '\'' :: '\'' :: '\'' :: rest => some (['\'', '\''], rest)
  | '\'' :: '\'' :: '\'' :: '\'' :: rest => some (['\''], rest)
  | '\'' :: '\'' :: '\'' :: rest => some ([], rest)
  | '\n' :: rest => withChar '\n' (multilineLiteral? rest)
  | '\r' :: '\n' :: rest => withChar '\n' (multilineLiteral? rest)
  | c :: rest => if isPlain c then withChar c (multilineLiteral? rest) else none

/-- The characters without one end of a line at the front. -/
def dropNewline (cs : List Char) : List Char := (afterNewline? cs).getD cs

/-- A string of any of the four kinds, with its opening quotes. -/
def string? : List Char → Option (List Char × List Char)
  | '"' :: '"' :: '"' :: rest => multilineString? .off (dropNewline rest)
  | '"' :: rest => basicString? rest
  | '\'' :: '\'' :: '\'' :: rest => multilineLiteral? (dropNewline rest)
  | '\'' :: rest => literalString? rest
  | _ => none

/-! ## Keys -/

/-- How deeply values may be nested, and how many parts a key may have. -/
def deepest : Nat := 80

/-- One part of a key: quoted on one line, or a row of letters, digits, underscores and
hyphens. -/
def keyPart? (cs : List Char) : Option (String × List Char) :=
  match cs with
  | '"' :: rest => (basicString? rest).map fun read => (String.ofList read.1, read.2)
  | '\'' :: rest => (literalString? rest).map fun read => (String.ofList read.1, read.2)
  | cs =>
    let name := cs.takeWhile isKeyChar
    if name.isEmpty then none else some (String.ofList name, cs.dropWhile isKeyChar)

/-- The parts of a key, with points between them and blanks around them. -/
def keyParts? (cs : List Char) : Option (List String × List Char) := do
  let (part, left) ← keyPart? (skipSpace cs)
  match skipSpace left with
  | '.' :: rest =>
    if rest.length < cs.length then do
      let (parts, left) ← keyParts? rest
      pure (part :: parts, left)
    else none
  | rest => pure ([part], rest)
termination_by cs.length

def key? (cs : List Char) : Option (List String × List Char) := do
  let (parts, rest) ← keyParts? cs
  if parts.length ≤ deepest then some (parts, rest) else none

/-! ## Values -/

/-- The items of an array behind its opening bracket or a comma, and the closing bracket. -/
def arrayItems? (value? : List Char → Option (Document × List Char)) (cs : List Char) :
    Option (List Document × List Char) :=
  match skipTrivia cs with
  | ']' :: rest => some ([], rest)
  | start => do
    let (item, left) ← value? start
    match skipTrivia left with
    | ']' :: rest => some ([item], rest)
    | ',' :: rest =>
      if rest.length < cs.length then do
        let (items, left) ← arrayItems? value? rest
        some (item :: items, left)
      else none
    | _ => none
termination_by cs.length

/-- A key, an equals sign and a value. -/
def keyValue? (value? : List Char → Option (Document × List Char)) (cs : List Char) :
    Option ((List String × Document) × List Char) := do
  let (path, rest) ← key? cs
  match rest with
  | '=' :: rest =>
    let (value, rest) ← value? (skipSpace rest)
    pure ((path, value), rest)
  | _ => none

/-- The assignments of an inline table behind its opening brace or a comma, and the closing
brace. -/
def inlineItems? (value? : List Char → Option (Document × List Char)) (cs : List Char) :
    Option (List (List String × Document) × List Char) := do
  let (assignment, left) ← keyValue? value? cs
  match skipSpace left with
  | '\x7d' :: rest => some ([assignment], rest)
  | ',' :: rest =>
    if rest.length < cs.length then do
      let (assignments, left) ← inlineItems? value? rest
      some (assignment :: assignments, left)
    else none
  | _ => none
termination_by cs.length

/-- A value without quotes and brackets. A time may follow a date behind a blank. -/
def word? (cs : List Char) : Option (Document × List Char) :=
  let word := cs.takeWhile isWordChar
  let rest := cs.dropWhile isWordChar
  match rest with
  | ' ' :: next :: more =>
    if isDate word && next.isDigit then
      let time := (next :: more).takeWhile isWordChar
      (ofWord? (word ++ ' ' :: time)).map fun document =>
        (document, (next :: more).dropWhile isWordChar)
    else (ofWord? word).map fun document => (document, rest)
  | rest => (ofWord? word).map fun document => (document, rest)

/-- A value, inside at most that many further levels of arrays and inline tables. -/
def value? (levels : Nat) (cs : List Char) : Option (Document × List Char) :=
  match cs with
  | '[' :: rest =>
    match levels with
    | 0 => none
    | levels + 1 =>
      (arrayItems? (value? levels) rest).map fun read => (.array read.1, read.2)
  | '\x7b' :: rest =>
    match levels with
    | 0 => none
    | levels + 1 =>
      match skipSpace rest with
      | '\x7d' :: rest => some (.object [], rest)
      | _ => do
        let (assignments, rest) ← inlineItems? (value? levels) rest
        let document ← inlineDocument? assignments
        pure (document, rest)
  | c :: rest =>
    if c = '"' || c = '\'' then
      (string? (c :: rest)).map fun read => (.string (String.ofList read.1), read.2)
    else word? (c :: rest)
  | [] => none

/-! ## Statements -/

/-- The path of a header, between its brackets. -/
def header? : List Char → Option (Statement × List Char)
  | '[' :: '[' :: rest => do
    match ← key? rest with
    | (path, ']' :: ']' :: rest) => some (.element path, rest)
    | _ => none
  | '[' :: rest => do
    match ← key? rest with
    | (path, ']' :: rest) => some (.table path, rest)
    | _ => none
  | _ => none

/-- A statement without the end of its line. -/
def statementText? (cs : List Char) : Option (Statement × List Char) :=
  match cs with
  | '[' :: _ => header? cs
  | cs => (keyValue? (value? deepest) cs).map fun read => (.assignment read.1.1 read.1.2, read.2)

/-- A statement with the end of its line. -/
def statement? (cs : List Char) : Option (Statement × List Char) := do
  let (statement, left) ← statementText? cs
  let rest ← afterLine? left
  if rest.length < cs.length then some (statement, rest) else none

theorem statement?_shrinks {cs rest : List Char} {statement : Statement}
    (h : statement? cs = some (statement, rest)) : rest.length < cs.length := by
  simp only [statement?, Option.bind_eq_bind, Option.bind_eq_some_iff] at h
  obtain ⟨read, -, left, -, hr⟩ := h
  split at hr
  · rename_i hlt
    simp only [Option.some.injEq, Prod.mk.injEq] at hr
    rw [← hr.2]
    exact hlt
  · cases hr

/-- All statements of a text. -/
def statements? (cs : List Char) : Option (List Statement) :=
  match hs : skipTrivia cs with
  | [] => some []
  | c :: start =>
    match h : statement? (c :: start) with
    | none => none
    | some (statement, rest) =>
      have := statement?_shrinks h
      have := hs ▸ skipTrivia_length_le cs
      (statements? rest).map (statement :: ·)
termination_by cs.length
decreasing_by omega

/-- The characters without a byte order mark at the front. -/
def dropMark : List Char → List Char
  | '\ufeff' :: rest => rest
  | cs => cs

/-- The document that a text spells; `none` if it is not TOML. -/
def read? (text : String) : Option Document := do
  documentOf? (← statements? (dropMark text.toList))

/-- The empty payloads of TOML texts. -/
def emptyPayload : Document.Payload
  | .array [] => true
  | .object [] => true
  | _ => false

end AccessReport.Toml
