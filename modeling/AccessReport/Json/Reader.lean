import AccessReport.Json.Document
/-!
# Reading JSON texts

A text is read in two passes, each over one item at a time. `Token.scan` cuts the characters into
tokens; `Builder` assembles tokens into a document, with the open containers on a stack.

Strict JSON: blanks are space, tab, line feed and carriage return; no control characters in
strings; nothing after the value. Beyond that a part may be well formed but `unusable`:

* a number that rounds beyond the floating point range,
* a string, or a member name, with half of a surrogate pair,
* a container inside `deepest` others.
-/
namespace AccessReport.Json

open Numeric

/-! ## Numbers -/

/-- The parts of a written number. -/
structure NumberText where
  negative : Bool
  whole : List Char
  fraction : List Char
  /-- Sign and digits of the exponent, if there is one. -/
  exponent : Option (Bool × List Char)

/-- The digits at the front, and the rest. -/
def spanDigits (cs : List Char) : List Char × List Char :=
  (cs.takeWhile Char.isDigit, cs.dropWhile Char.isDigit)

/-- The fractional digits behind a point, at least one; without a point there are none. -/
def fractionText? (cs : List Char) : Option (List Char × List Char) :=
  match cs with
  | '.' :: rest =>
    let (digits, rest) := spanDigits rest
    if digits.isEmpty then none else some (digits, rest)
  | cs => some ([], cs)

/-- The exponent, which ends the number. -/
def exponentText? (cs : List Char) : Option (Option (Bool × List Char)) :=
  let behindMark (cs : List Char) : Option (Option (Bool × List Char)) :=
    let (negative, cs) := match cs with
      | '-' :: rest => (true, rest)
      | '+' :: rest => (false, rest)
      | cs => (false, cs)
    if !cs.isEmpty && cs.all Char.isDigit then some (some (negative, cs)) else none
  match cs with
  | [] => some none
  | 'e' :: rest => behindMark rest
  | 'E' :: rest => behindMark rest
  | _ => none

/-- The parts of a number, if the characters are one. -/
def numberText? (cs : List Char) : Option NumberText := do
  let (negative, cs) := match cs with
    | '-' :: rest => (true, rest)
    | cs => (false, cs)
  let (whole, cs) := spanDigits cs
  match whole with
  | [] => none
  | '0' :: _ :: _ => none
  | whole =>
    let (fraction, cs) ← fractionText? cs
    let exponent ← exponentText? cs
    pure { negative, whole, fraction, exponent }

/-- The greatest significand: 64 bits. -/
def greatestSignificand : Nat := 0xFFFFFFFFFFFFFFFF

/-- The digits taken into a significand, and how many are left over. From the first digit on that
makes the significand too great, all are left over. -/
def takeDigits (significand : Nat) : List Char → Nat × Nat
  | [] => (significand, 0)
  | c :: rest =>
    let longer := 10 * significand + digitValue c
    if longer ≤ greatestSignificand then takeDigits longer rest
    else (significand, rest.length + 1)

/-- The floating point value of a written number. -/
def NumberText.float? (n : NumberText) : Option Binary64 :=
  let (whole, left) := takeDigits 0 n.whole
  let (significand, dropped) := takeDigits whole n.fraction
  let written : Int := match n.exponent with
    | none => 0
    | some (true, digits) => -(valueOf digits : Int)
    | some (false, digits) => valueOf digits
  let taken : Int := (n.fraction.length - dropped : Nat)
  (Binary64.ofDecimal significand (left - taken + written)).map fun magnitude =>
    if n.negative then magnitude.neg else magnitude

/-- A number without point and exponent is whole if it is in range and not a negative zero. -/
def NumberText.number? (n : NumberText) : Option Number :=
  let magnitude : Int := valueOf n.whole
  let value := if n.negative then -magnitude else magnitude
  let isWhole := n.fraction.isEmpty && n.exponent.isNone && holdsInteger value
    && !(n.negative && magnitude == 0)
  if isWhole then some (.integer value) else n.float?.map .float

/-! ## Strings -/

def isHighSurrogate (code : Nat) : Bool := 0xD800 ≤ code && code ≤ 0xDBFF

def isLowSurrogate (code : Nat) : Bool := 0xDC00 ≤ code && code ≤ 0xDFFF

/-- The characters of a row of code points in which a surrogate pair stands for one character;
`none` if half a pair is left. -/
def charsOfCodes? : List Nat → Option (List Char)
  | [] => some []
  | code :: rest =>
    if isHighSurrogate code then
      match rest with
      | low :: rest =>
        if isLowSurrogate low then
          (charsOfCodes? rest).map
            (Char.ofNat (0x10000 + (code - 0xD800) * 0x400 + (low - 0xDC00)) :: ·)
        else none
      | [] => none
    else if isLowSurrogate code then none
    else (charsOfCodes? rest).map (Char.ofNat code :: ·)

def textOfCodes? (codes : List Nat) : Option String :=
  (charsOfCodes? codes).map String.ofList

/-! ## Tokens -/

inductive Token where
  | openArray
  | closeArray
  | openObject
  | closeObject
  | comma
  | colon
  /-- A row of characters such as `true` or `-1.5`. -/
  | word (cs : List Char)
  /-- The code points of a string. -/
  | text (codes : List Nat)
deriving DecidableEq, Repr

/-- Where the scanner stands between two characters. What has been read of a token is in
reverse. -/
inductive Scanner.Mode where
  | between
  | inWord (cs : List Char)
  | inText (codes : List Nat)
  | afterBackslash (codes : List Nat)
  /-- In the four digits of a code point: how many are missing, and their value so far. -/
  | inCode (codes : List Nat) (missing : Nat) (value : Nat)
deriving DecidableEq, Repr

/-- The scanner with the tokens read so far, the latest first. -/
structure Scanner where
  mode : Scanner.Mode
  tokens : List Token
deriving DecidableEq, Repr

namespace Scanner

def start : Scanner := ⟨.between, []⟩

def isSpace (c : Char) : Bool := c == ' ' || c == '\t' || c == '\n' || c == '\r'

/-- The characters of numbers and of the words `true`, `false` and `null`. -/
def isWordChar (c : Char) : Bool := c.isAlphanum || c == '+' || c == '-' || c == '.'

/-- The code point of an escape with one character. -/
def shortEscape? : Char → Option Nat
  | '"' => some 0x22
  | '\\' => some 0x5C
  | '/' => some 0x2F
  | 'b' => some 0x08
  | 'f' => some 0x0C
  | 'n' => some 0x0A
  | 'r' => some 0x0D
  | 't' => some 0x09
  | _ => none

/-- A character outside words and strings. -/
def between (tokens : List Token) (c : Char) : Option Scanner :=
  match c with
  | '[' => some ⟨.between, .openArray :: tokens⟩
  | ']' => some ⟨.between, .closeArray :: tokens⟩
  | '\x7b' => some ⟨.between, .openObject :: tokens⟩
  | '\x7d' => some ⟨.between, .closeObject :: tokens⟩
  | ',' => some ⟨.between, .comma :: tokens⟩
  | ':' => some ⟨.between, .colon :: tokens⟩
  | '"' => some ⟨.inText [], tokens⟩
  | c =>
    if isSpace c then some ⟨.between, tokens⟩
    else if isWordChar c then some ⟨.inWord [c], tokens⟩
    else none

def step (s : Scanner) (c : Char) : Option Scanner :=
  match s.mode with
  | .between => between s.tokens c
  | .inWord cs =>
    if isWordChar c then some ⟨.inWord (c :: cs), s.tokens⟩
    else between (.word cs.reverse :: s.tokens) c
  | .inText codes =>
    if c = '"' then some ⟨.between, .text codes.reverse :: s.tokens⟩
    else if c = '\\' then some ⟨.afterBackslash codes, s.tokens⟩
    else if c.toNat < 0x20 then none
    else some ⟨.inText (c.toNat :: codes), s.tokens⟩
  | .afterBackslash codes =>
    if c = 'u' then some ⟨.inCode codes 4 0, s.tokens⟩
    else (shortEscape? c).map fun code => ⟨.inText (code :: codes), s.tokens⟩
  | .inCode codes missing value =>
    (hexValue? c).map fun digit =>
      let value := 16 * value + digit
      if missing ≤ 1 then ⟨.inText (value :: codes), s.tokens⟩
      else ⟨.inCode codes (missing - 1) value, s.tokens⟩

def run (s : Scanner) (cs : List Char) : Option Scanner :=
  cs.foldlM step s

/-- The tokens at the end of the text; a string must be closed. -/
def finish (s : Scanner) : Option (List Token) :=
  match s.mode with
  | .between => some s.tokens.reverse
  | .inWord cs => some (.word cs.reverse :: s.tokens).reverse
  | _ => none

end Scanner

/-- The tokens of a text. -/
def Token.scan (cs : List Char) : Option (List Token) := do
  (← Scanner.start.run cs).finish

/-! ## Documents -/

/-- A word as a document: one of the three names, or a number. -/
def documentOfWord? (cs : List Char) : Option Document :=
  if cs = "null".toList then some .null
  else if cs = "true".toList then some (.bool true)
  else if cs = "false".toList then some (.bool false)
  else (numberText? cs).map fun n => match n.number? with
    | some value => .number value
    | none => .unusable

def documentOfCodes (codes : List Nat) : Document :=
  match textOfCodes? codes with
  | some text => .string text
  | none => .unusable

/-- How many containers may stand inside each other. -/
def deepest : Nat := 127

/-- An open container with what it holds so far, the latest first. A member name is `none` if it
is unusable. -/
inductive Builder.Frame where
  | array (items : List Document)
  | object (members : List (Option String × Document)) (name : Option String)

/-- What may come next. -/
inductive Builder.Awaiting where
  | value
  | valueOrClose
  | name
  | nameOrClose
  | colon
  | commaOrClose
  | nothing
deriving DecidableEq

/-- The containers that are open, the innermost first, and the whole document once it is
complete. -/
structure Builder where
  stack : List Builder.Frame
  awaiting : Builder.Awaiting
  complete : Option Document

namespace Builder

def start : Builder := ⟨[], .value, none⟩

/-- The members of an object in the order of the text; one unusable name spoils all. -/
def objectOf (members : List (Option String × Document)) : Document :=
  match members.reverse.mapM fun member => member.1.map fun name => (name, member.2) with
  | some members => .object members
  | none => .unusable

/-- The document that a closed container is, at its level of nesting. -/
def close (level : Nat) (document : Document) : Document :=
  if level ≤ deepest then document else .unusable

/-- A complete document goes into the innermost open container. -/
def place (stack : List Frame) (document : Document) : Builder :=
  match stack with
  | [] => ⟨[], .nothing, some document⟩
  | .array items :: rest => ⟨.array (document :: items) :: rest, .commaOrClose, none⟩
  | .object members name :: rest =>
    ⟨.object ((name, document) :: members) none :: rest, .commaOrClose, none⟩

/-- A token where a value may stand. -/
def value (stack : List Frame) : Token → Option Builder
  | .openArray => some ⟨.array [] :: stack, .valueOrClose, none⟩
  | .openObject => some ⟨.object [] none :: stack, .nameOrClose, none⟩
  | .word cs => (documentOfWord? cs).map (place stack)
  | .text codes => some (place stack (documentOfCodes codes))
  | _ => none

/-- A token where a container may end. -/
def closing (stack : List Frame) : Token → Option Builder
  | .closeArray =>
    match stack with
    | .array items :: rest =>
      some (place rest (close stack.length (.array items.reverse)))
    | _ => none
  | .closeObject =>
    match stack with
    | .object members _ :: rest =>
      some (place rest (close stack.length (objectOf members)))
    | _ => none
  | _ => none

/-- A token where a member name must stand. -/
def name (stack : List Frame) : Token → Option Builder
  | .text codes =>
    match stack with
    | .object members _ :: rest =>
      some ⟨.object members (textOfCodes? codes) :: rest, .colon, none⟩
    | _ => none
  | _ => none

/-- What a comma announces in the innermost container. -/
def afterComma : List Frame → Option Builder
  | .array items :: rest => some ⟨.array items :: rest, .value, none⟩
  | .object members held :: rest => some ⟨.object members held :: rest, .name, none⟩
  | [] => none

def step (b : Builder) (token : Token) : Option Builder :=
  match b.awaiting with
  | .value => value b.stack token
  | .valueOrClose => if token = .closeArray then closing b.stack token else value b.stack token
  | .name => name b.stack token
  | .nameOrClose => if token = .closeObject then closing b.stack token else name b.stack token
  | .colon => if token = .colon then some { b with awaiting := .value } else none
  | .commaOrClose => if token = .comma then afterComma b.stack else closing b.stack token
  | .nothing => none

def run (b : Builder) (tokens : List Token) : Option Builder :=
  tokens.foldlM step b

end Builder

/-- The document that a row of tokens spells. -/
def documentOfTokens? (tokens : List Token) : Option Document := do
  (← Builder.start.run tokens).complete

/-- The document that a text spells; `none` if it is not well formed. -/
def read? (text : String) : Option Document := do
  documentOfTokens? (← Token.scan text.toList)

end AccessReport.Json
