import AccessReport.Json.Printer
import AccessReport.Text.Blank
import AccessReport.Text.Parts
/-!
# Message templates

A template is text with placeholders between braces. The text of a placeholder, without the
blanks around it, is `data`, or `data` followed by the names of members, each behind a point. It
stands for the value at that place in the data of a check. A brace that belongs to no placeholder
is an error.

A value is written as a JSON text, except that a string is written as it is, and a missing value
and null leave nothing.
-/
namespace AccessReport

open Text

inductive TemplateError where
  | unbalancedBrace
  | unknownPlaceholder (inner : String)
deriving DecidableEq, Repr

def TemplateError.message : TemplateError → String
  | .unbalancedBrace => "unbalanced '\x7b' or '\x7d'"
  | .unknownPlaceholder inner =>
    "unknown placeholder '\x7b" ++ inner ++ "\x7d'; expected 'data' or 'data.<field>'"

namespace Template

/-- A piece of a template: text, or the place of a value below the data. -/
inductive Segment where
  | literal (text : List Char)
  | data (path : List String)
deriving DecidableEq, Repr

end Template

structure Template where
  segments : List Template.Segment
deriving DecidableEq, Repr

namespace Template

/-- The first part of every placeholder. -/
def rootName : List Char := ['d', 'a', 't', 'a']

/-- The place that the text between two braces names (`parse_path`). -/
def path? (inner : List Char) : Except TemplateError (List String) :=
  let name := trimmed inner
  match splitAt '.' name with
  | root :: fields =>
    if root = rootName ∧ fields.all (fun field => !field.isEmpty) then
      .ok (fields.map String.ofList)
    else .error (.unknownPlaceholder (String.ofList name))
  | [] => .error (.unknownPlaceholder (String.ofList name))

/-- One more character of text in front of the segments (`push_literal`). -/
def addLiteral (c : Char) : List Segment → List Segment
  | .literal text :: rest => .literal (c :: text) :: rest
  | segments => .literal [c] :: segments

/-- The segments of the characters. `inner` is what has been read of an open placeholder, in
reverse. -/
def segmentsOf (inner : Option (List Char)) : List Char → Except TemplateError (List Segment)
  | [] => if inner.isNone then .ok [] else .error .unbalancedBrace
  | c :: rest =>
    match inner with
    | none =>
      if c = '\x7b' then segmentsOf (some []) rest
      else if c = '\x7d' then .error .unbalancedBrace
      else (segmentsOf none rest).map (addLiteral c)
    | some inner =>
      if c = '\x7b' then .error .unbalancedBrace
      else if c = '\x7d' then do
        let path ← path? inner.reverse
        let segments ← segmentsOf none rest
        pure (.data path :: segments)
      else segmentsOf (some (c :: inner)) rest

/-- The template of a text, or what is wrong with it (`parse`). -/
def parse (text : String) : Except TemplateError Template :=
  (segmentsOf none text.toList).map Template.mk

/-- Whether there is no placeholder (`is_static`). -/
def isStatic (template : Template) : Bool :=
  template.segments.all fun
    | .literal _ => true
    | .data _ => false

/-- The value at a place below the data (`lookup`). -/
def valueAt (data : Json) : List String → Option Json
  | [] => some data
  | field :: path =>
    match data.get? field with
    | none => none
    | some value => valueAt value path

/-- A value inside a message (`push_value`). -/
def valueText : Json → List Char
  | .null => []
  | .string text => text.toList
  | value => value.compactChars

def Segment.render (data : Json) : Segment → List Char
  | .literal text => text
  | .data path => match valueAt data path with
    | none => []
    | some value => valueText value

/-- The message for the data of a check (`render`). -/
def render (template : Template) (data : Json) : String :=
  String.ofList (template.segments.flatMap (Segment.render data))

end Template
end AccessReport
