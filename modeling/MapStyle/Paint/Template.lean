/-
Templates: texts with keys between braces.

A key between braces stands for the property of that name, or for nothing if there is
none.  A brace that is not closed stands for itself, with all that follows.  What a
key stands for is not looked at again.

* `Template.read` — the pieces of a template;
* `Template.fill` — the text that a template becomes for a feature.
-/
import MapStyle.Dictionary
import MapStyle.Json.Writer

namespace MapStyle.Template

/-- A piece of a template. -/
inductive Piece where
  /-- A character that stands for itself. -/
  | char (c : Char)
  /-- A key between braces. -/
  | token (key : List Char)
  /-- What follows a brace that is not closed. -/
  | unclosed (rest : List Char)
deriving DecidableEq, Repr

/-- The pieces of a template, where `key` is what stands behind an open brace, the last
character first. -/
def readFrom (key : Option (List Char)) : List Char → List Piece
  | [] =>
    match key with
    | none => []
    | some key => [.unclosed key.reverse]
  | c :: rest =>
    match key with
    | none => if c = '{' then readFrom (some []) rest else .char c :: readFrom none rest
    | some key =>
      if c = '}' then .token key.reverse :: readFrom none rest
      else readFrom (some (c :: key)) rest

/-- The pieces of a template. -/
def read (template : String) : List Piece := readFrom none template.toList

/-- What a piece stands for. -/
def Piece.fill (properties : Dictionary Json) : Piece → List Char
  | char c => [c]
  | token key =>
    ((properties.find? (String.ofList key)).map fun v => v.plainText.toList).getD []
  | unclosed rest => '{' :: rest

/-- The text that a template becomes. -/
def fill (properties : Dictionary Json) (template : String) : String :=
  String.ofList ((read template).flatMap (Piece.fill properties))

end MapStyle.Template
