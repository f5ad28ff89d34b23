/-
Style documents.

* `Style.ofJson?` — a document of any version, by its shape alone;
* `Style.toJson` — the document as it is written;
* `supportedVersion` — the one version whose meaning is known here.
-/
import MapStyle.Document.Layer
import MapStyle.Document.Source

namespace MapStyle

/-- A style document. -/
structure Style where
  version : Nat
  name : String
  sources : Dictionary Source
  /-- The layers in the order in which they are painted. -/
  layers : List Layer
  sprite : Option String
  glyphs : Option String
deriving Repr, BEq

/-- The only version of style documents whose meaning is known. -/
def supportedVersion : Nat := 8

namespace Style

/-- The largest version that is told apart from larger ones. -/
def maxVersion : Nat := Nat.pow 2 64 - 1

/-- A version: a whole number that is not negative, however it is written. -/
def version? : Json → Option Nat
  | .number (.int n) => if 0 ≤ n then some n.toNat else none
  | .number (.float x) =>
    match Decimal.whole? x with
    | some n => if 0 ≤ n ∧ n.toNat ≤ Nat.pow 2 64 then some (min n.toNat maxVersion) else none
    | none => none
  | _ => none

/-- A document from its record. -/
def ofJson? (v : Json) : Option Style := do
  let r ← Json.Record.ofJson? 6 v
  let version ← r.required? 0 "version" version?
  let name ← r.withDefault? 1 "name" "" Json.string?
  let sources ← r.withDefault? 2 "sources" [] (Json.asDictionary? Source.ofJson?)
  let layers ← r.withDefault? 3 "layers" [] (Json.asList? Layer.ofJson?)
  let sprite ← r.optional? 4 "sprite" Json.string?
  let glyphs ← r.optional? 5 "glyphs" Json.string?
  some ⟨version, name, sources, layers, sprite, glyphs⟩

/-- The document as it is written. -/
def toJson (s : Style) : Json :=
  .object [
    ("glyphs", Json.orNull (s.glyphs.map .string)),
    ("layers", .array (s.layers.map Layer.toJson)),
    ("name", .string s.name),
    ("sources", .object (s.sources.mapValues Source.toJson)),
    ("sprite", Json.orNull (s.sprite.map .string)),
    ("version", .ofNat s.version)]

end Style

end MapStyle
