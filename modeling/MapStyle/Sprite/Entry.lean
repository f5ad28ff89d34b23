/-
Entries of a sprite index: where an icon lies in the image.

* `SpriteEntry.ofJson?`, `SpriteEntry.toJson` — the record of an entry;
* `SpriteEntry.ofWritten?` — an entry as written.  What it does not know is passed
  over unread, so that it need not even be a text, but what it knows must not be
  written twice;
* `readIndex?` — the entries of a sprite index, of which the last of one name counts;
* `SpriteEntry.ofWritten?_append_cons` — an entry does not show what it does not know.
-/
import MapStyle.Json.Reader
import MapStyle.Json.Record

namespace MapStyle

/-- An icon in a sprite image. -/
structure SpriteEntry where
  x : UInt32
  y : UInt32
  width : UInt32
  height : UInt32
  /-- Pixels of the image for one pixel of the map. -/
  pixelRatio : Float32
  /-- Whether the image holds distances to the outline rather than colours. -/
  sdf : Bool
  /-- The part that text covers: left, top, right and bottom. -/
  content : Option (UInt32 × UInt32 × UInt32 × UInt32)
  /-- The columns that may be stretched. -/
  stretchX : Option (List (UInt32 × UInt32))
  /-- The rows that may be stretched. -/
  stretchY : Option (List (UInt32 × UInt32))
deriving DecidableEq, Repr

namespace SpriteEntry

/-- Four numbers in a list. -/
def box? : Json → Option (UInt32 × UInt32 × UInt32 × UInt32)
  | .array [a, b, c, d] => do
    some (← Json.asWord? a, ← Json.asWord? b, ← Json.asWord? c, ← Json.asWord? d)
  | _ => none

/-- Two numbers in a list. -/
def span? : Json → Option (UInt32 × UInt32)
  | .array [a, b] => do some (← Json.asWord? a, ← Json.asWord? b)
  | _ => none

/-- A number in 32 bits. -/
def ratio? : Json → Option Float32
  | .number n => some n.toFloat32
  | _ => none

/-- The fields of an entry, in their order. -/
def fieldNames : List String :=
  ["x", "y", "width", "height", "pixelRatio", "sdf", "content", "stretchX", "stretchY"]

/-- An entry from its record. -/
def ofJson? (v : Json) : Option SpriteEntry := do
  let r ← Json.Record.ofJson? fieldNames.length v
  let x ← r.required? 0 "x" Json.asWord?
  let y ← r.required? 1 "y" Json.asWord?
  let width ← r.required? 2 "width" Json.asWord?
  let height ← r.required? 3 "height" Json.asWord?
  let pixelRatio ← r.withDefault? 4 "pixelRatio" 1 ratio?
  let sdf ← r.withDefault? 5 "sdf" false Json.bool?
  let content ← r.optional? 6 "content" box?
  let stretchX ← r.optional? 7 "stretchX" (Json.asList? span?)
  let stretchY ← r.optional? 8 "stretchY" (Json.asList? span?)
  some ⟨x, y, width, height, pixelRatio, sdf, content, stretchX, stretchY⟩

def wordJson (n : UInt32) : Json := .ofNat n.toNat

def spanJson (s : UInt32 × UInt32) : Json := .array [wordJson s.1, wordJson s.2]

/-- The entry as it is written, with null for what it does not have. -/
def toJson (e : SpriteEntry) : Json :=
  .object [
    ("content", Json.orNull (e.content.map fun (a, b, c, d) =>
      .array [wordJson a, wordJson b, wordJson c, wordJson d])),
    ("height", wordJson e.height),
    ("pixelRatio", .ofFloat (Decimal.widen e.pixelRatio)),
    ("sdf", .bool e.sdf),
    ("stretchX", Json.orNull (e.stretchX.map fun spans => .array (spans.map spanJson))),
    ("stretchY", Json.orNull (e.stretchY.map fun spans => .array (spans.map spanJson))),
    ("width", wordJson e.width),
    ("x", wordJson e.x),
    ("y", wordJson e.y)]

/-- The members with a known name and their values; a name may not come twice. -/
def knownMembers? (seen : List String) :
    List (List Json.Piece × Json.Written) → Option (List (String × Json))
  | [] => some []
  | (name, member) :: rest => do
    let name ← Json.text? name
    if !fieldNames.contains name then knownMembers? seen rest
    else if seen.contains name then none
    else
      let v ← member.value? Json.maxDepth
      let more ← knownMembers? (name :: seen) rest
      some ((name, v) :: more)

/-- An entry as written. -/
def ofWritten? : Json.Written → Option SpriteEntry
  | .object members => do ofJson? (.object (← knownMembers? [] members))
  | v => do ofJson? (← v.value? Json.maxDepth)

end SpriteEntry

/-- The entries of an index as written, in their order. -/
def entryList? : List (List Json.Piece × Json.Written) → Option (List (String × SpriteEntry))
  | [] => some []
  | (name, member) :: rest => do
    let name ← Json.text? name
    let entry ← SpriteEntry.ofWritten? member
    let more ← entryList? rest
    some ((name, entry) :: more)

/-- The entries of the index that a resource is. -/
def readIndex? (bytes : ByteArray) : Option (Dictionary SpriteEntry) := do
  match ← Json.Written.ofBytes? bytes with
  | .object members => (entryList? members).map Dictionary.ofList
  | _ => none

/-! ### What is passed over -/

namespace SpriteEntry

variable {name : List Json.Piece} {text : String}

theorem knownMembers?_append_cons (hname : Json.text? name = some text)
    (hunknown : text ∉ fieldNames) (member : Json.Written) (seen : List String)
    (before after : List (List Json.Piece × Json.Written)) :
    knownMembers? seen (before ++ (name, member) :: after) =
      knownMembers? seen (before ++ after) := by
  induction before generalizing seen with
  | nil =>
    have hcontains : fieldNames.contains text = false := by
      rwa [List.contains_eq_mem, decide_eq_false_iff_not]
    rw [List.nil_append, List.nil_append, knownMembers?, hname]
    simp only [Option.bind_eq_bind, Option.bind_some, hcontains, Bool.not_false, if_true]
  | cons first before ih =>
    rw [List.cons_append, List.cons_append, knownMembers?, knownMembers?]
    simp only [ih]

/-- **An entry does not show what it does not know**, whatever that is: it may be a number out of
range, or a string whose bytes are no text. -/
theorem ofWritten?_append_cons (hname : Json.text? name = some text)
    (hunknown : text ∉ fieldNames) (member : Json.Written)
    (before after : List (List Json.Piece × Json.Written)) :
    ofWritten? (.object (before ++ (name, member) :: after)) =
      ofWritten? (.object (before ++ after)) := by
  rw [ofWritten?, ofWritten?, knownMembers?_append_cons hname hunknown]

end SpriteEntry

/-- A byte that is in no text may stand in what is passed over, but not in a name. -/
example :
    let entry := "\x7b\"bus\":\x7b\"x\":0,\"y\":0,\"width\":8,\"height\":8,\"note".toUTF8
    let stray : ByteArray := ⟨#[0xFF]⟩
    (readIndex? (entry ++ "\":\"".toUTF8 ++ stray ++ "\"\x7d\x7d".toUTF8)).isSome ∧
      readIndex? (entry ++ stray ++ "\":\"\"\x7d\x7d".toUTF8) = none := by
  decide +kernel

end MapStyle
