/-
JSON texts as written.

A `Written` is a value whose numbers and strings are kept as they are spelled
and whose objects keep every member.  It exists beside `Json` because a reader
that skips a member must not care whether what it skips has a value.

* `Written.ofTokens?` — the value that a list of tokens spells, found with a
  stack of open arrays and objects, so that nesting costs no recursion;
* `Written.ofBytes?` — the same for bytes.
-/
import MapStyle.Json.Token

namespace MapStyle.Json

/-- A value as written. -/
inductive Written where
  | null
  | bool (b : Bool)
  | number (literal : Literal)
  | string (pieces : List Piece)
  | array (items : List Written)
  | object (members : List (List Piece × Written))
deriving Repr

/-- An open array or object with what it holds so far, last first. -/
inductive Frame where
  | array (done : List Written)
  /-- An object with the name whose value comes next. -/
  | object (done : List (List Piece × Written)) (name : List Piece)

/-- What may come next. -/
inductive Expected where
  | value (stack : List Frame)
  /-- A value or the end of the array just opened. -/
  | firstItem (stack : List Frame)
  /-- A name or the end of the object just opened. -/
  | firstName (stack : List Frame)
  | name (done : List (List Piece × Written)) (stack : List Frame)
  | colon (done : List (List Piece × Written)) (name : List Piece) (stack : List Frame)
  /-- A comma or the end of an array. -/
  | itemEnd (done : List Written) (stack : List Frame)
  /-- A comma or the end of an object. -/
  | memberEnd (done : List (List Piece × Written)) (stack : List Frame)
  /-- Nothing: the value is complete. -/
  | finished (v : Written)

/-- What is expected once a value is complete. -/
def Expected.after (v : Written) : List Frame → Expected
  | [] => .finished v
  | .array done :: stack => .itemEnd (v :: done) stack
  | .object done key :: stack => .memberEnd ((key, v) :: done) stack

/-- What is expected after a token that begins a value. -/
def Expected.begin? (stack : List Frame) : Token → Option Expected
  | .null => some (.after .null stack)
  | .bool b => some (.after (.bool b) stack)
  | .number l => some (.after (.number l) stack)
  | .string ps => some (.after (.string ps) stack)
  | .openArray => some (.firstItem stack)
  | .openObject => some (.firstName stack)
  | _ => none

/-- What is expected after a token. -/
def Expected.step : Expected → Token → Option Expected
  | .value stack, t => begin? stack t
  | .firstItem stack, .closeArray => some (.after (.array []) stack)
  | .firstItem stack, t => begin? (.array [] :: stack) t
  | .firstName stack, .closeObject => some (.after (.object []) stack)
  | .firstName stack, .string key => some (.colon [] key stack)
  | .name done stack, .string key => some (.colon done key stack)
  | .colon done key stack, .colon => some (.value (.object done key :: stack))
  | .itemEnd done stack, .comma => some (.value (.array done :: stack))
  | .itemEnd done stack, .closeArray => some (.after (.array done.reverse) stack)
  | .memberEnd done stack, .comma => some (.name done stack)
  | .memberEnd done stack, .closeObject => some (.after (.object done.reverse) stack)
  | _, _ => none

/-- The value that the tokens complete. -/
def Expected.run (e : Expected) : List Token → Option Written
  | [] =>
    match e with
    | .finished v => some v
    | _ => none
  | t :: ts => do (← e.step t).run ts

/-- The value that a list of tokens spells. -/
def Written.ofTokens? (ts : List Token) : Option Written := (Expected.value []).run ts

/-- The value that some bytes spell. -/
def Written.ofBytes? (bytes : ByteArray) : Option Written := do
  Written.ofTokens? (← tokens? bytes)

end MapStyle.Json
