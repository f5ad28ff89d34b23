/-
What can go wrong when a style is applied.

* `StyleError` — the causes, one constructor each;
* `StyleError.category` — a short name for the cause;
* `StyleError.message` — the cause in words.
-/
import MapStyle.Document.Style
import MapStyle.Json.Writer
import MapStyle.Target
import MapStyle.Transport

namespace MapStyle

/-- What is wrong with a text that should be a style document. -/
inductive Malformation where
  /-- It is no JSON. -/
  | notJson
  /-- It is JSON of another shape. -/
  | wrongShape
deriving DecidableEq, Repr

/-- Why there is no sprite index. -/
inductive IndexFailure where
  | fetch (error : FetchError)
  | invalid
deriving DecidableEq, Repr

/-- Why there is no sprite image. -/
inductive ImageFailure where
  | fetch (error : FetchError)
  | undecodable
deriving DecidableEq, Repr

/-- Why a style was not applied. -/
inductive StyleError where
  | malformed (fault : Malformation)
  | unsupportedVersion (found : Json)
  | unsupportedLayer (kind : LayerKind)
  /-- The style has no source of the name, or one of a type that does not fit. -/
  | sourceMismatch (name : String) (wanted : SourceKind) (found : Option SourceType)
  | spriteNotFound (url : String) (failure : IndexFailure)
  | spriteImage (url : String) (failure : ImageFailure)
deriving Repr

def Malformation.message : Malformation → String
  | notJson => "the text is not JSON"
  | wrongShape => "the document has another shape"

def IndexFailure.message : IndexFailure → String
  | fetch e => if e.isNotFound then e.message else "transport error: " ++ e.message
  | invalid => "invalid sprite index"

def ImageFailure.message : ImageFailure → String
  | fetch e => e.message
  | undecodable => "undecodable"

namespace StyleError

/-- A short name for the cause. -/
def category : StyleError → String
  | malformed _ => "MalformedStyle"
  | unsupportedVersion _ => "UnsupportedVersion"
  | unsupportedLayer _ => "UnsupportedLayerType"
  | sourceMismatch _ _ _ => "SourceTypeMismatch"
  | spriteNotFound _ _ => "SpriteNotFound"
  | spriteImage _ _ => "SpriteImage"

/-- The cause in words. -/
def message : StyleError → String
  | malformed fault => "Malformed style: " ++ fault.message
  | unsupportedVersion found =>
    "Unsupported style version: expected " ++ toString supportedVersion ++ ", found " ++ found.text
  | unsupportedLayer kind =>
    "Unsupported layer type: " ++ kind.label ++ " cannot host a per-feature style function"
  | sourceMismatch name wanted found =>
    "Source '" ++ name ++ "' is not usable: expected " ++ wanted.expectation ++ ", found " ++
      (found.map SourceType.name).getD "no such source"
  | spriteNotFound url failure => "Sprite not found: " ++ url ++ " (" ++ failure.message ++ ")"
  | spriteImage url failure =>
    "Sprite image " ++ url ++ " failed to load: " ++ failure.message

/-- A step after another succeeds just if both do. -/
theorem bind_eq_ok_iff {α β : Type} {x : Except StyleError α} {f : α → Except StyleError β}
    {b : β} : (x >>= f) = .ok b ↔ ∃ a, x = .ok a ∧ f a = .ok b := by
  constructor
  · intro h
    cases x with
    | error e => cases h
    | ok a => exact ⟨a, rfl, h⟩
  · rintro ⟨a, rfl, h⟩
    exact h

/-- A step after another fails if the first one does, or the second one on its result. -/
theorem bind_eq_error_iff {α β : Type} {x : Except StyleError α} {f : α → Except StyleError β}
    {e : StyleError} : (x >>= f) = .error e ↔ x = .error e ∨ ∃ a, x = .ok a ∧ f a = .error e := by
  constructor
  · intro h
    cases x with
    | error e' =>
      obtain rfl := Except.error.inj h
      exact .inl rfl
    | ok a => exact .inr ⟨a, rfl, h⟩
  · rintro (rfl | ⟨a, rfl, h⟩)
    · rfl
    · exact h

end StyleError

end MapStyle
