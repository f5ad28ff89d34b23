/-
Fetching resources by URL.

A transport answers one request after another and may let an answer depend on what
has been asked before, so it is a function of the earlier URLs and the new one.
-/
namespace MapStyle

/-- Why a resource could not be fetched. -/
inductive FetchError where
  | notFound (url : String)
  | transport (url message : String)
deriving DecidableEq, Repr

namespace FetchError

/-- The URL that was asked for. -/
def url : FetchError → String
  | notFound url | transport url _ => url

def isNotFound : FetchError → Bool
  | notFound _ => true
  | transport _ _ => false

def message : FetchError → String
  | notFound url => "Resource not found: " ++ url
  | transport url message => "Failed to fetch " ++ url ++ ": " ++ message

end FetchError

/-- The answers to requests, by the URLs asked before and the URL asked now. -/
abbrev Transport := List String → String → Except FetchError ByteArray

end MapStyle
