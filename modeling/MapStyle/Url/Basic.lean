/-
URLs.

* `Url.text` — a URL in its one normal spelling;
* `Url.filePath?` — the path that a URL of a file on this machine names.
-/
import MapStyle.Url.Host
import MapStyle.Url.Path

namespace MapStyle

/-- Whose resource a URL names. -/
structure Authority where
  username : String
  password : String
  host : Host
  port : Option Nat
deriving DecidableEq, Repr

/-- The path of a URL. -/
inductive UrlPath where
  /-- A path without segments, to which nothing can be relative. -/
  | undivided (text : String)
  | segments (path : List String)
deriving DecidableEq, Repr

/-- A URL by its parts. -/
structure Url where
  scheme : String
  authority : Option Authority
  path : UrlPath
  query : Option String
  fragment : Option String
deriving DecidableEq, Repr

/-- The schemes with rules of their own, and the ports that they need not name. -/
def specialSchemes : List (String × Option Nat) :=
  [("http", some 80), ("https", some 443), ("ws", some 80), ("wss", some 443), ("ftp", some 21),
    ("file", none)]

/-- Whether a scheme has rules of its own. -/
def isSpecial (scheme : String) : Bool := (specialSchemes.lookup scheme).isSome

/-- The port that a scheme need not name. -/
def defaultPort? (scheme : String) : Option Nat := (specialSchemes.lookup scheme).bind fun p => p

namespace Authority

/-- Nobody's resource in particular. -/
def empty : Authority := ⟨"", "", .empty, none⟩

/-- The user in front of a host. -/
def userText (a : Authority) : String :=
  if a.username.isEmpty && a.password.isEmpty then ""
  else a.username ++ (if a.password.isEmpty then "" else ":" ++ a.password) ++ "@"

def text (a : Authority) : String :=
  a.userText ++ a.host.text ++ ((a.port.map fun p => ":" ++ toString p).getD "")

end Authority

namespace UrlPath

def text : UrlPath → String
  | undivided s => s
  | segments path => String.join (path.map ("/" ++ ·))

end UrlPath

namespace Url

/-- How the path of a URL with a scheme is read. -/
def rules (scheme : String) : PathRules := ⟨isSpecial scheme, scheme == "file"⟩

/-- What keeps a path that begins with two slashes from being read as a host. -/
def pathGuard (u : Url) : String :=
  match u.authority, u.path with
  | none, .segments ("" :: _ :: _) => "/."
  | _, _ => ""

/-- A URL in its normal spelling. -/
def text (u : Url) : String :=
  u.scheme ++ ":" ++ ((u.authority.map fun a => "//" ++ a.text).getD "") ++ u.pathGuard ++
    u.path.text ++ ((u.query.map ("?" ++ ·)).getD "") ++ ((u.fragment.map ("#" ++ ·)).getD "")

/-- Whether nothing can be relative to the URL. -/
def isOpaque (u : Url) : Bool :=
  match u.path with
  | .undivided _ => true
  | .segments _ => false

/-- The segments of the path. -/
def pathSegments (u : Url) : List String :=
  match u.path with
  | .undivided _ => []
  | .segments path => path

/-- The path that a URL names on this machine: a slash and the bytes of each segment, with
a slash behind a last segment that ends with a drive letter. -/
def filePath? (u : Url) : Option (List UInt8) :=
  let here := match u.authority with
    | some a => a.host == .empty || a.host == .name "localhost"
    | none => true
  if here && !u.isOpaque then
    let bytes := u.pathSegments.flatMap fun s => '/'.toUInt8 :: percentDecode s.toList
    let drive := UrlPath.isDriveLetter ((bytes.drop (bytes.length - 2)).map fun b => Char.ofNat b.toNat)
    some (if 2 < bytes.length && drive then bytes ++ ['/'.toUInt8] else bytes)
  else none

end Url

end MapStyle
