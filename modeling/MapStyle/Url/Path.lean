/-
Paths of URLs.

A path is a list of segments.  While it is read, `.` changes nothing and `..` takes
the last segment away; both leave an empty segment when they come last, so that the
path still ends with a slash.

* `UrlPath.up` — the path without its last segment.  A drive letter stays, whatever
  the scheme;
* `UrlPath.step` — the path with one more segment as written;
* `UrlPath.extend` — the path with a text of segments behind it;
* `UrlPath.extendBehind` — the same behind a segment that is still open;
* `UrlPath.trim` — the path of a file, which does not begin with empty segments.
-/
import MapStyle.Text.Split
import MapStyle.Url.Percent

namespace MapStyle

/-- What decides how the path of a URL is read. -/
structure PathRules where
  /-- Whether a backslash separates segments too. -/
  special : Bool
  /-- Whether a drive letter that begins the path is spelled in one way. -/
  file : Bool
deriving DecidableEq, Repr

namespace PathRules

/-- The characters between segments. -/
def isSlash (r : PathRules) (c : Char) : Bool := c == '/' || (r.special && c == '\\')

end PathRules

namespace UrlPath

/-- A drive letter and the mark behind it. -/
def isDriveLetter : List Char → Bool
  | [c, m] => c.isAlpha && (m == ':' || m == '|')
  | _ => false

/-- A drive letter in its normal form. -/
def isNormalDriveLetter : List Char → Bool
  | [c, m] => c.isAlpha && m == ':'
  | _ => false

/-- Whether a text begins with a drive letter that is a segment of its own. -/
def startsWithDriveLetter : List Char → Bool
  | c :: m :: rest =>
    isDriveLetter [c, m] &&
      (match rest with
        | [] => true
        | d :: _ => d == '/' || d == '\\' || d == '?' || d == '#')
  | _ => false

/-- A segment with the escapes of points undone, for comparison only. -/
def dots (cs : List Char) : List Char :=
  match cs with
  | '%' :: '2' :: 'e' :: rest | '%' :: '2' :: 'E' :: rest => '.' :: dots rest
  | c :: rest => c :: dots rest
  | [] => []

def isSingleDot (cs : List Char) : Bool := dots cs == ['.']

def isDoubleDot (cs : List Char) : Bool := dots cs == ['.', '.']

/-- The path without its last segment.  A drive letter stays. -/
def up (path : List String) : List String :=
  if path.getLast?.any fun s => startsWithDriveLetter s.toList then path else path.dropLast

/-- A segment as it is kept.  A drive letter that begins the path of a file gets its colon. -/
def segment (r : PathRules) (path : List String) (cs : List Char) : String :=
  match r.file && path.isEmpty && isDriveLetter cs, cs with
  | true, c :: _ => String.ofList [c, ':']
  | _, _ => String.ofList (percentEncode .path cs)

/-- The path with one more segment as written. -/
def step (r : PathRules) (path : List String) (cs : List Char) (last : Bool) : List String :=
  if isDoubleDot cs then
    if last then up path ++ [""] else up path
  else if isSingleDot cs then
    if last then path ++ [""] else path
  else path ++ [segment r path cs]

/-- The path with some segments as written behind it. -/
def steps (r : PathRules) (path : List String) : List (List Char) → List String
  | [] => path
  | [last] => step r path last true
  | cs :: rest => steps r (step r path cs false) rest

/-- The path with a text of segments behind it. -/
def extend (r : PathRules) (path : List String) (cs : List Char) : List String :=
  steps r path (Text.splitOn r.isSlash cs)

/-- The path with a text of segments behind a last segment that is still open: the text goes
on with it, unless it begins with points, which end it as it is. -/
def extendBehind (r : PathRules) (path : List String) (last : String) (cs : List Char) :
    List String :=
  match Text.splitOn r.isSlash cs with
  | [] => path ++ [last]
  | first :: rest =>
    if isDoubleDot first then steps r (path ++ [last]) rest
    else if isSingleDot first then steps r (path ++ [last]) (if rest.isEmpty then [[]] else rest)
    else steps r (path ++ [last ++ String.ofList (percentEncode .path first)]) rest

/-- The path of a file, which does not begin with empty segments unless it is one. -/
def trim (path : List String) : List String :=
  match path.dropWhile (·.isEmpty) with
  | [] => [""]
  | segments => segments

end UrlPath

end MapStyle
