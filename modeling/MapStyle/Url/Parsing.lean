/-
URLs from text, alone or relative to another.

The text is cut first at `#`, then at `?`; what is left has a scheme or is relative,
and begins with a host if two slashes lead it.

* `Url.parse` — a URL that stands on its own;
* `Url.join` — a URL relative to a base.
-/
import MapStyle.Decimal.Numeral
import MapStyle.Url.Basic

namespace MapStyle.Url

/-- A text without controls and blanks at its ends, and without tabs and line ends anywhere. -/
def clean (text : String) : List Char :=
  let isEdge (c : Char) : Bool := c.toNat ≤ 0x20
  (Text.dropWhileEnd isEdge (text.toList.dropWhile isEdge)).filter fun c =>
    !(c == '\t' || c == '\n' || c == '\r')

/-- What stands before the first `c`, and what stands behind it, if there is one. -/
def cutAt (c : Char) (cs : List Char) : List Char × Option (List Char) :=
  match cs.dropWhile (· != c) with
  | [] => (cs, none)
  | _ :: rest => (cs.takeWhile (· != c), some rest)

/-- Whether a character can stand in a scheme behind its first letter. -/
def isSchemeChar (c : Char) : Bool := c.isAlphanum || c == '+' || c == '-' || c == '.'

/-- The scheme at the front of a text, and what follows its colon. -/
def scheme? (cs : List Char) : Option (String × List Char) :=
  match cs with
  | [] => none
  | first :: _ =>
    match cutAt ':' cs with
    | (name, some rest) =>
      if first.isAlpha && name.all isSchemeChar then
        some (String.ofList (name.map Char.toLower), rest)
      else none
    | _ => none

/-- A text cut into what stands before the query, the query and the fragment. -/
structure Cut where
  main : List Char
  query : Option (List Char)
  fragment : Option (List Char)

def cut (cs : List Char) : Cut :=
  let (front, fragment) := cutAt '#' cs
  let (main, query) := cutAt '?' front
  ⟨main, query, fragment⟩

def queryText (scheme : String) (cs : List Char) : String :=
  String.ofList (percentEncode (if isSpecial scheme then .specialQuery else .query) cs)

def fragmentText (cs : List Char) : String := String.ofList (percentEncode .fragment cs)

/-- A URL of its parts, with the query and the fragment that were cut off. -/
def assemble (scheme : String) (authority : Option Authority) (path : UrlPath) (c : Cut) : Url :=
  ⟨scheme, authority, path, c.query.map (queryText scheme), c.fragment.map fragmentText⟩

/-- A port and what follows it.  A scheme need not name its own port, and a backslash ends
a port. -/
def parsePort (scheme : String) (cs : List Char) :
    Except UrlError (Option Nat × List Char) :=
  let digits := cs.takeWhile Char.isDigit
  let rest := cs.dropWhile Char.isDigit
  let port := Decimal.digitsValue digits
  if 65535 < port || rest.head?.any (· != '\\') then .error .invalidPort
  else .ok (if digits.isEmpty || defaultPort? scheme == some port then none else some port, rest)

/-- A host and what follows the colon behind it; colons in brackets belong to the host. -/
def cutPort (inside : Bool) : List Char → List Char × Option (List Char)
  | [] => ([], none)
  | c :: rest =>
    if c = ':' ∧ !inside then ([], some rest)
    else
      let (host, port) := cutPort (if c = '[' then true else if c = ']' then false else inside) rest
      (c :: host, port)

/-- What stands before the last `@`, if there is one, and what stands behind it. -/
def cutUser (cs : List Char) : Option (List Char) × List Char :=
  let host := (cs.reverse.takeWhile (· != '@')).reverse
  if host.length = cs.length then (none, cs)
  else (some (cs.take (cs.length - host.length - 1)), host)

/-- Whether a text goes on behind what was cut at a slash. -/
def Cut.goesOn (c : Cut) (rest : List Char) : Bool :=
  !rest.isEmpty || c.query.isSome || c.fragment.isSome

/-- An authority, a user, a host and a port, and what follows it up to the query. -/
def parseAuthority (scheme : String) (cs : List Char) (c : Cut) :
    Except UrlError (Authority × List Char) := do
  let isSlash := (rules scheme).isSlash
  let after := cs.dropWhile (!isSlash ·)
  let (user, located) := cutUser (cs.takeWhile (!isSlash ·))
  let (host, port) := cutPort false located
  let encoded (part : List Char) : String := String.ofList (percentEncode .userinfo part)
  let (username, password) := cutAt ':' (user.getD [])
  let named := { Authority.empty with
    username := encoded username, password := encoded (password.getD []) }
  -- Nothing but an empty user stands in front of the path, the query or the fragment.
  let bare := user = some [] ∧ located = [] ∧ c.goesOn after
  if host.isEmpty ∧ (isSpecial scheme ∨ port.isSome ∨ named.userText ≠ "" ∨ bare) then
    .error .emptyHost
  else
    let host ← if isSpecial scheme then Host.parse host else Host.parseOpaque host
    let (port, rest) ← parsePort scheme (port.getD [])
    .ok ({ named with host := host, port := port }, rest ++ after)

/-- The path behind an authority, which special schemes never leave empty. -/
def pathAfter (scheme : String) (cs : List Char) : List String :=
  let r := rules scheme
  match cs with
  | [] => if r.special then [""] else []
  | first :: rest => UrlPath.extend r [] (if r.isSlash first then rest else cs)

/-- A URL from what stands behind the slashes in front of its authority. -/
def withAuthority (scheme : String) (cs : List Char) (c : Cut) : Except UrlError Url := do
  let (authority, rest) ← parseAuthority scheme cs c
  .ok (assemble scheme (some authority) (.segments (pathAfter scheme rest)) c)

/-- Whether a character is a slash of either kind. -/
def isAnySlash (c : Char) : Bool := c == '/' || c == '\\'

/-- A URL relative to a base of the same scheme, which is no file.  At its front a backslash
is a slash in every scheme. -/
def relativeTo (base : Url) (c : Cut) : Except UrlError Url :=
  let r := rules base.scheme
  let under (path : List String) (cs : List Char) : Url :=
    assemble base.scheme base.authority (.segments (UrlPath.extend r path cs)) c
  match c.main with
  | [] =>
    .ok { base with
      query := (c.query.map (queryText base.scheme)) <|> base.query
      fragment := c.fragment.map fragmentText }
  | '/' :: '/' :: rest => withAuthority base.scheme rest c
  | first :: rest =>
    if !isAnySlash first then .ok (under base.pathSegments.dropLast c.main)
    else if rest.head?.any isAnySlash then
      withAuthority base.scheme (rest.dropWhile isAnySlash) c
    else .ok (under [] rest)

/-- The rules of paths of files. -/
def fileRules : PathRules := ⟨true, true⟩

/-- The URL of a file. -/
def fileUrl (host : Host) (path : List String) (c : Cut) : Url :=
  assemble "file" (some { Authority.empty with host := host }) (.segments (UrlPath.trim path)) c

/-- Whether a path of a file begins with a drive letter. -/
def onDrive (path : List String) : Bool :=
  path.head?.any fun s => UrlPath.isNormalDriveLetter s.toList

/-- The URL of a file on a host, if its path does not begin with a drive letter, and on this
machine otherwise. -/
def fileOn (host : Host) (path : List String) (c : Cut) : Url :=
  fileUrl (if onDrive path then .empty else host) path c

/-- The host of a file, which is empty on this machine. -/
def parseFileHost (cs : List Char) : Except UrlError Host := do
  if cs.isEmpty then .ok .empty
  else
    match ← Host.parse cs with
    | .name "localhost" => .ok .empty
    | host => .ok host

/-- The host of the URL of a file. -/
def hostOf (u : Url) : Host := (u.authority.map Authority.host).getD .empty

/-- The URL of a file from what stands behind two slashes: a host and a path from the root.
What looks like a drive letter is no host but the front of the path. -/
def fileBehindHost (cs : List Char) (c : Cut) : Except UrlError Url := do
  let text := cs.takeWhile (!isAnySlash ·)
  if UrlPath.isDriveLetter text then .ok (fileUrl .empty (UrlPath.extend fileRules [] cs) c)
  else
    let rest := cs.dropWhile (!isAnySlash ·)
    match ← parseFileHost text with
    | .empty => .ok (fileUrl .empty (UrlPath.extend fileRules [] rest) c)
    | host => .ok (fileOn host (UrlPath.extend fileRules [] (rest.drop 1)) c)

/-- The URL of a file from a path behind one slash, which keeps the drive letter of the base,
or else its host, unless it begins with a drive letter itself. -/
def fileFromRoot (base : Option Url) (cs : List Char) (c : Cut) : Url :=
  let path := UrlPath.extend fileRules [] cs
  match base.filter fun _ => !UrlPath.startsWithDriveLetter cs with
  | none => fileUrl .empty path c
  | some b =>
    match b.pathSegments.head?.filter fun s => UrlPath.isNormalDriveLetter s.toList with
    | some drive => fileUrl .empty (UrlPath.extend fileRules [drive] cs) c
    | none => fileUrl (hostOf b) path c

/-- The URL of a file from a path relative to a base.  A drive letter that ends the path of
the base is not taken away: alone it is kept, and behind other segments it is still open. -/
def fileRelativeTo (b : Url) (c : Cut) : Url :=
  let extend := UrlPath.extend fileRules
  let front := b.pathSegments.dropLast
  if UrlPath.startsWithDriveLetter c.main then fileUrl .empty (extend [] c.main) c
  else
    let path := match b.pathSegments.getLast? with
      | some last =>
        if !UrlPath.isNormalDriveLetter last.toList then extend front c.main
        else if front.isEmpty then extend [last] c.main
        else UrlPath.extendBehind fileRules front last c.main
      | none => extend [] c.main
    fileUrl (hostOf b) path c

/-- The URL of a file from what stands behind its scheme, relative to a base if there is one. -/
def parseFile (base : Option Url) (c : Cut) : Except UrlError Url :=
  match c.main, base with
  | [], some b =>
    .ok { b with
      query := (c.query.map (queryText "file")) <|> b.query
      fragment := c.fragment.map fragmentText }
  | [], none => .ok (fileUrl .empty [] c)
  | first :: rest, _ =>
    if isAnySlash first then
      if rest.head?.any isAnySlash then fileBehindHost (rest.drop 1) c
      else .ok (fileFromRoot base rest c)
    else
      match base with
      | some b => .ok (fileRelativeTo b c)
      | none => .ok (fileUrl .empty (UrlPath.extend fileRules [] c.main) c)

/-- A URL with a scheme of its own. -/
def parseWithScheme (base : Option Url) (scheme : String) (c : Cut) : Except UrlError Url :=
  let isSlash := (rules scheme).isSlash
  -- A base of the same special scheme makes even a URL with a scheme relative.
  let sameBase := base.filter fun b => b.scheme == scheme
  if scheme = "file" then parseFile sameBase c
  else if isSpecial scheme then
    let slashes := (c.main.takeWhile isSlash).length
    match sameBase with
    | some b =>
      if slashes < 2 then relativeTo b c
      else withAuthority scheme (c.main.dropWhile isSlash) c
    | none => withAuthority scheme (c.main.dropWhile isSlash) c
  else
    match c.main with
    | '/' :: '/' :: rest => withAuthority scheme rest c
    | '/' :: rest =>
      .ok (assemble scheme none (.segments (UrlPath.extend (rules scheme) [] rest)) c)
    | cs => .ok (assemble scheme none (.undivided (String.ofList (percentEncode .control cs))) c)

/-- A URL from a text, relative to a base if there is one. -/
def parseFrom (base : Option Url) (text : String) : Except UrlError Url :=
  let cs := clean text
  match scheme? cs with
  | some (scheme, rest) => parseWithScheme base scheme (cut rest)
  | none =>
    match base with
    | none => .error .relativeWithoutBase
    | some b =>
      let c := cut cs
      if b.isOpaque then
        match c.main, c.query, c.fragment with
        | [], none, some fragment => .ok { b with fragment := some (fragmentText fragment) }
        | _, _, _ => .error .relativeToOpaque
      else if b.scheme = "file" then parseFile (some b) c
      else relativeTo b c

/-- The URL that a text is on its own. -/
def parse (text : String) : Except UrlError Url := parseFrom none text

/-- The URL that a text is relative to a base. -/
def join (base : Url) (text : String) : Except UrlError Url := parseFrom (some base) text

end MapStyle.Url
