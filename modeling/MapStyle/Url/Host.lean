/-
Hosts of URLs.

* `Host.parse` — a host of a special scheme: a name, an IPv4 address or an IPv6
  address in brackets.  A name beyond ASCII is written in ASCII;
* `Host.parseOpaque` — a host of any other scheme, which is kept as it is;
* `Host.text` — a host in its one normal spelling.
-/
import MapStyle.Url.HostName
import MapStyle.Url.Percent

namespace MapStyle

/-- What makes a text no URL. -/
inductive UrlError where
  | emptyHost
  | invalidName
  | invalidPort
  | invalidIpv4
  | invalidIpv6
  | invalidHostChar
  | relativeWithoutBase
  | relativeToOpaque
deriving DecidableEq, Repr

def UrlError.message : UrlError → String
  | emptyHost => "empty host"
  | invalidName => "invalid international domain name"
  | invalidPort => "invalid port number"
  | invalidIpv4 => "invalid IPv4 address"
  | invalidIpv6 => "invalid IPv6 address"
  | invalidHostChar => "invalid domain character"
  | relativeWithoutBase => "relative URL without a base"
  | relativeToOpaque => "relative URL with a cannot-be-a-base base"

/-- A host. -/
inductive Host where
  | empty
  | name (text : String)
  | ipv4 (address : Nat)
  | ipv6 (groups : List Nat)
  /-- A host without a structure that is known. -/
  | uninterpreted (text : String)
deriving DecidableEq, Repr

namespace Host

/-! ### IPv4 -/

/-- The value of digits of a base. -/
def valueOf? (base : Nat) (cs : List Char) : Option Nat :=
  cs.foldlM
    (fun n c => do
      let d ← Text.hexValue? c
      if d < base then some (base * n + d) else none)
    0

/-- A number of an IPv4 address: decimal, octal behind a zero, hexadecimal behind `0x`. -/
def ipv4Number? (cs : List Char) : Option Nat :=
  match cs with
  | [] => none
  | '0' :: 'x' :: rest | '0' :: 'X' :: rest => valueOf? 16 rest
  | '0' :: d :: rest => valueOf? 8 (d :: rest)
  | _ => valueOf? 10 cs

/-- The parts of a name between its points, without an empty last one. -/
def nameParts (cs : List Char) : List (List Char) :=
  let parts := Text.splitOn (· == '.') cs
  if 1 < parts.length ∧ parts.getLast? = some [] then parts.dropLast else parts

/-- Whether a name can only be meant as an IPv4 address, by its last part. -/
def endsInNumber (cs : List Char) : Bool :=
  match (nameParts cs).getLast? with
  | some last => (!last.isEmpty && last.all Char.isDigit) || hexNumber last
  | none => false
where
  hexNumber : List Char → Bool
    | '0' :: 'x' :: rest | '0' :: 'X' :: rest => rest.all Text.isHex
    | _ => false

/-- The address of which these are the numbers: the last fills what the others leave. -/
def ipv4Of? (numbers : List Nat) : Option Nat :=
  match numbers.getLast? with
  | none => none
  | some last =>
    let front := numbers.dropLast
    if 3 < front.length ∨ front.any (255 < ·) ∨ Nat.pow 256 (4 - front.length) ≤ last then none
    else
      let places := (List.range front.length).map fun i => Nat.pow 256 (3 - i)
      some ((List.zipWith (· * ·) front places).foldl (· + ·) last)

/-- An IPv4 address. -/
def parseIpv4 (cs : List Char) : Except UrlError Host :=
  match ((nameParts cs).mapM ipv4Number?).bind ipv4Of? with
  | some address => .ok (ipv4 address)
  | none => .error .invalidIpv4

/-! ### IPv6 -/

/-- A group of up to four hexadecimal digits. -/
def ipv6Group? (cs : List Char) : Option Nat :=
  if cs.isEmpty || 4 < cs.length then none else valueOf? 16 cs

/-- A decimal number below 256 without leading zeros. -/
def octet? (cs : List Char) : Option Nat :=
  match cs with
  | [] => none
  | '0' :: _ :: _ => none
  | _ => if 3 < cs.length then none else (valueOf? 10 cs).filter (· < 256)

/-- The last part of an IPv6 address: a group, or an IPv4 address in place of two. -/
def lastGroups? (cs : List Char) : Option (List Nat) :=
  match Text.splitOn (· == '.') cs with
  | [_] => (ipv6Group? cs).map ([·])
  | [a, b, c, d] => do
    let a ← octet? a
    let b ← octet? b
    let c ← octet? c
    let d ← octet? d
    some [256 * a + b, 256 * c + d]
  | _ => none

/-- The groups between colons; only at the end may an IPv4 address stand. -/
def groups? (final : Bool) : List (List Char) → Option (List Nat)
  | [] => some []
  | [last] => if final then lastGroups? last else (ipv6Group? last).map ([·])
  | g :: rest => do
    let g ← ipv6Group? g
    let gs ← groups? final rest
    some (g :: gs)

/-- The groups on one side of a double colon. -/
def side? (final : Bool) (cs : List Char) : Option (List Nat) :=
  if cs.isEmpty then some [] else groups? final (Text.splitOn (· == ':') cs)

/-- What stands before and behind the first double colon. -/
def atDoubleColon : List Char → Option (List Char × List Char)
  | ':' :: ':' :: rest => some ([], rest)
  | c :: rest => (atDoubleColon rest).map fun p => (c :: p.1, p.2)
  | [] => none

/-- The eight groups of an address; a double colon stands for as many zeros as are missing. -/
def ipv6Groups? (cs : List Char) : Option (List Nat) := do
  match atDoubleColon cs with
  | some (left, right) =>
    let front ← side? false left
    let back ← side? true right
    let missing := 8 - (front.length + back.length)
    if missing = 0 then none else some (front ++ List.replicate missing 0 ++ back)
  | none =>
    let groups ← groups? true (Text.splitOn (· == ':') cs)
    if groups.length = 8 then some groups else none

/-- An IPv6 address, without its brackets. -/
def parseIpv6 (cs : List Char) : Except UrlError Host :=
  match ipv6Groups? cs with
  | some groups => .ok (ipv6 groups)
  | none => .error .invalidIpv6

/-! ### Hosts -/

/-- Characters that may not occur in the host of any scheme. -/
def isForbidden (c : Char) : Bool :=
  ['\x00', '\t', '\n', '\r', ' ', '#', '/', ':', '<', '>', '?', '@', '[', '\\', ']', '^', '|'].contains c

/-- A host of a special scheme. -/
def parse (cs : List Char) : Except UrlError Host :=
  match cs with
  | '[' :: rest =>
    if rest.getLast? = some ']' then parseIpv6 rest.dropLast else .error .invalidIpv6
  | _ =>
    match (textOfBytes? (percentDecode cs)).bind fun text => Url.asciiName? text.toList with
    | none => .error .invalidName
    | some [] => .error .emptyHost
    | some found => if endsInNumber found then parseIpv4 found else .ok (name (String.ofList found))

/-- A host of a scheme without rules for hosts. -/
def parseOpaque (cs : List Char) : Except UrlError Host :=
  match cs with
  | [] => .ok empty
  | '[' :: rest =>
    if rest.getLast? = some ']' then parseIpv6 rest.dropLast else .error .invalidIpv6
  | _ =>
    if cs.any isForbidden then .error .invalidHostChar
    else .ok (uninterpreted (String.ofList (percentEncode .control cs)))

/-! ### Text -/

/-- The start and length of the longest run of zeros, the first of equals. -/
def longestZeros (best : Nat × Nat) (start : Nat) : List Nat → Nat × Nat
  | [] => best
  | g :: rest =>
    let run := ((g :: rest).takeWhile (· == 0)).length
    longestZeros (if best.2 < run then (start, run) else best) (start + 1) rest

/-- Groups in hexadecimal between colons. -/
def groupsText (groups : List Nat) : String :=
  String.intercalate ":" (groups.map fun g => String.ofList (Nat.toDigits 16 g))

/-- An IPv6 address; of two zeros or more the longest run is a double colon. -/
def ipv6Text (groups : List Nat) : String :=
  let (start, run) := longestZeros (0, 0) 0 groups
  if run < 2 then groupsText groups
  else groupsText (groups.take start) ++ "::" ++ groupsText (groups.drop (start + run))

/-- An IPv4 address in four numbers. -/
def ipv4Text (address : Nat) : String :=
  String.intercalate "." ([24, 16, 8, 0].map fun shift => toString (address / Nat.pow 2 shift % 256))

def text : Host → String
  | empty => ""
  | name s | uninterpreted s => s
  | ipv4 address => ipv4Text address
  | ipv6 groups => "[" ++ ipv6Text groups ++ "]"

end Host

end MapStyle
