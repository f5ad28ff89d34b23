/-
Text in letters, digits and hyphens.

Host names beyond ASCII are written in ASCII: first the ASCII characters, then the
others as a run of differences, each a number in digits whose weights adapt to what
came before (`adapt`).

* `Punycode.encode` — the ASCII form of a text;
* `Punycode.decode?` — the text of an ASCII form.
-/
namespace MapStyle.Punycode

def base : Nat := 36
def minThreshold : Nat := 1
def maxThreshold : Nat := 26
def initialBias : Nat := 72
def initialCode : Nat := 128

/-- The digit of a value below thirty-six: letters, then figures. -/
def digitChar (n : Nat) : Char := Char.ofNat (if n < 26 then 'a'.toNat + n else '0'.toNat + (n - 26))

/-- The value of a digit. -/
def digitValue? (c : Char) : Option Nat :=
  if c.isLower then some (c.toNat - 'a'.toNat)
  else if c.isUpper then some (c.toNat - 'A'.toNat)
  else if c.isDigit then some (c.toNat - '0'.toNat + 26)
  else none

/-- The digit value from which on a number goes on behind place `k`. -/
def threshold (bias k : Nat) : Nat := max minThreshold (min maxThreshold (k - bias))

/-- The bias behind a difference, the first of which counts for less. -/
def adapt (delta points : Nat) (first : Bool) : Nat :=
  let delta := if first then delta / 700 else delta / 2
  shrink 0 (delta + delta / points)
where
  /-- Halves a difference, roughly, until it fits the last places. -/
  shrink (k delta : Nat) : Nat :=
    if delta ≤ (base - minThreshold) * maxThreshold / 2 then k + base * delta / (delta + 38)
    else shrink (k + base) (delta / (base - minThreshold))
  termination_by delta
  decreasing_by simp only [base, minThreshold, maxThreshold] at *; omega

/-- The digits of a number from place `k` on. -/
def digits (bias k n : Nat) : List Char :=
  let t := threshold bias k
  if h : n < t then [digitChar n]
  else digitChar (t + (n - t) % (base - t)) :: digits bias (k + base) ((n - t) / (base - t))
termination_by n
decreasing_by
  have ht : 1 ≤ threshold bias k := by simp only [threshold, minThreshold]; omega
  have hd : (n - threshold bias k) / (base - threshold bias k) ≤ n - threshold bias k :=
    Nat.div_le_self _ _
  omega

/-- Where an encoder stands: the difference not yet written, the bias, and how many
characters have been written. -/
structure Progress where
  delta : Nat
  bias : Nat
  written : Nat
  output : List Char

/-- Writes the places of the code point `n` in a text. -/
def encodePoint (basic n : Nat) (p : Progress) (points : List Nat) : Progress :=
  points.foldl
    (fun p c =>
      if c < n then { p with delta := p.delta + 1 }
      else if c = n then
        { delta := 0
          bias := adapt p.delta (p.written + 1) (p.written == basic)
          written := p.written + 1
          output := p.output ++ digits p.bias base p.delta }
      else p)
    p

/-- Writes the code points from the least to the greatest. -/
def encodePoints (basic : Nat) (points : List Nat) : Nat → Progress → List Nat → List Char
  | _, p, [] => p.output
  | before, p, n :: larger =>
    let p := { p with delta := p.delta + (n - before) * (p.written + 1) }
    let p := encodePoint basic n p points
    encodePoints basic points (n + 1) { p with delta := p.delta + 1 } larger

/-- The ASCII form of a text. -/
def encode (cs : List Char) : List Char :=
  let points := cs.map Char.toNat
  let ascii := cs.filter fun c => c.toNat < initialCode
  let others := ((points.filter fun n => initialCode ≤ n).mergeSort fun a b => a ≤ b).eraseDups
  let start := if ascii.isEmpty then [] else ascii ++ ['-']
  encodePoints ascii.length points initialCode ⟨0, initialBias, ascii.length, start⟩ others

/-- Reads a number from its digits from place `k` on: its value and what follows. -/
def number? (bias k weight sum : Nat) : List Char → Option (Nat × List Char)
  | [] => none
  | c :: rest => do
    let d ← digitValue? c
    let t := threshold bias k
    let sum := sum + d * weight
    if d < t then some (sum, rest) else number? bias (k + base) (weight * (base - t)) sum rest

theorem length_lt_of_number? {bias k weight sum n : Nat} {cs rest : List Char}
    (h : number? bias k weight sum cs = some (n, rest)) : rest.length < cs.length := by
  induction cs generalizing k weight sum with
  | nil => simp [number?] at h
  | cons c cs ih =>
    simp only [number?, Option.bind_eq_bind, Option.bind_eq_some_iff] at h
    obtain ⟨d, _, h⟩ := h
    split at h
    · simp only [Option.some.injEq, Prod.mk.injEq] at h
      obtain ⟨_, rfl⟩ := h
      simp
    · have := ih h
      simp only [List.length_cons]
      omega

/-- Inserts the characters whose differences are written in `cs` into `done`. -/
def insertAll? (code index bias : Nat) (done : List Nat) (cs : List Char) : Option (List Nat) :=
  if cs.isEmpty then some done
  else
    match h : number? bias base 1 0 cs with
    | none => none
    | some (delta, rest) =>
      let points := done.length + 1
      let place := index + delta
      let code := code + place / points
      if 0x10FFFF < code then none
      else
        insertAll? code (place % points + 1) (adapt delta points (index == 0))
          (done.insertIdx (place % points) code) rest
termination_by cs.length
decreasing_by exact length_lt_of_number? h

/-- The parts of an ASCII form before and behind its last hyphen, behind which there is all
if nothing stands before it. -/
def lastHyphen (cs : List Char) : List Char × List Char :=
  let tail := (cs.reverse.takeWhile (· != '-')).reverse
  let front := (cs.take (cs.length - tail.length)).dropLast
  if front.isEmpty then ([], cs) else (front, tail)

/-- The text of an ASCII form. -/
def decode? (cs : List Char) : Option (List Char) := do
  let (ascii, differences) := lastHyphen cs
  let points ← insertAll? initialCode 0 initialBias (ascii.map Char.toNat) differences
  points.mapM fun n => if n.isValidChar then some (Char.ofNat n) else none

end MapStyle.Punycode
