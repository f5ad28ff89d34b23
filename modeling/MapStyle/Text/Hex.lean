/-
Hexadecimal digits.
-/
namespace MapStyle.Text

/-- The value of a hexadecimal digit of either case. -/
def hexValue? (c : Char) : Option Nat :=
  if c.isDigit then some (c.toNat - '0'.toNat)
  else if 'a' ≤ c ∧ c ≤ 'f' then some (c.toNat - 'a'.toNat + 10)
  else if 'A' ≤ c ∧ c ≤ 'F' then some (c.toNat - 'A'.toNat + 10)
  else none

/-- Whether a character is a hexadecimal digit. -/
def isHex (c : Char) : Bool := (hexValue? c).isSome

/-- The lower-case digit of a value below sixteen. -/
def lowerHex (n : Nat) : Char := Nat.digitChar n

/-- The upper-case digit of a value below sixteen. -/
def upperHex (n : Nat) : Char := (Nat.digitChar n).toUpper

end MapStyle.Text
