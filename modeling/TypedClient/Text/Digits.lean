/-!
Contract: digits in bases up to sixteen.

Owns:
- the value of a digit, and the number of a row of digits;
- the hexadecimal digits of a number, in lower and in upper case.

Does not own: signs, marks of a base, and limits on how many digits there are.
-/

namespace TypedClient.Text

/-- The value of a digit in a base of at most sixteen; letters count in both cases. -/
def digitValue? (base : Nat) (character : Char) : Option Nat :=
  let value :=
    if character.isDigit then character.toNat - '0'.toNat
    else if 'a' ≤ character ∧ character ≤ 'f' then character.toNat - 'a'.toNat + 10
    else if 'A' ≤ character ∧ character ≤ 'F' then character.toNat - 'A'.toNat + 10
    else base
  if value < base then some value else none

/-- The number of some digits; there has to be one at least. -/
def natural? (base : Nat) (digits : List Char) : Option Nat :=
  if digits.isEmpty then none
  else (digits.mapM (digitValue? base)).map
    (·.foldl (fun number digit => number * base + digit) 0)

/-- The hexadecimal digits of a number, lower case, without leading zeros. -/
def hexDigits (number : Nat) : List Char :=
  Nat.toDigits 16 number

/-- An octet as two hexadecimal digits in upper case. -/
def octetDigits (octet : Nat) : List Char :=
  [Nat.digitChar (octet / 16 % 16), Nat.digitChar (octet % 16)].map Char.toUpper

theorem digitValue?_lt {base value : Nat} {character : Char}
    (found : digitValue? base character = some value) : value < base := by
  simp only [digitValue?, Option.ite_none_right_eq_some, Option.some.injEq] at found
  exact found.2 ▸ found.1

end TypedClient.Text
