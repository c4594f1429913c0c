import TypedClient.Number.Binary64

/-!
Contract: doubles from decimal digits.

Owns:
- `nearest?`, the double nearest to `digits · 10 ^ exponent`;
- `scaled?`, the double reached by rounding the digits first and then multiplying or dividing by
  the rounded power of ten, one power of at most 308 at a time.

Does not own: which characters form a number.
-/

namespace TypedClient.Number

/-- The largest power of ten that is used in one step. -/
def largestPower : Nat := 308

/-- The double nearest to a power of ten of at most 308. -/
def powerOfTen (exponent : Nat) : Binary64 :=
  Binary64.ofNat (Nat.pow 10 exponent)

def digitCount (number : Nat) : Nat :=
  (Nat.toDigits 10 number).length

/-- The double nearest to `± digits · 10 ^ exponent`, ties to even; none beyond the largest.
Exponents far outside the range of doubles are answered from the number of digits alone. -/
def nearest? (negative : Bool) (digits : Nat) (exponent : Int) : Option Binary64 :=
  let magnitude := digitCount digits + exponent
  if digits = 0 then some (Binary64.zero negative)
  else if 400 < magnitude then none
  else if magnitude < -400 then some (Binary64.zero negative)
  else if exponent < 0 then Binary64.ofQuotient? negative digits (Nat.pow 10 (-exponent).toNat)
  else Binary64.ofQuotient? negative (digits * Nat.pow 10 exponent.toNat) 1

/-- Divide by `10 ^ 308` until the exponent is in reach of one step, then take that step. -/
def scaleFrom? (value : Binary64) (exponent : Int) : Option Binary64 :=
  if exponent.natAbs ≤ largestPower then
    if exponent < 0 then value.div? (powerOfTen exponent.natAbs)
    else value.mul? (powerOfTen exponent.natAbs)
  else if value.isZero then some value
  else if 0 ≤ exponent then none
  else
    match value.div? (powerOfTen largestPower) with
    | some smaller => scaleFrom? smaller (exponent + largestPower)
    | none => none
termination_by (-exponent).toNat
decreasing_by simp [largestPower] at *; omega

/-- The double for `± digits · 10 ^ exponent` when the digits are rounded to a double before the
power of ten is applied; none beyond the largest. -/
def scaled? (negative : Bool) (digits : Nat) (exponent : Int) : Option Binary64 :=
  (scaleFrom? (Binary64.ofNat digits) exponent).map (Binary64.withSign negative)

end TypedClient.Number
