/-!
Contract: finite double-precision numbers as exact integers.

Owns:
- `Binary64`, a sign and a magnitude `significand · 2 ^ exponent` in its one canonical form;
- rounding a quotient of natural numbers to the nearest such number, ties to even;
- products and quotients of two such numbers, rounded the same way.

Does not own: infinities and undefined results, which a reader of numbers refuses or names itself;
decimal text.
-/

namespace TypedClient.Number

/-- A finite double. In canonical form the significand has at most 53 bits, the exponent is at
least -1074, and one of the two bounds is reached from above: 53 bits exactly, or -1074. -/
structure Binary64 where
  negative : Bool
  significand : Nat
  exponent : Int
deriving DecidableEq, Repr, Inhabited

namespace Binary64

/-- The exponent of the smallest positive number. -/
def minExponent : Int := -1074

/-- The exponent of the largest number. -/
def maxExponent : Int := 971

/-- The number of values of a significand. -/
def significandBound : Nat := Nat.pow 2 53

/-- Zero with a sign. -/
def zero (negative : Bool) : Binary64 := ⟨negative, 0, minExponent⟩

/-- The quotient of two naturals rounded to the nearest natural, a half to the even neighbour. -/
def roundQuotient (numerator denominator : Nat) : Nat :=
  let quotient := numerator / denominator
  let twice := 2 * (numerator % denominator)
  if denominator < twice || (twice = denominator && quotient % 2 = 1) then quotient + 1
  else quotient

/-- `numerator / denominator` counted in units of `2 ^ exponent`, rounded. -/
def unitsOf (numerator denominator : Nat) (exponent : Int) : Nat :=
  if exponent < 0 then roundQuotient (numerator * Nat.pow 2 (-exponent).toNat) denominator
  else roundQuotient numerator (denominator * Nat.pow 2 exponent.toNat)

/-- The exponent at which a positive quotient has 53 bits before its binary point, or the
smallest exponent there is. -/
def unitExponent (numerator denominator : Nat) : Int :=
  let estimate : Int := (Nat.log2 numerator : Int) - Nat.log2 denominator - 53
  let narrow := if estimate < 0
    then numerator * Nat.pow 2 (-estimate).toNat / denominator
    else numerator / (denominator * Nat.pow 2 estimate.toNat)
  let exponent := if significandBound ≤ narrow then estimate + 1 else estimate
  max exponent minExponent

/-- The number nearest to `± numerator / denominator`, ties to even; none beyond the largest. -/
def ofQuotient? (negative : Bool) (numerator denominator : Nat) : Option Binary64 :=
  if numerator = 0 then some (zero negative)
  else
    let exponent := unitExponent numerator denominator
    let units := unitsOf numerator denominator exponent
    let carried : Binary64 :=
      if units = significandBound then ⟨negative, significandBound / 2, exponent + 1⟩
      else ⟨negative, units, exponent⟩
    if carried.significand = 0 then some (zero negative)
    else if carried.exponent ≤ maxExponent then some carried else none

/-- The quotient `numerator / denominator` multiplied by a power of two. -/
def ofScaled? (negative : Bool) (numerator denominator : Nat) (exponent : Int) :
    Option Binary64 :=
  if exponent < 0 then ofQuotient? negative numerator (denominator * Nat.pow 2 (-exponent).toNat)
  else ofQuotient? negative (numerator * Nat.pow 2 exponent.toNat) denominator

/-- The number nearest to a natural number below `2 ^ 1024`. -/
def ofNat (value : Nat) : Binary64 :=
  (ofQuotient? false value 1).getD (zero false)

/-- The rounded product; none beyond the largest number. -/
def mul? (left right : Binary64) : Option Binary64 :=
  ofScaled? (left.negative != right.negative) (left.significand * right.significand) 1
    (left.exponent + right.exponent)

/-- The rounded quotient by a number other than zero; none beyond the largest number. -/
def div? (left right : Binary64) : Option Binary64 :=
  ofScaled? (left.negative != right.negative) left.significand right.significand
    (left.exponent - right.exponent)

/-- Zero of either sign. -/
def isZero (value : Binary64) : Bool := value.significand = 0

/-- The same magnitude with the given sign. -/
def withSign (negative : Bool) (value : Binary64) : Binary64 := { value with negative := negative }

/-- The rounded quotient of naturals is within one half of the exact quotient. -/
theorem roundQuotient_near (numerator : Nat) {denominator : Nat} (positive : 0 < denominator) :
    2 * (roundQuotient numerator denominator * denominator) ≤ 2 * numerator + denominator ∧
      2 * numerator ≤ 2 * (roundQuotient numerator denominator * denominator) + denominator := by
  have split := Nat.div_add_mod numerator denominator
  have small := Nat.mod_lt numerator positive
  have commuted : numerator / denominator * denominator = denominator * (numerator / denominator) :=
    Nat.mul_comm _ _
  unfold roundQuotient
  by_cases up : denominator < 2 * (numerator % denominator) ∨
      (2 * (numerator % denominator) = denominator ∧ numerator / denominator % 2 = 1)
  · have chosen : (if (decide (denominator < 2 * (numerator % denominator)) ||
        (decide (2 * (numerator % denominator) = denominator) &&
          decide (numerator / denominator % 2 = 1))) = true
        then numerator / denominator + 1 else numerator / denominator) =
        numerator / denominator + 1 := by
      simp [up]
    rw [chosen, Nat.add_mul]
    omega
  · have chosen : (if (decide (denominator < 2 * (numerator % denominator)) ||
        (decide (2 * (numerator % denominator) = denominator) &&
          decide (numerator / denominator % 2 = 1))) = true
        then numerator / denominator + 1 else numerator / denominator) =
        numerator / denominator := by
      simp [up]
    rw [chosen]
    omega

end Binary64

end TypedClient.Number
