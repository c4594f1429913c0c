import TypedClient.Number.Binary64

/-!
Contract: the fewest decimal digits that name a double.

Owns:
- the interval of reals that round to a given double, and membership of a decimal in it;
- `shortest`, the fewest digits that lie in the interval, and among those the nearest.

Does not own: where the decimal point and the exponent are written.
-/

namespace TypedClient.Number

/-- A decimal `digits · 10 ^ exponent`. -/
structure DecimalParts where
  digits : Nat
  exponent : Int
deriving DecidableEq, Repr

namespace Binary64

/-- Four times the magnitude of a double, its lower and its upper rounding bound, all over one
common power of two; the last component is that power's exponent. -/
def bounds (value : Binary64) : Nat × Nat × Nat × Int :=
  let middle := 4 * value.significand
  let tight := value.significand = significandBound / 2 && minExponent < value.exponent
  (middle, middle - (if tight then 1 else 2), middle + 2, value.exponent - 2)

/-- The two sides of a comparison between `significand · 2 ^ binary` and `digits · 10 ^ decimal`,
as naturals over a common denominator. -/
def align (significand : Nat) (binary : Int) (digits : Nat) (decimal : Int) : Nat × Nat :=
  (significand * Nat.pow 2 binary.toNat * Nat.pow 10 (-decimal).toNat,
   digits * Nat.pow 10 decimal.toNat * Nat.pow 2 (-binary).toNat)

/-- Whether a decimal rounds to the magnitude of a double: it lies between the bounds, which
themselves count exactly when the significand is even. -/
def accepts (value : Binary64) (candidate : DecimalParts) : Bool :=
  let (_, lower, upper, binary) := value.bounds
  let low := align lower binary candidate.digits candidate.exponent
  let high := align upper binary candidate.digits candidate.exponent
  if value.significand % 2 = 0 then low.1 ≤ low.2 && high.2 ≤ high.1
  else low.1 < low.2 && high.2 < high.1

/-- The distance of a decimal from the magnitude of a double, over a denominator that depends on
the two exponents alone. -/
def distance (value : Binary64) (candidate : DecimalParts) : Nat :=
  let sides := align value.significand value.exponent candidate.digits candidate.exponent
  (sides.1 - sides.2) + (sides.2 - sides.1)

/-- The power of ten of the first digit of a positive magnitude. -/
def leadingExponent (value : Binary64) : Int :=
  let estimate : Int :=
    ((Nat.log2 value.significand + value.exponent) * 30103).fdiv 100000
  let above := align value.significand value.exponent 1 (estimate + 1)
  if above.2 ≤ above.1 then estimate + 1 else estimate

/-- The neighbours of a magnitude among the multiples of `10 ^ exponent`. -/
def neighbours (value : Binary64) (exponent : Int) : DecimalParts × DecimalParts :=
  let sides := align value.significand value.exponent 1 exponent
  let floor := sides.1 / sides.2
  (⟨floor, exponent⟩, ⟨floor + 1, exponent⟩)

/-- The nearer of the neighbours that name the double, if one does; of two equally near ones the
even one. -/
def nameAt? (value : Binary64) (exponent : Int) : Option DecimalParts :=
  let (below, above) := value.neighbours exponent
  match value.accepts below, value.accepts above with
  | false, false => none
  | true, false => some below
  | false, true => some above
  | true, true =>
      let down := value.distance below
      let up := value.distance above
      if down < up || (down = up && below.digits % 2 = 0) then some below else some above

end Binary64

/-- Drop the zeros at the end of the digits. -/
def DecimalParts.trimmed (parts : DecimalParts) : DecimalParts :=
  if parts.digits = 0 then parts
  else if parts.digits % 10 = 0 then
    DecimalParts.trimmed ⟨parts.digits / 10, parts.exponent + 1⟩
  else parts
termination_by parts.digits
decreasing_by exact Nat.div_lt_self (by omega) (by omega)

/-- The fewest digits that name a positive double: the first of the grids of 1, 2, … 17 digits on
which a neighbour of the value names it. -/
def Binary64.shortest (value : Binary64) : DecimalParts :=
  let leading := value.leadingExponent
  (((List.range 18).findSome? (fun (places : Nat) => value.nameAt? (leading - places))).getD
    ⟨0, 0⟩).trimmed

end TypedClient.Number
