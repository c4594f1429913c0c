import TypedClient.Number.Shortest

/-!
Contract: decimal text of doubles.

Owns:
- `Layout`, the decisions that a text format takes: from which to which power of ten the digits
  are written out, and whether a positive exponent carries a sign;
- `Layout.write`, the text of a double under such decisions.

Does not own: the choice of digits.
-/

namespace TypedClient.Number

/-- How a format writes the digits of a double. -/
structure Layout where
  /-- The smallest power of ten of the first digit that is written without an exponent. -/
  smallest : Int
  /-- The largest power of ten of the first digit that is written without an exponent. -/
  largest : Int
  /-- Whether a positive exponent is written with a plus sign. -/
  plusSign : Bool
deriving DecidableEq, Repr

namespace Layout

/-- Digits written out: at least one before the point and at least one after it. -/
def positional (digits : List Char) (leading : Int) : List Char :=
  if leading < 0 then
    '0' :: '.' :: List.replicate (-leading - 1).toNat '0' ++ digits
  else
    let whole := leading.toNat + 1
    let padded := digits ++ List.replicate (whole - digits.length) '0'
    let fraction := padded.drop whole
    padded.take whole ++ '.' :: (if fraction.isEmpty then ['0'] else fraction)

/-- Digits with the point after the first one, and the power of ten of that digit. -/
def exponential (plusSign : Bool) (digits : List Char) (leading : Int) : List Char :=
  let mantissa := digits.take 1 ++
    (if digits.length ≤ 1 then [] else '.' :: digits.drop 1)
  let sign := if leading < 0 then ['-'] else if plusSign then ['+'] else []
  mantissa ++ 'e' :: sign ++ Nat.toDigits 10 leading.natAbs

/-- The text of a double. -/
def write (layout : Layout) (value : Binary64) : String :=
  let sign := if value.negative then ['-'] else []
  if value.isZero then String.ofList (sign ++ ['0', '.', '0'])
  else
    let parts := value.shortest
    let digits := Nat.toDigits 10 parts.digits
    let leading : Int := parts.exponent + digits.length - 1
    let body :=
      if layout.smallest ≤ leading && leading ≤ layout.largest
      then positional digits leading
      else exponential layout.plusSign digits leading
    String.ofList (sign ++ body)

end Layout

end TypedClient.Number
