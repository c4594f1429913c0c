import TypedClient.Number.Decimal
import TypedClient.Text.Digits
import TypedClient.Yaml.Value

/-!
Contract: what a plain scalar stands for.

Owns:
- the words for null, true and false;
- integers in four bases, and reals;
- the value of a plain scalar, and of a scalar whose tag says what it has to be.

Does not own: quoted scalars, which are texts.
-/

namespace TypedClient.Yaml.Scalar

open TypedClient.Number (Binary64)
open TypedClient.Text (natural?)

def isNullWord (text : List Char) : Bool :=
  ["null", "Null", "NULL", "~"].contains (String.ofList text)

/-- The truth value of a word. -/
def boolean? (text : List Char) : Option Bool :=
  let word := String.ofList text
  if ["true", "True", "TRUE"].contains word then some true
  else if ["false", "False", "FALSE"].contains word then some false
  else none

/-- A text without a sign in front. -/
def withoutSign : List Char → List Char
  | '+' :: rest => rest
  | '-' :: rest => rest
  | text => text

/-- Whether a text holds digits alone, of which the first is a zero that is not the only one. Such a
text is no number. -/
def isPadded (text : List Char) : Bool :=
  match withoutSign text with
  | '0' :: rest => !rest.isEmpty && rest.all Char.isDigit
  | _ => false

/-- The number that stands behind its sign: in decimal digits, or in another base after its mark. -/
def magnitude? (text digits : List Char) : Option Nat :=
  match digits with
  | '0' :: 'x' :: rest => natural? 16 rest
  | '0' :: 'o' :: rest => natural? 8 rest
  | '0' :: 'b' :: rest => natural? 2 rest
  | _ => if isPadded text then none else natural? 10 digits

def integer? (text : List Char) : Option Int :=
  match text with
  | '+' :: rest => (magnitude? text rest).map Int.ofNat
  | '-' :: rest => (magnitude? text rest).map (fun number => -(number : Int))
  | _ => (magnitude? text text).map Int.ofNat

/-- The exponent at the end of a real; no text stands for zero. -/
def exponent? : List Char → Option Int
  | [] => some 0
  | mark :: rest =>
      if mark = 'e' || mark = 'E' then
        match rest with
        | '-' :: digits => (natural? 10 digits).map (fun number => -(number : Int))
        | '+' :: digits => (natural? 10 digits).map Int.ofNat
        | digits => (natural? 10 digits).map Int.ofNat
      else none

/-- The double nearest to a decimal number: digits with a point among them or not, and an
exponent. -/
def decimal? (isNegative : Bool) (text : List Char) : Option Binary64 := do
  let whole := text.takeWhile Char.isDigit
  let rest := text.dropWhile Char.isDigit
  let (fraction, rest) :=
    match rest with
    | '.' :: after => (after.takeWhile Char.isDigit, after.dropWhile Char.isDigit)
    | _ => ([], rest)
  let digits ← natural? 10 (whole ++ fraction)
  let exponent ← exponent? rest
  TypedClient.Number.nearest? isNegative digits (exponent - fraction.length)

def real? (text : List Char) : Option Number :=
  let word := String.ofList text
  if [".inf", ".Inf", ".INF", "+.inf", "+.Inf", "+.INF"].contains word then
    some (.infinity false)
  else if ["-.inf", "-.Inf", "-.INF"].contains word then some (.infinity true)
  else if [".nan", ".NaN", ".NAN"].contains word then some .nan
  else
    match text with
    | '+' :: rest => (decimal? false rest).map .real
    | '-' :: rest => (decimal? true rest).map .real
    | _ => (decimal? false text).map .real

/-- What an integer is accepted as. -/
inductive Width where
  /-- At most 64 bits. -/
  | fits
  /-- More than 64 bits, and at most 128. -/
  | wide
  | tooWide
deriving DecidableEq, Repr

/-- What an integer is accepted as. -/
def widthOf (value : Int) : Width :=
  if -(Nat.pow 2 63 : Nat) ≤ value ∧ value < (Nat.pow 2 64 : Nat) then .fits
  else if -(Nat.pow 2 127 : Nat) ≤ value ∧ value < (Nat.pow 2 128 : Nat) then .wide
  else .tooWide

/-- Why a scalar has no value. -/
inductive Refusal where
  /-- An integer of more than 64 bits. -/
  | wideInteger (value : Int)
  /-- A text that is not what its tag says. -/
  | notA (expected : String) (text : String)
deriving DecidableEq, Repr

/-- The wording of a refusal of wide integers. -/
def describeWide (value : Int) : String :=
  "invalid type: integer \x60" ++ toString value ++ "\x60 as " ++
    (if value < 0 then "i128" else "u128") ++ ", expected any YAML value"

/-- The integer of a text, if it has one of at most 128 bits. -/
def integerValue? (text : List Char) : Option (Except Refusal Value) :=
  match integer? text with
  | none => none
  | some value =>
      match widthOf value with
      | .fits => some (.ok (.number (.integer value)))
      | .wide => some (.error (.wideInteger value))
      | .tooWide => none

/-- What a plain scalar stands for. -/
def plainValue (text : String) : Except Refusal Value :=
  let characters := text.toList
  if characters.isEmpty || isNullWord characters then .ok .null
  else
    match boolean? characters with
    | some value => .ok (.boolean value)
    | none =>
        match integerValue? characters with
        | some result => result
        | none =>
            match if isPadded characters then none else real? characters with
            | some value => .ok (.number value)
            | none => .ok (.string text)

/-- What the tags of the core schema start with. -/
def corePlace : String := "tag:yaml.org,2002:"

/-- The value of a scalar with a tag of its own. A tag of the core schema says what the scalar has
to be; with any other, it is a text. -/
def taggedValue (tag text : String) : Except Refusal Value :=
  let characters := text.toList
  let orRefuse (value? : Option Value) (expected : String) : Except Refusal Value :=
    match value? with
    | some value => .ok value
    | none => .error (.notA expected text)
  if tag = corePlace ++ "bool" then
    orRefuse ((boolean? characters).map .boolean) "a boolean"
  else if tag = corePlace ++ "int" then
    (integerValue? characters).getD (.error (.notA "an integer" text))
  else if tag = corePlace ++ "float" then
    orRefuse ((real? characters).map .number) "a float"
  else if tag = corePlace ++ "null" then
    orRefuse (if isNullWord characters then some .null else none) "null"
  else .ok (.string text)

end TypedClient.Yaml.Scalar
