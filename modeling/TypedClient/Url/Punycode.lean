import TypedClient.Text.Digits

/-!
Contract: the writing of a label of any script with letters, digits and hyphens.

Owns:
- the digits in base thirty-six, with thresholds that adapt to the numbers written so far;
- `encode`, the written form of a label, and `decode?`, the label of a written form.

Does not own: which characters a label may have, and the mark in front of a written label.
-/

namespace TypedClient.Url.Punycode

/-- The base of the digits. -/
def base : Nat := 36

def digit (value : Nat) : Char :=
  if value < 26 then Char.ofNat ('a'.toNat + value) else Char.ofNat ('0'.toNat + (value - 26))

/-- The value of a digit. -/
def value? (character : Char) : Option Nat :=
  if character.isDigit then some (character.toNat - '0'.toNat + 26)
  else if character.isAlpha then some (character.toLower.toNat - 'a'.toNat)
  else none

/-- The threshold at a position of a number: a digit below it is the last one. -/
def threshold (bias position : Nat) : Nat :=
  max 1 (min 26 (position - bias))

theorem threshold_pos (bias position : Nat) : 0 < threshold bias position := by
  simp only [threshold]
  omega

theorem threshold_lt_base (bias position : Nat) : threshold bias position < base := by
  simp only [threshold, base]
  omega

/-- How often a number is divided until it is small, and what is left of it. -/
def settle (number count : Nat) : Nat × Nat :=
  if 455 < number then settle (number / 35) (count + base) else (number, count)
termination_by number

/-- The bias after a number was written. The first number is damped, since it is often large. -/
def adapted (isFirst : Bool) (difference length : Nat) : Nat :=
  let halved := if isFirst then difference / 700 else difference / 2
  let (rest, count) := settle (halved + halved / length) 0
  count + 36 * rest / (rest + 38)

def numberDigits (bias position number : Nat) : List Char :=
  let limit := threshold bias position
  if number < limit then [digit number]
  else
    digit (limit + (number - limit) % (base - limit)) ::
      numberDigits bias (position + base) ((number - limit) / (base - limit))
termination_by number
decreasing_by
  have positive := threshold_pos bias position
  have divided : (number - threshold bias position) / (base - threshold bias position) ≤
      number - threshold bias position := Nat.div_le_self _ _
  omega

/-- The state of writing a label. -/
structure Writing where
  /-- The digits so far, in reverse. -/
  digits : List Char := []
  bias : Nat := 72
  /-- What has to be added up to the next character that is written. -/
  difference : Nat := 0
  /-- How many characters of the label are written. -/
  count : Nat

/-- Pass one character of the label while characters with one code point are written. -/
def writeAt (basicCount code : Nat) (writing : Writing) (character : Char) : Writing :=
  if character.toNat < code then { writing with difference := writing.difference + 1 }
  else if character.toNat = code then
    { digits := (numberDigits writing.bias base writing.difference).reverse ++ writing.digits
      bias := adapted (writing.count = basicCount) writing.difference (writing.count + 1)
      difference := 0
      count := writing.count + 1 }
  else writing

/-- Write the characters of the label for each of some code points, in rising order. -/
def writeAll (label : List Char) (basicCount : Nat) : Nat → List Nat → Writing → Writing
  | _, [], writing => writing
  | next, code :: codes, writing =>
      let reached :=
        { writing with difference := writing.difference + (code - next) * (writing.count + 1) }
      let written := label.foldl (writeAt basicCount code) reached
      writeAll label basicCount (code + 1) codes
        { written with difference := written.difference + 1 }

/-- Whether a character is written as it is. -/
def isBasic (character : Char) : Bool := character.toNat < 0x80

/-- The written form of a label: its basic characters, a hyphen after them, and the others as
numbers. -/
def encode (label : List Char) : List Char :=
  let basic := label.filter isBasic
  let others := label.filter (fun character => !isBasic character)
  let codes := (others.map Char.toNat).eraseDups.mergeSort
  let written := writeAll label basic.length 0x80 codes { count := basic.length }
  (if basic.isEmpty then [] else basic ++ ['-']) ++ written.digits.reverse

/-- Read a number: what it adds, and the text after it. -/
def readNumber (bias : Nat) : Nat → Nat → Nat → List Char → Option (Nat × List Char)
  | _, _, _, [] => none
  | position, weight, total, character :: rest =>
      match value? character with
      | none => none
      | some value =>
          let limit := threshold bias position
          if value < limit then some (total + value * weight, rest)
          else
            readNumber bias (position + base) (weight * (base - limit)) (total + value * weight)
              rest

theorem length_lt_of_readNumber {bias position weight total number : Nat} {text rest : List Char}
    (read : readNumber bias position weight total text = some (number, rest)) :
    rest.length < text.length := by
  induction text generalizing position weight total with
  | nil => simp [readNumber] at read
  | cons character tail inductionHypothesis =>
      simp only [readNumber] at read
      split at read
      · simp at read
      · split at read
        · simp only [Option.some.injEq, Prod.mk.injEq] at read
          simp [read.2]
        · have shorter := inductionHypothesis read
          simp only [List.length_cons]
          omega

def readAll (bias code place : Nat) (label text : List Char) : Option (List Char) :=
  match text with
  | [] => some label
  | first :: tail =>
      match _ : readNumber bias base 1 0 (first :: tail) with
      | none => none
      | some (number, rest) =>
          let length := label.length + 1
          let reached := place + number
          let nextCode := code + reached / length
          if nextCode.isValidChar then
            readAll (adapted (place = 0) number length) nextCode
              (reached % length + 1) (label.insertIdx (reached % length) (Char.ofNat nextCode)) rest
          else none
termination_by text.length
decreasing_by
  have shorter := length_lt_of_readNumber ‹_›
  simpa using shorter

/-- The label of a written form. -/
def decode? (text : List Char) : Option (List Char) :=
  let digits := (text.reverse.takeWhile (· ≠ '-')).reverse
  let before := text.take (text.length - digits.length)
  match before.dropLast, before with
  | _, [] => readAll 72 0x80 0 [] digits
  | [], _ => none
  | basic, _ => if basic.all isBasic then readAll 72 0x80 0 basic digits else none

end TypedClient.Url.Punycode
