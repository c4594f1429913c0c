import TypedClient.Json.Cursor
import TypedClient.Number.Decimal
import TypedClient.Text.Digits

/-!
Contract: the strings and numbers of a JSON text.

Owns:
- strings with their escapes, pairs of surrogates included;
- numbers: integers of at most 64 bits, and doubles for everything else;
- passing over a string or a number whose value is not wanted, which checks less.

Does not own: lists, objects and words.
-/

namespace TypedClient.Json.Reader

open TypedClient.Number

/-- The place so many bytes further; a character that is cut counts with the bytes passed. -/
def placeAfterBytes (place : Place) : Nat → List Char → Place
  | 0, _ => place
  | _ + 1, [] => place
  | count + 1, character :: rest =>
      if character.utf8Size ≤ count + 1 then
        placeAfterBytes (place.after character) (count + 1 - character.utf8Size) rest
      else ⟨place.line, place.column + count + 1⟩
termination_by _ rest => rest.length

/-- The four digits of an escape as a number. -/
def fourDigits : Reader Nat := fun cursor =>
  let digits := cursor.rest.take 4
  match digits.mapM (Text.digitValue? 16) with
  | some [first, second, third, fourth] =>
      .ok (((first * 16 + second) * 16 + third) * 16 + fourth) (cursor.skip 4)
  | _ =>
      if digits.foldl (fun count digit => count + digit.utf8Size) 0 < 4 then
        let final := cursor.skip cursor.rest.length
        .error ⟨.endInString, some final.place⟩ final
      else
        .error ⟨.invalidEscape, some (placeAfterBytes cursor.place 4 cursor.rest)⟩ cursor

/-- Whether a code unit is the first of a surrogate pair. -/
def isLeading (unit : Nat) : Bool := 0xD800 ≤ unit && unit ≤ 0xDBFF

/-- Whether a code unit is the second of a surrogate pair. -/
def isTrailing (unit : Nat) : Bool := 0xDC00 ≤ unit && unit ≤ 0xDFFF

/-- Pass over a character that has to follow the first half of a pair. -/
def pairMark (mark : Char) : Reader Unit := do
  match ← peek with
  | none => failHere .endInString
  | some character => if character = mark then eat else failAhead .unfinishedSurrogate

/-- The character of a numeric escape, after the letter that starts it. -/
def numericEscape : Reader Char := do
  let unit ← fourDigits
  if isTrailing unit then
    failHere .loneSurrogate
  else if isLeading unit then
    pairMark '\\'
    pairMark 'u'
    let second ← fourDigits
    if isTrailing second then
      return Char.ofNat ((unit - 0xD800) * 0x400 + (second - 0xDC00) + 0x10000)
    else failHere .loneSurrogate
  else return Char.ofNat unit

/-- The character that a letter after a backslash stands for. -/
def shortEscape? : Char → Option Char
  | '"' => some '"'
  | '\\' => some '\\'
  | '/' => some '/'
  | 'b' => some '\x08'
  | 'f' => some '\x0c'
  | 'n' => some '\n'
  | 'r' => some '\r'
  | 't' => some '\t'
  | _ => none

/-- The character of an escape, after its backslash. -/
def escape (numeric : Reader Char) : Reader Char := do
  match ← peek with
  | none => failHere .endInString
  | some 'u' =>
      eat
      numeric
  | some letter =>
      match shortEscape? letter with
      | some character =>
          eat
          return character
      | none => failAhead .invalidEscape

/-- The characters up to the closing quotation mark, in reverse before `collected`. Each step
passes over a character, so the length of the text bounds the steps. -/
def stringFrom (numeric : Reader Char) (collected : List Char) : Nat → Reader (List Char)
  | 0 => failHere .endInString
  | steps + 1 => do
      match ← peek with
      | none => failHere .endInString
      | some '"' =>
          eat
          return collected.reverse
      | some '\\' =>
          eat
          let character ← escape numeric
          stringFrom numeric (character :: collected) steps
      | some character =>
          if character.toNat < 0x20 then failAhead .controlCharacter
          else
            eat
            stringFrom numeric (character :: collected) steps

/-- The text of a string, after its opening quotation mark. -/
def string : Reader String := do
  let cursor ← get
  return String.ofList (← stringFrom numericEscape [] (cursor.size + 1))

/-- Pass over a string, after its opening quotation mark: numeric escapes need their four digits
and nothing more. -/
def skipString : Reader Unit := do
  let cursor ← get
  let _ ← stringFrom (Char.ofNat <$> fourDigits) [] (cursor.size + 1)

/-- The digits that come next. -/
def digits : Reader (List Nat) := fun cursor =>
  let characters := cursor.rest.takeWhile Char.isDigit
  .ok (characters.map (fun character => character.toNat - '0'.toNat))
    (cursor.skip characters.length)

/-- The largest significand. -/
def significandLimit : Nat := Nat.pow 2 64 - 1

/-- Append digits to a significand while it has at most 64 bits: the significand, and the digits
that did not fit. -/
def appendDigits (significand : Nat) : List Nat → Nat × List Nat
  | [] => (significand, [])
  | digit :: rest =>
      if significandLimit < significand * 10 + digit then (significand, digit :: rest)
      else appendDigits (significand * 10 + digit) rest

/-- The double of a significand and a power of ten, or a failure at the place reached. -/
def scaledReal (negative : Bool) (significand : Nat) (exponent : Int) : Reader Json.Number :=
  match scaled? negative significand exponent with
  | some value => return .real value
  | none => failHere .numberOutOfRange

/-- The largest exponent that is read exactly. -/
def exponentLimit : Nat := Nat.pow 2 31 - 1

/-- Read the digits of an exponent one by one: the exponent, or nothing when the digit just read
makes it larger than the limit. -/
def exponentFrom (exponent : Nat) : Nat → Reader (Option Nat)
  | 0 => return some exponent
  | steps + 1 => do
      match ← peek with
      | some character =>
          if character.isDigit then
            eat
            let larger := exponent * 10 + (character.toNat - '0'.toNat)
            if exponentLimit < larger then return none
            else exponentFrom larger steps
          else return some exponent
      | none => return some exponent

def exponentPart (negative : Bool) (significand : Nat) (start : Int) : Reader Json.Number := do
  eat
  let mark ← peek
  if mark = some '+' || mark = some '-' then eat
  let downward := mark = some '-'
  match ← peek with
  | none => failHere .endInValue
  | some character =>
      if character.isDigit then
        eat
        let cursor ← get
        match ← exponentFrom (character.toNat - '0'.toNat) cursor.size with
        | some exponent =>
            scaledReal negative significand
              (if downward then start - exponent else start + exponent)
        | none =>
            if significand ≠ 0 && !downward then failHere .numberOutOfRange
            else
              let _ ← digits
              return .real (Binary64.zero negative)
      else failAhead .invalidNumber

def isExponentMark (mark : Option Char) : Bool := mark = some 'e' || mark = some 'E'

/-- A number from its decimal point on. `start` counts the digits before the point that did not
fit into the significand. Digits after the point that do not fit are passed over. -/
def fractionPart (negative : Bool) (significand : Nat) (start : Int) : Reader Json.Number := do
  eat
  let fraction ← digits
  if fraction.isEmpty then
    match ← peek with
    | some _ => failAhead .invalidNumber
    | none => failAhead .endInValue
  else
    let (widened, left) := appendDigits significand fraction
    let exponent := start - (fraction.length - left.length)
    if isExponentMark (← peek) then exponentPart negative widened exponent
    else scaledReal negative widened exponent

/-- The number that the digits of an integer alone stand for. -/
def integerNumber (negative : Bool) (significand : Nat) : Json.Number :=
  if !negative then .integer significand
  else if significand = 0 || Nat.pow 2 63 < significand then
    .real ((Binary64.ofNat significand).withSign true)
  else .integer (-significand)

/-- A number, after its minus sign if it has one. -/
def number (negative : Bool) : Reader Json.Number := do
  match ← peek with
  | none => failHere .endInValue
  | some first =>
      if !first.isDigit then
        failAhead .invalidNumber
      else if first = '0' then
        eat
        match ← peek with
        | some character =>
            if character.isDigit then failAhead .invalidNumber
            else finish 0 0
        | none => finish 0 0
      else
        let whole ← digits
        let (significand, left) := appendDigits 0 whole
        finish significand left.length
where
  /-- What follows the digits before the point, of which `dropped` did not fit. -/
  finish (significand : Nat) (dropped : Nat) : Reader Json.Number := do
    let mark ← peek
    if mark = some '.' then fractionPart negative significand dropped
    else if isExponentMark mark then exponentPart negative significand dropped
    else if dropped = 0 then return integerNumber negative significand
    else scaledReal negative significand dropped

/-- Pass over an exponent from its mark on. -/
def skipExponent : Reader Unit := do
  eat
  let mark ← peek
  if mark = some '+' || mark = some '-' then eat
  match ← digits with
  | [] => failAhead .invalidNumber
  | _ :: _ => return ()

/-- Pass over a fraction from its point on. -/
def skipFraction : Reader Unit := do
  eat
  match ← digits with
  | [] => failAhead .invalidNumber
  | _ :: _ => if isExponentMark (← peek) then skipExponent

/-- Pass over a number, after its minus sign if it has one: its size does not matter. -/
def skipNumber : Reader Unit := do
  match ← peek with
  | none => failHere .invalidNumber
  | some first =>
      if !first.isDigit then
        failAhead .invalidNumber
      else
        if first = '0' then
          eat
          if let some character ← peek then
            if character.isDigit then failAhead .invalidNumber
        else
          let _ ← digits
        let mark ← peek
        if mark = some '.' then skipFraction
        else if isExponentMark mark then skipExponent

end TypedClient.Json.Reader
