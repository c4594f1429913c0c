import TypedClient.Url.Domain
import TypedClient.Url.Percent

/-!
Contract: the hosts of addresses.

Owns:
- numeric addresses of four octets, and of eight pieces;
- `Host`, its reading under well-known schemes and under others, and its written form.

Does not own: the number after a host, and the users in front of it.
-/

namespace TypedClient.Url

/-- A host. The empty name is an absent host. -/
inductive Host where
  | name (text : List Char)
  /-- Four octets as one number. -/
  | fourOctets (number : Nat)
  | eightPieces (pieces : List Nat)
deriving DecidableEq, Repr

namespace Host

/-- A part of a number of four octets: decimal, octal after a zero, hexadecimal after `0x`. -/
def numberPart? : List Char → Option Nat
  | [] => none
  | ['0', 'x'] => some 0
  | '0' :: 'x' :: digits => Text.natural? 16 digits
  | ['0', 'X'] => some 0
  | '0' :: 'X' :: digits => Text.natural? 16 digits
  | ['0'] => some 0
  | '0' :: digits => Text.natural? 8 digits
  | digits => Text.natural? 10 digits

/-- The parts of a name between its dots; a dot at the end does not count. -/
def dottedParts (name : List Char) : List (List Char) :=
  let parts := Text.splitWhere (· = '.') name
  if parts.getLast? = some [] then parts.dropLast else parts

/-- Whether a name has to be a number: its last part is one, or has digits alone. -/
def endsInNumber (name : List Char) : Bool :=
  match (dottedParts name).getLast? with
  | none => false
  | some [] => false
  | some part => part.all Char.isDigit || (numberPart? part).isSome

/-- The number of some parts, of which the last one fills the octets that are left. -/
def numberOfParts? (parts : List Nat) : Option Nat :=
  match parts.reverse with
  | [] => none
  | last :: before =>
      let free := Nat.pow 256 (4 - before.length)
      if 4 < parts.length then none
      else if before.any (255 < ·) then none
      else if free ≤ last then none
      else some (before.reverse.foldl (fun number part => number * 256 + part) 0 * free + last)

def number? (name : List Char) : Option Nat := do
  numberOfParts? (← (dottedParts name).mapM numberPart?)

/-- An octet in decimal digits, without leading zeros. -/
def decimalOctet? (digits : List Char) : Option Nat :=
  match digits with
  | '0' :: _ :: _ => none
  | _ =>
      match Text.natural? 10 digits with
      | some number => if number ≤ 255 then some number else none
      | none => none

/-- Four octets with dots between them, as the last two pieces of an address. -/
def dottedPieces? (text : List Char) : Option (List Nat) :=
  match (Text.splitWhere (· = '.') text).mapM decimalOctet? with
  | some [first, second, third, fourth] => some [first * 256 + second, third * 256 + fourth]
  | _ => none

/-- A piece of an address: at most four hexadecimal digits. -/
def piece? (text : List Char) : Option Nat :=
  if text.length ≤ 4 then Text.natural? 16 text else none

/-- The pieces of a part of an address; only the last part may end in four octets. -/
def piecesOf? (isLast : Bool) : List (List Char) → Option (List Nat)
  | [] => some []
  | [group] =>
      if isLast && group.contains '.' then dottedPieces? group
      else (piece? group).map (fun piece => [piece])
  | group :: groups => do return (← piece? group) :: (← piecesOf? isLast groups)

/-- The pieces between colons; an empty part has none. -/
def partPieces? (isLast : Bool) (part : List Char) : Option (List Nat) :=
  if part.isEmpty then some [] else piecesOf? isLast (Text.splitWhere (· = ':') part)

/-- The text before and after the first two colons in a row. -/
def splitAtGap? : List Char → Option (List Char × List Char)
  | ':' :: ':' :: rest => some ([], rest)
  | character :: rest => (splitAtGap? rest).map (fun parts => (character :: parts.1, parts.2))
  | [] => none

/-- The eight pieces of an address; two colons in a row stand for zeros. -/
def addressPieces? (text : List Char) : Option (List Nat) :=
  match splitAtGap? text with
  | none => do
      let pieces ← piecesOf? true (Text.splitWhere (· = ':') text)
      if pieces.length = 8 then some pieces else none
  | some (before, after) => do
      let left ← partPieces? false before
      let right ← partPieces? true after
      let count := left.length + right.length
      if count ≤ 7 then some (left ++ List.replicate (8 - count) 0 ++ right) else none

/-- The host in square brackets, if the text begins with one. -/
def bracketed? (text : List Char) : Option (List Nat) :=
  if text.getLast? = some ']' then addressPieces? text.dropLast.tail else none

/-- The host of a well-known scheme: a domain, or a numeric address. -/
def known? (text : List Char) : Option Host :=
  if text.head? = some '[' then (bracketed? text).map .eightPieces
  else do
    let name ← Domain.normalized? (← unescaped? text)
    if name.isEmpty then none
    else if endsInNumber name then (number? name).map .fourOctets
    else some (.name name)

/-- The characters that no host may have. -/
def isForbidden (character : Char) : Bool :=
  ['\x00', '\t', '\n', '\r', ' ', '#', '/', ':', '<', '>', '?', '@', '[', '\\', ']', '^',
    '|'].contains character

/-- The host of any other scheme, which is kept as it is. -/
def other? (text : List Char) : Option Host :=
  if text.head? = some '[' then (bracketed? text).map .eightPieces
  else if text.any isForbidden then none
  else some (.name (escaped isControl text))

/-- How many zeros a list begins with. -/
def zeroCount (pieces : List Nat) : Nat := (pieces.takeWhile (· = 0)).length

/-- Where the longest row of zeros begins, the first of several, and how long it is. -/
def longestZeros : List Nat → Nat × Nat
  | [] => (0, 0)
  | piece :: rest =>
      let here := zeroCount (piece :: rest)
      let (start, count) := longestZeros rest
      if count ≤ here then (0, here) else (start + 1, count)

/-- Pieces with colons between them. -/
def joined (pieces : List Nat) : List Char := [':'].intercalate (pieces.map Text.hexDigits)

/-- An address of eight pieces, its longest row of zeros left out. -/
def renderPieces (pieces : List Nat) : List Char :=
  let (start, count) := longestZeros pieces
  if count < 2 then joined pieces
  else joined (pieces.take start) ++ "::".toList ++ joined (pieces.drop (start + count))

/-- The decimal octets of a number, with dots between them. -/
def renderOctets (number : Nat) : List Char :=
  ['.'].intercalate ([16777216, 65536, 256, 1].map (fun weight =>
    Nat.toDigits 10 (number / weight % 256)))

/-- A host as it is written. -/
def render : Host → List Char
  | .name text => text
  | .fourOctets number => renderOctets number
  | .eightPieces pieces => '[' :: renderPieces pieces ++ [']']

end Host

end TypedClient.Url
