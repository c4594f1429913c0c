import TypedClient.Text.Digits

/-!
Contract: percent escapes in addresses.

Owns:
- for each part of an address, the characters that have to be escaped in it;
- `escaped`, a text with its characters escaped octet by octet;
- `octets`, what a text with escapes stands for.

Does not own: where the parts of an address begin and end.
-/

namespace TypedClient.Url

/-- Escaped everywhere: control characters, and everything beyond ASCII. -/
def isControl (character : Char) : Bool :=
  character.toNat < 0x20 || 0x7F ≤ character.toNat

/-- Escaped in a fragment. -/
def isUnsafeInFragment (character : Char) : Bool :=
  isControl character || [' ', '"', '<', '>', '\x60'].contains character

/-- Escaped in a query. -/
def isUnsafeInQuery (character : Char) : Bool :=
  isControl character || [' ', '"', '#', '<', '>'].contains character

/-- Escaped in the query of a well-known scheme. -/
def isUnsafeInKnownQuery (character : Char) : Bool :=
  isUnsafeInQuery character || character = '\''

/-- Escaped in a segment of a path. -/
def isUnsafeInPath (character : Char) : Bool :=
  isUnsafeInFragment character || ['#', '?', '{', '}'].contains character

/-- Escaped in the name and the password of a user. -/
def isUnsafeInUser (character : Char) : Bool :=
  isUnsafeInPath character ||
    ['/', ':', ';', '=', '@', '[', '\\', ']', '^', '|'].contains character

def escapedChar (character : Char) : List Char :=
  (String.utf8EncodeChar character).flatMap (fun octet => '%' :: Text.octetDigits octet.toNat)

/-- The text with the characters of a set escaped. An escape that is already there stays. -/
def escaped (isUnsafe : Char → Bool) (text : List Char) : List Char :=
  text.flatMap (fun character => if isUnsafe character then escapedChar character else [character])

/-- The octets of a text in which escapes stand for octets. A percent sign without two digits
stands for itself. -/
def octets : List Char → List UInt8
  | [] => []
  | '%' :: high :: low :: rest =>
      match Text.digitValue? 16 high, Text.digitValue? 16 low with
      | some upper, some lower => UInt8.ofNat (upper * 16 + lower) :: octets rest
      | _, _ => '%'.toNat.toUInt8 :: octets (high :: low :: rest)
  | character :: rest => String.utf8EncodeChar character ++ octets rest

/-- The text that a text with escapes stands for, if its octets are a text. -/
def unescaped? (text : List Char) : Option (List Char) :=
  (String.fromUTF8? (ByteArray.mk (octets text).toArray)).map String.toList

theorem escaped_append (isUnsafe : Char → Bool) (left right : List Char) :
    escaped isUnsafe (left ++ right) = escaped isUnsafe left ++ escaped isUnsafe right := by
  simp [escaped]

theorem escaped_of_safe {isUnsafe : Char → Bool} {text : List Char}
    (safe : ∀ character ∈ text, isUnsafe character = false) : escaped isUnsafe text = text := by
  induction text with
  | nil => rfl
  | cons character rest inductionHypothesis =>
      have restSafe := inductionHypothesis
        (fun other member => safe other (List.mem_cons_of_mem _ member))
      simp only [escaped, List.flatMap_cons] at restSafe ⊢
      simp [safe character List.mem_cons_self, restSafe]

end TypedClient.Url
