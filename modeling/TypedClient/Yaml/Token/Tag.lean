import TypedClient.Text.Digits
import TypedClient.Yaml.Token.Cursor

/-!
Contract: tags, anchors and directives of a YAML text.

Owns:
- tags in their three forms, with escaped octets;
- anchors and aliases;
- the directives for the version and for tags.

Does not own: what a tag handle stands for.
-/

namespace TypedClient.Yaml.Lex

/-- The characters of a tag besides those of names, escapes apart. -/
def isTagMark (character : Char) : Bool :=
  [';', '/', '?', ':', '@', '&', '=', '+', '$', '.', '!', '~', '*', '\'', '(', ')'].contains
    character

/-- The characters that only a tag in angle brackets or in a directive may hold. -/
def isAddressMark (character : Char) : Bool := [',', '[', ']'].contains character

/-- The octet that is escaped here. -/
def octet (activity : Activity) (since : Mark) : Lex Nat := do
  match (← get).rest with
  | '%' :: high :: low :: _ =>
      match Text.digitValue? 16 high, Text.digitValue? 16 low with
      | some high, some low => return high * 16 + low
      | _, _ => failWhile activity since .noEscapedOctet
  | _ => failWhile activity since .noEscapedOctet

/-- The octets that follow the first one of an escaped character. -/
def laterOctets (activity : Activity) (since : Mark) (number : Nat) : Nat → Lex Nat
  | 0 => return number
  | count + 1 => do
      let octet ← octet activity since
      if octet / 0x40 ≠ 2 then failWhile activity since .badTrailingOctet
      skip 3
      laterOctets activity since (number * 0x40 + octet % 0x40) count

/-- The character whose octets are escaped here. -/
def escapedCharacter (activity : Activity) (since : Mark) : Lex Char := do
  let first ← octet activity since
  if first < 0x80 then
    skip 3
    return Char.ofNat first
  else if first / 0x20 = 6 then
    skip 3
    return Char.ofNat (← laterOctets activity since (first % 0x20) 1)
  else if first / 0x10 = 14 then
    skip 3
    return Char.ofNat (← laterOctets activity since (first % 0x10) 2)
  else if first / 0x08 = 30 then
    skip 3
    return Char.ofNat (← laterOctets activity since (first % 0x08) 3)
  else failWhile activity since .badLeadingOctet

/-- The characters of a tag, in reverse before those collected. -/
def tagTextFrom (isAddress : Bool) (activity : Activity) (since : Mark) (collected : List Char) :
    Nat → Lex (List Char)
  | 0 => return collected
  | steps + 1 => do
      match ← peek with
      | some character =>
          if character = '%' then
            let escaped ← escapedCharacter activity since
            tagTextFrom isAddress activity since (escaped :: collected) steps
          else if isNameChar character || isTagMark character ||
              (isAddress && isAddressMark character) then
            skip 1
            tagTextFrom isAddress activity since (character :: collected) steps
          else return collected
      | none => return collected

/-- The text of a tag behind what was already read of it. The whole may not be empty. -/
def tagText (isAddress inDirective : Bool) (read : List Char) (since : Mark) : Lex (List Char) := do
  let activity := if inDirective then .tagDirectiveAddress else .tagAddress
  let collected ← tagTextFrom isAddress activity since [] (← bound)
  if read.isEmpty && collected.isEmpty then failWhile activity since .noTagAddress
  return read.drop 1 ++ collected.reverse

/-- The handle of a tag: an exclamation mark, a name, and maybe another exclamation mark. -/
def tagHandle (inDirective : Bool) (since : Mark) : Lex (List Char) := do
  if !(← sees '!') then
    failWhile (if inDirective then .tagDirectiveHandle else .tag) since .noExclamation
  skip 1
  let name ← takeWhile isNameChar
  if ← sees '!' then
    skip 1
    return '!' :: name ++ ['!']
  else
    if inDirective && !name.isEmpty then failWhile .tagDirectiveHandle since .noExclamation
    return '!' :: name

/-- The handle and the suffix of a tag. A tag without a handle of its own has the single exclamation
mark, unless it is nothing else. -/
def tagParts (since : Mark) : Lex (List Char × List Char) := do
  if (← peekAt 1) = some '<' then
    skip 2
    let suffix ← tagText true false [] since
    if !(← sees '>') then failWhile .tag since .noTagEnd
    skip 1
    return ([], suffix)
  else
    let handle ← tagHandle false since
    if 1 < handle.length && handle.getLast? = some '!' then
      return (handle, ← tagText false false [] since)
    else
      let suffix ← tagText false false handle since
      return if suffix.isEmpty then ([], ['!']) else (['!'], suffix)

def tag : Lex Token := do
  let start ← here
  let (handle, suffix) ← tagParts start
  let inFlow := (← get).inFlow
  if !((inFlow && (← sees ',')) || blankOrEnd (← peek)) then
    failWhile .tag start .noBlankOrLineEnd
  return ⟨.tag (String.ofList handle) (String.ofList suffix), start, ← here⟩

/-- The characters that may follow the name of an anchor without a blank. -/
def isAnchorEnd (character : Char) : Bool :=
  ['?', ':', ',', ']', '}', '%', '@', '\x60'].contains character

def anchor (isAlias : Bool) : Lex Token := do
  let start ← here
  skip 1
  let name ← takeWhile isNameChar
  let next ← peek
  if name.isEmpty || !(blankOrEnd next || (next.map isAnchorEnd).getD false) then
    failWhile (if isAlias then .alias else .anchor) start .noAnchorName
  let name := String.ofList name
  return ⟨if isAlias then .alias name else .anchor name, start, ← here⟩

def versionNumber (since : Mark) : Lex Nat := do
  let available := ((← get).rest.takeWhile Char.isDigit).length
  if 9 < available then
    skip 9
    failWhile .versionDirective since .longVersion
  let digits ← takeWhile Char.isDigit
  if digits.isEmpty then failWhile .versionDirective since .noVersion
  return digits.foldl (fun number digit => number * 10 + (digit.toNat - '0'.toNat)) 0

/-- The directive for the version, after its name. -/
def versionDirective (since : Mark) : Lex TokenKind := do
  let _ ← takeWhile isBlank
  let major ← versionNumber since
  if !(← sees '.') then failWhile .versionDirective since .noVersionDot
  skip 1
  return .versionDirective major (← versionNumber since)

/-- The directive for tags, after its name. -/
def tagDirective (since : Mark) : Lex TokenKind := do
  let _ ← takeWhile isBlank
  let handle ← tagHandle true since
  if !((← peek).map isBlank).getD false then failWhile .tagDirective since .noBlank
  let _ ← takeWhile isBlank
  let address ← tagText true true [] since
  if !blankOrEnd (← peek) then failWhile .tagDirective since .noBlankOrLineEnd
  return .tagDirective (String.ofList handle) (String.ofList address)

/-- A directive with the end of its line. -/
def directive : Lex Token := do
  let start ← here
  skip 1
  let name ← takeWhile isNameChar
  if name.isEmpty then failWhile .directive start .noDirectiveName
  if !blankOrEnd (← peek) then failWhile .directive start .badDirectiveName
  let kind ←
    match String.ofList name with
    | "YAML" => versionDirective start
    | "TAG" => tagDirective start
    | _ => failWhile .directive start .unknownDirective
  let finish ← here
  finishLine .directive start
  return ⟨kind, start, finish⟩

end TypedClient.Yaml.Lex
