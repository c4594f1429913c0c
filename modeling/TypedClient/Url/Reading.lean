import TypedClient.Url.Basic

/-!
Contract: reading an address from text.

Owns:
- the schemes that are well known, with the usual numbers of their services;
- where the parts of an address begin and end, for each kind of scheme;
- segments of a path that stand for the path so far, or for the one above it;
- `Url.read?`.

Does not own: addresses that are relative to another one.
-/

namespace TypedClient.Url

/-- How the addresses of a scheme are read. -/
inductive SchemeKind where
  /-- Addresses of files, whose host may be absent. -/
  | file
  /-- Well-known schemes, whose addresses have a host. -/
  | known (usualNumber : Nat)
  /-- All others. -/
  | other
deriving DecidableEq, Repr

def SchemeKind.ofScheme (scheme : List Char) : SchemeKind :=
  match String.ofList scheme with
  | "file" => .file
  | "http" => .known 80
  | "https" => .known 443
  | "ws" => .known 80
  | "wss" => .known 443
  | "ftp" => .known 21
  | _ => .other

namespace SchemeKind

/-- Whether a backslash is as good as a slash. -/
def allowsBackslash : SchemeKind → Bool
  | .other => false
  | _ => true

def isSeparator (kind : SchemeKind) (character : Char) : Bool :=
  character = '/' || (kind.allowsBackslash && character = '\\')

/-- Whether a character ends the part with the host. -/
def endsAuthority (kind : SchemeKind) (character : Char) : Bool :=
  kind.isSeparator character || character = '?' || character = '#'

end SchemeKind

/-- The scheme in front of a text, in lower case, and the text after its colon. -/
def scheme? (text : List Char) : Option (List Char × List Char) :=
  let isPart (character : Char) : Bool :=
    character.isAlphanum || ['+', '-', '.'].contains character
  match text.head?, text.dropWhile isPart with
  | some first, ':' :: rest =>
      if first.isAlpha then some ((text.takeWhile isPart).map Char.toLower, rest) else none
  | _, _ => none

/-- Whether a segment is a drive: a letter and a colon or a bar. -/
def isDrive : List Char → Bool
  | [letter, mark] => letter.isAlpha && (mark = ':' || mark = '|')
  | _ => false

/-- Whether a segment stands for the path so far. -/
def isHere (segment : List Char) : Bool :=
  ["." , "%2e"].contains (String.ofList (segment.map Char.toLower))

/-- Whether a segment stands for the path above. -/
def isAbove (segment : List Char) : Bool :=
  ["..", ".%2e", "%2e.", "%2e%2e"].contains (String.ofList (segment.map Char.toLower))

/-- The segments, in reverse, of the path above. A drive has none above it. -/
def above : List (List Char) → List (List Char)
  | [] => []
  | segment :: rest => if isDrive segment then segment :: rest else rest

/-- The path that some segments lead to from the segments read so far, which are in reverse. -/
def resolved (isFile : Bool) (path : List (List Char)) : List (List Char) → List (List Char)
  | [] => path.reverse
  | segment :: rest =>
      let isLast := rest.isEmpty
      if isAbove segment then
        resolved isFile (if isLast then [] :: above path else above path) rest
      else if isHere segment then
        resolved isFile (if isLast then [] :: path else path) rest
      else if isFile && path.isEmpty && isDrive segment then
        resolved isFile ((segment.take 1 ++ [':']) :: path) rest
      else resolved isFile (escaped isUnsafeInPath segment :: path) rest

/-- The segments of a path that begins here. -/
def segmentsOf (kind : SchemeKind) (text : List Char) : List (List Char) :=
  let path := resolved (kind = .file) [] (Text.splitWhere kind.isSeparator text)
  if kind = .file then
    match path.dropWhile List.isEmpty with
    | [] => [[]]
    | segments => segments
  else path

/-- The text without one separator in front. -/
def withoutSeparator (kind : SchemeKind) : List Char → List Char
  | [] => []
  | character :: rest => if kind.isSeparator character then rest else character :: rest

/-- The part in front of the query and the fragment. -/
def beforeQuery (text : List Char) : List Char :=
  text.takeWhile (fun character => character ≠ '?' && character ≠ '#')

/-- The address with the query and the fragment of a text. -/
def withQuery (kind : SchemeKind) (text : List Char) (url : Url) : Url :=
  let isUnsafe := if kind = .other then isUnsafeInQuery else isUnsafeInKnownQuery
  let query :=
    match (text.takeWhile (· ≠ '#')).dropWhile (· ≠ '?') with
    | [] => none
    | _ :: query => some (escaped isUnsafe query)
  let fragment :=
    match text.dropWhile (· ≠ '#') with
    | [] => none
    | _ :: fragment => some (escaped isUnsafeInFragment fragment)
  { url with query, fragment }

/-- The texts before and after the last at sign. -/
def splitAtUser? (text : List Char) : Option (List Char × List Char) :=
  if text.contains '@' then
    let host := (text.reverse.takeWhile (· ≠ '@')).reverse
    some (text.take (text.length - host.length - 1), host)
  else none

/-- A host up to the number after it; colons in square brackets belong to it. -/
def hostText (inBrackets : Bool) : List Char → List Char
  | [] => []
  | character :: rest =>
      if character = ':' && !inBrackets then []
      else
        character ::
          hostText (character = '[' || (inBrackets && character ≠ ']')) rest

/-- The number after a host, and the text after it. Without digits there is none, and the usual one
of the scheme is left out. -/
def portNumber? (kind : SchemeKind) (text : List Char) : Option (Option Nat × List Char) :=
  match text with
  | ':' :: rest =>
      let digits := rest.takeWhile Char.isDigit
      let after := rest.dropWhile Char.isDigit
      let number := digits.foldl (fun number digit => number * 10 + (digit.toNat - '0'.toNat)) 0
      if 65535 < number then none
      else if !(after.take 1).all (fun character => ['/', '\\', '?', '#'].contains character) then
        none
      else if digits.isEmpty || kind = .known number then some (none, after)
      else some (some number, after)
  | _ => some (none, text)

/-- The address with the user in front of a host. -/
def withUser (text : List Char) (url : Url) : Url :=
  let user := text.takeWhile (· ≠ ':')
  { url with
    user := escaped isUnsafeInUser user
    password := escaped isUnsafeInUser (text.drop (user.length + 1)) }

/-- An address whose host begins here. -/
def readAuthority? (kind : SchemeKind) (scheme text : List Char) : Option Url := do
  let authority := text.takeWhile (fun character => !kind.endsAuthority character)
  let after := text.drop authority.length
  let (user, hostAndPort) := (splitAtUser? authority).getD ([], authority)
  if (splitAtUser? authority).isSome && user.isEmpty && hostAndPort.isEmpty && !after.isEmpty then
    none
  let written := hostText false hostAndPort
  let host ←
    if kind = .other then Host.other? written
    else if written.isEmpty then none
    else Host.known? written
  let numberText := hostAndPort.drop written.length
  if host = .name [] && !numberText.isEmpty then none
  let (portNumber, rest) ← portNumber? kind (numberText ++ after)
  let path :=
    if kind = .other && (beforeQuery rest).isEmpty then []
    else segmentsOf kind (withoutSeparator kind (beforeQuery rest))
  let url := withUser user { scheme, host := some host, portNumber, path := .segmented path }
  if host = .name [] && !url.renderUser.isEmpty then none
  return withQuery kind rest url

/-- The host of a file, if it is named at all; the local one is as good as none. -/
def fileHost? (text : List Char) : Option Host := do
  if text.isEmpty then return .name []
  let host ← Host.known? text
  return if host = .name "localhost".toList then .name [] else host

/-- Whether a path of a file begins with a drive. -/
def hasDrive (path : List (List Char)) : Bool := (path.take 1).any isDrive

/-- An address of a file. -/
def readFile? (text : List Char) : Option Url := do
  let scheme := "file".toList
  let fileAt (host : Host) (rest path : List Char) : Url :=
    withQuery .file rest
      { scheme, host := some host, path := .segmented (segmentsOf .file (beforeQuery path)) }
  let isSlash (character : Char) : Bool := SchemeKind.file.isSeparator character
  match text with
  | first :: second :: rest =>
      if isSlash first && isSlash second then
        let written := rest.takeWhile (fun character => !SchemeKind.file.endsAuthority character)
        if isDrive written then return fileAt (.name []) rest rest
        let host ← fileHost? written
        let after := rest.drop written.length
        let url := fileAt host after (withoutSeparator .file after)
        match url.path with
        | .segmented path =>
            return if hasDrive path then { url with host := some (.name []) } else url
        | .plain _ => return url
      else return fileAt (.name []) text (withoutSeparator .file text)
  | _ => return fileAt (.name []) text (withoutSeparator .file text)

/-- An address of a scheme that is not well known. -/
def readOther? (scheme text : List Char) : Option Url :=
  match text with
  | '/' :: '/' :: rest => readAuthority? .other scheme rest
  | '/' :: rest =>
      some (withQuery .other rest
        { scheme, path := .segmented (segmentsOf .other (beforeQuery rest)) })
  | _ =>
      some (withQuery .other text
        { scheme, path := .plain (escaped isControl (beforeQuery text)) })

/-- The text that counts: without control characters and blanks at its ends, and without tabs and
line breaks. -/
def relevant (text : List Char) : List Char :=
  let isEdge (character : Char) : Bool := character.toNat ≤ 0x20
  (((text.dropWhile isEdge).reverse.dropWhile isEdge).reverse).filter
    (fun character => !(['\t', '\n', '\r'].contains character))

/-- Read an address that stands on its own. -/
def read? (text : String) : Option Url :=
  match scheme? (relevant text.toList) with
  | none => none
  | some (scheme, rest) =>
      match SchemeKind.ofScheme scheme with
      | .file => readFile? rest
      | .known usualNumber =>
          readAuthority? (.known usualNumber) scheme
            (rest.dropWhile (fun character => character = '/' || character = '\\'))
      | .other => readOther? scheme rest

end TypedClient.Url
