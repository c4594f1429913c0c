import TypedClient.Url.Host

/-!
Contract: addresses of documents.

Owns:
- `Url`, an address in its parts, and its written form;
- the segments of its path, and what a request asks its host for.

Does not own: reading an address from text.
-/

namespace TypedClient

/-- The path of an address. -/
inductive UrlPath where
  /-- A text without structure. -/
  | plain (text : List Char)
  /-- Segments, each after a slash. -/
  | segmented (segments : List (List Char))
deriving DecidableEq, Repr

/-- An address in its parts, all of them escaped where they have to be. -/
structure Url where
  scheme : List Char
  user : List Char := []
  password : List Char := []
  /-- The host; none in an address that has no place for one. -/
  host : Option Url.Host := none
  /-- The number of the service at the host, unless it is the usual one of the scheme. -/
  portNumber : Option Nat := none
  path : UrlPath
  query : Option (List Char) := none
  fragment : Option (List Char) := none
deriving DecidableEq, Repr

namespace UrlPath

/-- A path as it is written. -/
def render : UrlPath → List Char
  | .plain text => text
  | .segmented segments => segments.flatMap ('/' :: ·)

/-- The segments that are not empty. -/
def names : UrlPath → List (List Char)
  | .plain _ => []
  | .segmented segments => segments.filter (fun segment => !segment.isEmpty)

end UrlPath

namespace Url

/-- Whether an address names a host. -/
def hasHost (url : Url) : Bool :=
  match url.host with
  | none => false
  | some host => host ≠ .name []

/-- The user in front of a host, as it is written. -/
def renderUser (url : Url) : List Char :=
  if url.user.isEmpty && url.password.isEmpty then []
  else
    url.user ++ (if url.password.isEmpty then [] else ':' :: url.password) ++ ['@']

/-- The host with the user before it and the number after it, as it is written. A path that begins
with an empty segment is kept apart from it by a dot. -/
def renderAuthority (url : Url) : List Char :=
  match url.host with
  | some host =>
      "//".toList ++ url.renderUser ++ host.render ++
        (match url.portNumber with
          | none => []
          | some number => ':' :: Nat.toDigits 10 number)
  | none =>
      match url.path with
      | .segmented ([] :: _ :: _) => "/.".toList
      | _ => []

/-- A part that may be absent, after its mark. -/
def renderPart (mark : Char) : Option (List Char) → List Char
  | none => []
  | some text => mark :: text

/-- An address as it is written. -/
def render (url : Url) : String :=
  String.ofList (url.scheme ++ [':'] ++ url.renderAuthority ++ url.path.render ++
    renderPart '?' url.query ++ renderPart '#' url.fragment)

/-- What a request asks the host for: the path and the query. -/
def target (url : Url) : String :=
  String.ofList (url.path.render ++ renderPart '?' url.query)

/-- An address without its user, who is named elsewhere in a request. A name that is no text
stays. -/
def withoutUser (url : Url) : Url :=
  match unescaped? url.user with
  | none => url
  | some user =>
      if user.isEmpty && (unescaped? url.password).isNone then url
      else { url with user := [], password := [] }

end Url

end TypedClient
