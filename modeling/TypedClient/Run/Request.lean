import TypedClient.Ordered
import TypedClient.Url.Reading

/-!
Contract: fetching what stands at an address.

Owns:
- which addresses can be requested, and what is requested for one;
- why a document cannot be fetched, and the wording of each cause;
- `Server`, a host with its answers.

Does not own: how a request travels.
-/

namespace TypedClient

/-- Why what stands at an address cannot be fetched. -/
inductive FetchFault where
  /-- The text is no address. -/
  | noAddress
  /-- The address is none that can be requested. -/
  | notRequestable (address : String)
  /-- Nothing answers at the address. -/
  | unreachable (address : String)
  /-- The answer is a refusal. -/
  | refused (status : Nat) (reason address : String)
deriving DecidableEq, Repr

namespace FetchFault

/-- The wording of a cause. -/
def message : FetchFault → String
  | .noAddress => "builder error"
  | .notRequestable address => "builder error for url (" ++ address ++ ")"
  | .unreachable address => "error sending request for url (" ++ address ++ ")"
  | .refused status reason address =>
      "HTTP status " ++ (if status < 500 then "client" else "server") ++ " error (" ++
        toString status ++ " " ++ reason ++ ") for url (" ++ address ++ ")"

end FetchFault

namespace Url

/-- The characters that an address may have in its host but a request may not. -/
def isUnsafeInRequest (character : Char) : Bool :=
  ['"', '\x60', '{', '}'].contains character

/-- Whether an address can be requested: it names a host and goes over the web. -/
def isRequestable (url : Url) : Bool :=
  url.hasHost && ["http", "https"].contains (String.ofList url.scheme) &&
    !(url.host.elim [] Host.render).any isUnsafeInRequest

/-- The address that is requested for a text. Its user is not part of it. -/
def request? (text : String) : Except FetchFault Url :=
  match Url.read? text with
  | none => .error .noAddress
  | some url =>
      if url.withoutUser.isRequestable then .ok url.withoutUser
      else .error (.notRequestable url.withoutUser.render)

/-- An address as it is named in the wording of a refusal: the fragment is not sent. -/
def sent (url : Url) : String := ({ url with fragment := none } : Url).render

end Url

/-- An answer to a request. -/
structure Answer where
  status : Nat
  reason : String
  body : String
deriving DecidableEq, Repr

/-- A host with its answers. -/
structure Server where
  host : Url.Host
  portNumber : Option Nat
  /-- The answers to what is asked for. -/
  answers : Ordered Answer
  /-- The answer to everything else. -/
  otherwise : Answer
deriving Repr

namespace Server

/-- A text without the mark that tells the order of octets. -/
def withoutMark (text : String) : String :=
  match text.toList with
  | '\uFEFF' :: rest => String.ofList rest
  | _ => text

/-- What a server sends for an address. -/
def fetch (server : Server) (url : Url) : Except FetchFault String :=
  if url.host = some server.host ∧ url.portNumber = server.portNumber then
    let answer := (server.answers.lookup? url.target).getD server.otherwise
    if 400 ≤ answer.status then .error (.refused answer.status answer.reason url.sent)
    else .ok (withoutMark answer.body)
  else .error (.unreachable url.sent)

end Server

end TypedClient
