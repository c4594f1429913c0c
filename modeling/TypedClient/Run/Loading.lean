import TypedClient.Document.Format
import TypedClient.Model
import TypedClient.Run.Failure
import TypedClient.Run.Surroundings
import TypedClient.Source

/-!
Contract: loading the documents of a run.

Owns:
- reading the document of a file, and fetching those of addresses;
- which documents have a qualifier.

Does not own: what is made of the documents.
-/

namespace TypedClient

/-- The document that a text holds; a failure names the origin of the text. -/
def Document.ofText (format : Format) (origin text : String) : Except Failure Document :=
  (Document.parse format text).mapError (.document origin)

/-- The document that a text holds, in the format that its origin tells. -/
def Document.ofOrigin (origin text : String) : Except Failure Document :=
  Document.ofText (Format.ofLocation origin) origin text

namespace Source

variable {m : Type → Type} [Monad m]

def loadFile (surroundings : Surroundings m) (path : String) :
    ExceptT Failure m LoadedDocument := do
  match ← surroundings.read path with
  | .error cause => throw (.readDocument path cause)
  | .ok text => return ⟨← (Document.ofOrigin path text : Except Failure Document), "", path⟩

def loadAddress (surroundings : Surroundings m) (qualifier address : String) (url : Url) :
    ExceptT Failure m LoadedDocument := do
  match ← surroundings.fetch url with
  | .error cause => throw (.fetch address cause)
  | .ok text =>
      return ⟨← (Document.ofOrigin address text : Except Failure Document), qualifier, address⟩

def requestFor (address : String) : Except Failure (String × Url) :=
  match Url.request? address with
  | .ok url => .ok (address, url)
  | .error cause => .error (.fetch address cause)

/-- The documents of a source, in order. Nothing is fetched unless every address can be requested,
and names get a qualifier only if there are several documents. -/
def load (surroundings : Surroundings m) : Source → ExceptT Failure m (List LoadedDocument)
  | .file path => do return [← loadFile surroundings path]
  | .addresses listed => do
      let requests ← (listed.mapM requestFor : Except Failure (List (String × Url)))
      requests.mapM (fun request =>
        loadAddress surroundings (if 1 < listed.length then qualifierOf request.1 else "")
          request.1 request.2)

end Source

end TypedClient
