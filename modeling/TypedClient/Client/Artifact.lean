/-!
Contract: the files of a generated client.

Owns:
- the four kinds of files, their names, and how they import one another;
- the settings that do not come from a document;
- the comment at the top of a file that is generated anew in every run.

Does not own: what the files hold.
-/

namespace TypedClient.Client

/-- A kind of file. -/
inductive ArtifactKind where
  | types
  | requests
  | hooks
  | bootstrap
deriving DecidableEq, Repr

namespace ArtifactKind

/-- The kinds in the order in which they are written. -/
def all : List ArtifactKind := [.types, .requests, .hooks, .bootstrap]

def moduleName : ArtifactKind → String
  | .types => "types"
  | .requests => "queries"
  | .hooks => "hooks"
  | .bootstrap => "queries-base"

def fileName (kind : ArtifactKind) : String := kind.moduleName ++ ".ts"

/-- How another file of the client imports this one. -/
def specifier (kind : ArtifactKind) : String := "./" ++ kind.moduleName

/-- Whether a file is written anew in every run. The other one is only written where nothing
exists, so that it can be edited. -/
def isRegenerated : ArtifactKind → Bool
  | .bootstrap => false
  | _ => true

end ArtifactKind

/-- A file and what it holds. -/
structure Artifact where
  kind : ArtifactKind
  contents : String
deriving DecidableEq, Repr

/-- The settings of the file that sets the client up. -/
structure BootstrapSettings where
  /-- The environment variable for the address of the service. -/
  addressVariable : String := "VITE_API_BASE_URL"
  defaultAddress : String := "https://api.example.com"
  /-- What stands in front of the token in a request. -/
  tokenScheme : String := "tma"
  /-- The module that exports the token. -/
  tokenModule : String := "@/lib/utils"
deriving DecidableEq, Repr

/-- The settings that do not come from a document. -/
structure Settings where
  bootstrap : BootstrapSettings := {}
  /-- What a failed change shows if the answer says nothing. -/
  fallbackMessage : String := "Something went wrong"
deriving DecidableEq, Repr

/-- The line above and below the comment at the top of a file. -/
def rule : String := String.ofList (List.replicate 77 '=')

/-- The comment at the top of a file that is generated anew in every run. -/
def banner (title : String) : List String :=
  [rule, title, "DO NOT EDIT: this file is overwritten on every generation run", rule]

end TypedClient.Client
