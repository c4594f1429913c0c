import TypedClient.Client.Bootstrap
import TypedClient.Client.Hooks
import TypedClient.Client.Requests
import TypedClient.Client.Types

/-!
Contract: all files of a client.

Owns: the text of each kind of file, and the four files of a run.

Does not own: where the files are written.
-/

namespace TypedClient.Client

/-- What a file of a kind holds. -/
def contents (settings : Settings) (model : Model) : ArtifactKind → String
  | .types => (typesFile model).render
  | .requests => (requestsFile model).render
  | .hooks => (hooksFile settings.fallbackMessage model).render
  | .bootstrap => (bootstrapFile settings.bootstrap).render

/-- The files of a client, in the order in which they are written. -/
def artifacts (settings : Settings) (model : Model) : List Artifact :=
  ArtifactKind.all.map (fun kind => ⟨kind, contents settings model kind⟩)

end TypedClient.Client
