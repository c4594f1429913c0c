import TypedClient.Proofs.Run.Writing
import TypedClient.Run.Loading

/-!
Contract: what loading the documents of a run depends on.

Owns:
- `Alike`, a step that yields the same in two trees and changes neither;
- that loading changes no tree, and depends on no more of it than the file it reads.

Does not own: what is made of the documents.
-/

namespace TypedClient

variable {α β : Type} {tree other : Workspace}

/-- A step yields the same in two trees, and changes neither. -/
def Alike (step : ExceptT Failure (StateM Workspace) α) (tree other : Workspace) : Prop :=
  ∃ result, outcome step tree = (result, tree) ∧ outcome step other = (result, other)

theorem outcome_liftExcept (result : Except Failure α) (tree : Workspace) :
    outcome (liftM result : ExceptT Failure (StateM Workspace) α) tree = (result, tree) :=
  rfl

namespace Alike

theorem pure (value : α) : Alike (Pure.pure value) tree other := ⟨.ok value, rfl, rfl⟩

theorem throw (failure : Failure) :
    Alike (MonadExcept.throw failure : ExceptT Failure (StateM Workspace) α) tree other :=
  ⟨.error failure, rfl, rfl⟩

/-- What is worked out without the tree is the same in all trees. -/
theorem lift (result : Except Failure α) :
    Alike (liftM result : ExceptT Failure (StateM Workspace) α) tree other :=
  ⟨result, outcome_liftExcept result tree, outcome_liftExcept result other⟩

theorem bind {step : ExceptT Failure (StateM Workspace) α}
    {next : α → ExceptT Failure (StateM Workspace) β} (first : Alike step tree other)
    (later : ∀ value, Alike (next value) tree other) : Alike (step >>= next) tree other := by
  obtain ⟨result, inTree, inOther⟩ := first
  cases result with
  | error failure =>
      refine ⟨.error failure, ?_, ?_⟩
      · rw [outcome_bind, inTree]
      · rw [outcome_bind, inOther]
  | ok value =>
      obtain ⟨result, laterInTree, laterInOther⟩ := later value
      refine ⟨result, ?_, ?_⟩
      · rw [outcome_bind, inTree]
        exact laterInTree
      · rw [outcome_bind, inOther]
        exact laterInOther

theorem mapM {step : α → ExceptT Failure (StateM Workspace) β}
    (each : ∀ value, Alike (step value) tree other) (values : List α) :
    Alike (values.mapM step) tree other := by
  induction values with
  | nil => exact pure []
  | cons value values inductionHypothesis =>
      rw [List.mapM_cons]
      exact (each value).bind (fun _ => inductionHypothesis.bind (fun _ => pure _))

end Alike

namespace Source

/-- Without a file, the source is none. -/
theorem ofOptions?_none_ne (path : String) (addresses : Option String) :
    ofOptions? none addresses ≠ some (.file path) := by
  cases addresses with
  | none => nofun
  | some text =>
      rw [ofOptions?]
      split <;> nofun

variable (fetch : Url → Except FetchFault String)

/-- The document of a file is the same in trees with the same text at its path. -/
theorem alike_loadFile {path : String} (same : tree.read path = other.read path) :
    Alike (loadFile (Workspace.surroundings fetch) path) tree other := by
  have read : Alike (liftM ((Workspace.surroundings fetch).read path) :
      ExceptT Failure (StateM Workspace) (Except DiskFault String)) tree other := by
    refine ⟨.ok (tree.read path), rfl, ?_⟩
    rw [same]
    rfl
  rw [loadFile]
  refine read.bind (fun result => ?_)
  cases result with
  | error cause => exact Alike.throw _
  | ok text => exact (Alike.lift _).bind (fun _ => Alike.pure _)

theorem alike_loadAddress (qualifier address : String) (url : Url) :
    Alike (loadAddress (Workspace.surroundings fetch) qualifier address url) tree other := by
  have fetched : Alike (liftM ((Workspace.surroundings fetch).fetch url) :
      ExceptT Failure (StateM Workspace) (Except FetchFault String)) tree other :=
    ⟨.ok (fetch url), rfl, rfl⟩
  rw [loadAddress]
  refine fetched.bind (fun result => ?_)
  cases result with
  | error cause => exact Alike.throw _
  | ok text => exact (Alike.lift _).bind (fun _ => Alike.pure _)

/-- The documents of a source are the same in trees with the same text at the path of its file. -/
theorem alike_load {source : Source}
    (same : ∀ path, source = .file path → tree.read path = other.read path) :
    Alike (source.load (Workspace.surroundings fetch)) tree other := by
  cases source with
  | file path => exact (alike_loadFile fetch (same path rfl)).bind (fun _ => Alike.pure _)
  | addresses listed =>
      exact (Alike.lift _).bind (fun requests =>
        Alike.mapM (fun request => alike_loadAddress fetch _ request.1 request.2) requests)

end Source

end TypedClient
