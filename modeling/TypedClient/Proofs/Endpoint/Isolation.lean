import Mathlib.SetTheory.Cardinal.Arithmetic
import TypedClient.Proofs.Endpoint.Agreement

/-!
Contract: an endpoint depends on no components but those that its schemas lead to.

Owns:
- `Document.withSchemas`, a document with other components;
- `Document.Named`, the names that some schemas name, directly or through components;
- that an endpoint stays the same, up to an injective renaming of its symbols, whatever becomes of
  the components that its schemas do not name.

Does not own: warnings, and the declarations of the symbols.
-/

namespace TypedClient

namespace Document

/-- The document with other schemas as its components, and everything else as it is. -/
def withSchemas (document : Document) (schemas definitions : Ordered Schema) : Document :=
  { document with
    components := { document.components with schemas }
    definitions }

/-- The names that some schemas name, or the components of such names, through any chain of
references. A name need not be that of a component. -/
inductive Named (document : Document) (schemas : List Schema) : String → Prop
  | direct {schema : Schema} {pointer name : String} (isSchema : schema ∈ schemas)
      (isPointer : pointer ∈ schema.pointers)
      (names : Pointer.target? Pointer.schemaPlaces pointer = some name) : Named document schemas name
  | further {name pointer next : String} {target : Schema} (earlier : Named document schemas name)
      (found : document.schema? name = some target) (isPointer : pointer ∈ target.pointers)
      (names : Pointer.target? Pointer.schemaPlaces pointer = some next) : Named document schemas next

variable {document second : Document} {schemas : List Schema}

/-- Documents with the same components under the names that some schemas name correspond on the
pointers to these names. -/
theorem corresponds_of_named (same : ∀ name, document.Named schemas name →
      second.schema? name = document.schema? name) :
    Corresponds document second id (fun pointer => ∀ name,
      Pointer.target? Pointer.schemaPlaces pointer = some name → document.Named schemas name) where
  nowhere := by
    rintro pointer known nowhere name target ⟨names, found⟩
    rw [same name (known name names)] at found
    exact nowhere name target ⟨names, found⟩
  leads := by
    rintro pointer name target known ⟨names, found⟩
    rw [Schema.mapPointers_id]
    exact ⟨names, (same name (known name names)).trans found⟩
  known := by
    rintro pointer name target known ⟨names, found⟩ next isPointer nextName namesNext
    exact .further (known name names) found isPointer namesNext

theorem expand_eq_of_named (same : ∀ name, document.Named schemas name →
      second.schema? name = document.schema? name) {schema : Schema} (isSchema : schema ∈ schemas)
    (trail : List String) : second.expand trail schema = document.expand trail schema := by
  have known : ∀ pointer ∈ schema.pointers, ∀ name,
      Pointer.target? Pointer.schemaPlaces pointer = some name → document.Named schemas name :=
    fun pointer isPointer name names => .direct isSchema isPointer names
  have expanded := (corresponds_of_named same).expand_eq known trail
  rwa [Schema.mapPointers_id] at expanded

end Document

namespace Extraction

variable {document : Document} {qualifier : String} {entry : Entry}
  {schemas definitions : Ordered Schema}

/-- Before components have symbols, the endpoint of an operation stays the same. -/
theorem value_source_withSchemas
    (same : ∀ name, document.Named (usedSchemas document entry) name →
      (document.withSchemas schemas definitions).schema? name = document.schema? name) :
    (source (document.withSchemas schemas definitions) qualifier entry).value =
      (source document qualifier entry).value := by
  have ofUsed : ∀ schema ∈ usedSchemas document entry,
      (document.withSchemas schemas definitions).expand [] schema = document.expand [] schema :=
    fun schema isUsed => Document.expand_eq_of_named same isUsed []
  have ofOptional : ∀ schema? : Option Schema, schema?.toList ⊆ usedSchemas document entry →
      schema?.map ((document.withSchemas schemas definitions).expand []) =
        schema?.map (document.expand []) := by
    intro schema? used
    apply Option.map_congr
    intro schema isSchema
    exact ofUsed schema (used (by simpa using isSchema))
  refine value_source_congr rfl rfl rfl rfl rfl ?_ (ofOptional _ ?_) (ofOptional _ ?_)
  · intro location isLocation
    apply List.map_congr_left
    intro parameter isParameter
    rw [value_queryParameter, value_queryParameter, value_parameterShape_congr]
    intro schema isSchema
    apply ofUsed
    apply List.mem_append_left
    apply List.mem_append_left
    refine List.mem_filterMap.2 ⟨parameter, List.mem_append.2 ?_, isSchema⟩
    simp only [List.mem_cons, List.not_mem_nil, or_false] at isLocation
    rcases isLocation with rfl | rfl
    · exact Or.inl isParameter
    · exact Or.inr isParameter
  · exact fun schema isBody => List.mem_append_left _ (List.mem_append_right _ isBody)
  · exact fun schema isResponse => List.mem_append_right _ isResponse

end Extraction

/-- A renaming that keeps some names apart can be continued to all names. -/
theorem exists_perm_eq_on {names : List String} {newName : String → String}
    (apart : ∀ first ∈ names, ∀ second ∈ names, newName first = newName second → first = second) :
    ∃ everywhere : Equiv.Perm String, ∀ name ∈ names, everywhere name = newName name := by
  have injective : Function.Injective (fun name : {name | name ∈ names} => newName name) :=
    fun first second same => Subtype.ext (apart first first.2 second second.2 same)
  have finite : (Cardinal.mk {name | name ∈ names}) < Cardinal.mk String :=
    (Cardinal.lt_aleph0_iff_set_finite.2 names.finite_toSet).trans_le
      (Cardinal.aleph0_le_mk String)
  obtain ⟨everywhere, agrees⟩ :=
    Cardinal.extend_function_of_lt ⟨_, injective⟩ finite ⟨Equiv.refl String⟩
  exact ⟨everywhere, fun name member => agrees ⟨name, member⟩⟩

namespace Document

open Extraction (operations usedSchemas source sources value_source_withSchemas)

/-- The symbols that a document gives to the components of an endpoint differ. -/
theorem symbolOf_injective_on_symbols {document : Document} {qualifier : String}
    {endpoint : Endpoint} (member : endpoint ∈ sources document qualifier) :
    ∀ first ∈ endpoint.symbols, ∀ second ∈ endpoint.symbols,
      (document.resolved qualifier).symbolOf first = (document.resolved qualifier).symbolOf second →
        first = second := by
  intro first isFirst second isSecond
  have consistent := document.consistent_resolved qualifier
  exact consistent.symbolOf_injective
    (consistent.named first (mem_recursive_of_mem_symbols member isFirst))
    (consistent.named second (mem_recursive_of_mem_symbols member isSecond))

/-- **An endpoint depends on no components but those that its schemas name.** When the components of a
document change, but for those that the schemas of an operation name through any chain of references,
the endpoint of this operation stays the same in every field, up to one injective renaming of
symbols. -/
theorem endpoint_unchanged_elsewhere (document : Document) (qualifier : String)
    (schemas definitions : Ordered Schema) {index : Nat} {entry : Extraction.Entry}
    (isEntry : (operations document)[index]? = some entry)
    (same : ∀ name, document.Named (usedSchemas document entry) name →
      (document.withSchemas schemas definitions).schema? name = document.schema? name) :
    ∃ newName : String → String, Function.Injective newName ∧
      ∃ endpoint, (document.extract qualifier).endpoints[index]? = some endpoint ∧
        ((document.withSchemas schemas definitions).extract qualifier).endpoints[index]? =
          some (endpoint.renameSymbols newName) := by
  let second := document.withSchemas schemas definitions
  let endpoint := (source document qualifier entry).value
  have sameEndpoint : (source second qualifier entry).value = endpoint := value_source_withSchemas same
  have here : (sources document qualifier)[index]? = some endpoint := by
    rw [sources, List.getElem?_map, isEntry, Option.map_some]
  have there : (sources second qualifier)[index]? = some endpoint := by
    rw [← sameEndpoint, sources, List.getElem?_map]
    exact congrArg (Option.map _) isEntry
  obtain ⟨symbolHere, eqHere⟩ :=
    exists_perm_eq_on (symbolOf_injective_on_symbols (List.mem_of_getElem? here))
  obtain ⟨symbolThere, eqThere⟩ :=
    exists_perm_eq_on (symbolOf_injective_on_symbols (List.mem_of_getElem? there))
  refine ⟨symbolThere ∘ symbolHere.symm, symbolThere.injective.comp symbolHere.symm.injective,
    endpoint.renameSymbols symbolHere, ?_, ?_⟩
  · rw [endpoints_extract, List.getElem?_map, here, Option.map_some,
      Endpoint.renameSymbols_congr eqHere]
  · have composed : (symbolThere ∘ symbolHere.symm) ∘ symbolHere = symbolThere := by
      funext name
      simp
    rw [endpoints_extract, List.getElem?_map, there, Option.map_some,
      Endpoint.renameSymbols_renameSymbols, composed, Endpoint.renameSymbols_congr eqThere]

/-- An operation that responds with what stands at a pointer. -/
def pointerOperation (pointer : String) : Operation where
  responses := [("200", .inline
    { content := [("application/json", { schema := some (.reference pointer) })]
      schema := none })]

/-- A query for what stands at a pointer. -/
def queryItem (pointer : String) : PathItem where
  operations := [("get", pointerOperation pointer)]

/-- An object with a list of what stands at a pointer. -/
def treeSchema (pointer : String) : Schema :=
  .object [("children", .array (.reference pointer))] [] .closed

/-- A document with two kinds of trees, whose names lead to the same identifier. -/
def treesDocument : Document where
  paths := [("/nodes", queryItem "#/components/schemas/tree-node"),
    ("/trees", queryItem "#/components/schemas/TreeNode")]
  components := { schemas := [("tree-node", treeSchema "#/components/schemas/tree-node"),
    ("TreeNode", treeSchema "#/components/schemas/TreeNode")] }

/-- When one kind of tree is broken, the endpoint for the other kind stays as it is. Its symbol
changes, since the other kind was met first. -/
theorem broken_tree_leaves_other :
    ∃ newName : String → String, Function.Injective newName ∧
      ∃ endpoint, (treesDocument.extract "").endpoints[1]? = some endpoint ∧
        ((treesDocument.withSchemas [("tree-node", .reference "#/nowhere"),
          ("TreeNode", treeSchema "#/components/schemas/TreeNode")] []).extract "").endpoints[1]? =
          some (endpoint.renameSymbols newName) := by
  let entry : Extraction.Entry := ("/trees", queryItem "#/components/schemas/TreeNode", .get,
    pointerOperation "#/components/schemas/TreeNode")
  have isTarget : Pointer.target? Pointer.schemaPlaces "#/components/schemas/TreeNode" =
      some "TreeNode" := by decide +kernel
  have isEntry : (operations treesDocument)[1]? = some entry := rfl
  refine endpoint_unchanged_elsewhere treesDocument "" _ _ isEntry ?_
  intro name named
  have onlyTree : name = "TreeNode" := by
    induction named with
    | @direct schema pointer name isSchema isPointer names =>
        have isReference : schema = .reference "#/components/schemas/TreeNode" :=
          List.mem_singleton.1 isSchema
        subst isReference
        rw [List.mem_singleton.1 isPointer, isTarget, Option.some.injEq] at names
        exact names.symm
    | @further name pointer next target earlier found isPointer names isTree =>
        subst isTree
        have isObject : treeSchema "#/components/schemas/TreeNode" = target :=
          Option.some.inj found
        subst isObject
        rw [List.mem_singleton.1 isPointer, isTarget, Option.some.injEq] at names
        exact names.symm
  subst onlyTree
  rfl

end Document

end TypedClient
