import TypedClient.Proofs.Document.Renewal
import TypedClient.Proofs.Reference.Correspondence

/-!
Contract: the references of a renewed document lead where they led before.

Owns:
- what a renewed pointer names;
- that the components of a renewed document correspond to those of the document;
- that references to parameters and responses lead to the same items, renewed.

Does not own: operations.
-/

namespace TypedClient

namespace Pointer

/-- What `renewed` does: it replaces the section that a pointer starts with, if it is an older one. -/
theorem renewed_cases (pointer : String) :
    (∃ renewal ∈ renewals, ∃ name, pointer.toList = renewal.1.toList ++ name ∧
      (renewed pointer).toList = renewal.2.toList ++ name) ∨
    (∀ renewal ∈ renewals, renewal.1.toList.isPrefixOf? pointer.toList = none) ∧
      renewed pointer = pointer := by
  unfold renewed
  generalize found : renewals.findSome? _ = moved
  cases moved with
  | none =>
      refine Or.inr ⟨fun renewal isRenewal => ?_, rfl⟩
      exact Option.map_eq_none_iff.1 (List.findSome?_eq_none_iff.1 found renewal isRenewal)
  | some result =>
      obtain ⟨renewal, isRenewal, moved⟩ := List.exists_of_findSome?_eq_some found
      obtain ⟨name, starts, rfl⟩ := Option.map_eq_some_iff.1 moved
      refine Or.inl ⟨renewal, isRenewal, name, ?_, ?_⟩
      · exact (List.isPrefixOf?_eq_some_iff_append_eq.1 starts).symm
      · rw [Option.getD_some, String.toList_ofList]

theorem remainder?_renewed (pointer : String) :
    remainder? schemaPlaces (renewed pointer) = remainder? schemaPlaces pointer := by
  rcases renewed_cases pointer with ⟨renewal, isRenewal, name, before, after⟩ | ⟨_, same⟩
  · unfold remainder?
    rw [before, after]
    simp only [renewals, List.mem_cons, List.not_mem_nil, or_false] at isRenewal
    rcases isRenewal with rfl | rfl | rfl <;> simp [schemaPlaces, List.isPrefixOf?]
  · rw [same]

/-- A pointer to a schema names the same schema as before. -/
theorem target?_schemaPlaces_renewed (pointer : String) :
    target? schemaPlaces (renewed pointer) = target? schemaPlaces pointer := by
  rw [target?, target?, remainder?_renewed]

/-- A pointer into an older section names in the newer section what it named before. -/
theorem target?_renewed {renewal : String × String} (isRenewal : renewal ∈ renewals)
    {pointer : String} (older : target? [renewal.2] pointer = none) :
    target? [renewal.2] (renewed pointer) = target? [renewal.1] pointer := by
  rcases renewed_cases pointer with ⟨other, isOther, name, before, after⟩ | ⟨elsewhere, same⟩
  · have sameRemainder : remainder? [renewal.2] (renewed pointer) =
        remainder? [renewal.1] pointer := by
      unfold remainder?
      rw [before, after]
      simp only [renewals, List.mem_cons, List.not_mem_nil, or_false] at isRenewal isOther
      rcases isRenewal with rfl | rfl | rfl <;> rcases isOther with rfl | rfl | rfl <;>
        simp [List.isPrefixOf?]
    rw [target?, target?, sameRemainder]
  · have nowhere : remainder? [renewal.1] pointer = none := by
      rw [remainder?, List.findSome?_cons, elsewhere renewal isRenewal, List.findSome?_nil]
    rw [same, older, target?, nowhere]
    rfl

end Pointer

theorem Ordered.lookup?_mapValues {α β : Type} (image : α → β) (entries : Ordered α) (key : String) :
    (entries.mapValues image).lookup? key = (entries.lookup? key).map image := by
  rw [lookup?, lookup?, mapValues, List.find?_map, Option.map_map, Option.map_map]
  rfl

/-- The schema of a bare type name is the one that its keyword alone stands for. -/
theorem Schema.ofType_eq (typeName : String) :
    Schema.ofType typeName = Schema.ofTypeName typeName := by
  have isKeyword : Keyword.ofName? "type" = some .type := by decide
  have read : Schema.ofJson? (.object [("type", .string typeName)]) =
      some (Keywords.schema { type := some (.single typeName) }) := by
    simp [ofJson?, keywordsOfMembers?, isKeyword, withKeyword?, Json.optional?, TypeNames.ofJson?]
  rw [ofType, read, Option.getD_some]
  by_cases isArray : typeName = "array"
  · subst isArray
    rfl
  · by_cases isObject : typeName = "object"
    · subst isObject
      rfl
    · have plain : Schema.ofTypeName typeName =
          ((Primitive.ofName? typeName).map Schema.primitive).getD .unknown := by
        unfold Schema.ofTypeName
        split
        · exact absurd rfl isArray
        · exact absurd rfl isObject
        · rfl
      rw [plain]
      change Keywords.schemaOfType { type := some (.single typeName) } typeName = _
      rw [Keywords.schemaOfType, if_neg isArray, if_neg isObject]
      cases Primitive.ofName? typeName <;> rfl

/-! ## Schemas -/

namespace Document

variable {document : Document}

theorem OlderForm.schema? (older : document.OlderForm) (name : String) :
    document.schema? name = document.definitions.lookup? name := by
  rw [Document.schema?, older.noComponents]
  rfl

theorem schema?_renewed (older : document.OlderForm) (name : String) :
    document.renewed.schema? name = (document.schema? name).map Schema.renewed := by
  rw [older.schema?, ← Ordered.lookup?_mapValues, Document.schema?]
  exact Option.or_none

/-- Every pointer leads in the renewed document, renewed itself, where it led before. -/
theorem corresponds_renewed (older : document.OlderForm) :
    Corresponds document document.renewed Pointer.renewed (fun _ => True) where
  nowhere := by
    rintro pointer _ nowhere name target ⟨names, found⟩
    rw [Pointer.target?_schemaPlaces_renewed] at names
    rw [schema?_renewed older, Option.map_eq_some_iff] at found
    obtain ⟨schema, found, _⟩ := found
    exact nowhere name schema ⟨names, found⟩
  leads := by
    rintro pointer name target _ ⟨names, found⟩
    refine ⟨(Pointer.target?_schemaPlaces_renewed pointer).trans names, ?_⟩
    rw [schema?_renewed older, found]
    rfl
  known := fun _ _ _ _ _ _ _ => trivial

theorem expand_renewed (older : document.OlderForm) (trail : List String) (schema : Schema) :
    document.renewed.expand trail schema.renewed = document.expand trail schema :=
  (corresponds_renewed older).expand_eq (fun _ _ => trivial) trail

end Document

/-! ## Parameters and responses -/

section Following

variable {α : Type} {renew : α → α} {item : OrReference α}

/-- Following a renewed reference leads to the same item, renewed, if every pointer leads to the
renewed item that it led to. -/
theorem OrReference.toOption_follow_renewed {lookup? renewedLookup? : String → Option (OrReference α)}
    (Older : String → Prop)
    (leads : ∀ pointer, Older pointer → renewedLookup? (Pointer.renewed pointer) =
      (lookup? pointer).map (OrReference.renewed renew))
    (further : ∀ pointer next, lookup? pointer = some (.reference next) → Older next)
    (steps : Nat) (older : ∀ pointer, item = .reference pointer → Older pointer) :
    ((item.renewed renew).follow renewedLookup? steps).toOption =
      (item.follow lookup? steps).toOption.map renew := by
  induction steps generalizing item with
  | zero => rfl
  | succ steps inductionHypothesis =>
      cases item with
      | inline item => rfl
      | reference pointer =>
          rw [OrReference.renewed, OrReference.follow, OrReference.follow,
            leads pointer (older pointer rfl)]
          cases found : lookup? pointer with
          | none => rfl
          | some next =>
              exact inductionHypothesis (fun nextPointer isNext =>
                further pointer nextPointer (found.trans (congrArg some isNext)))

/-- What a reference leads to stands somewhere in its place. -/
theorem OrReference.exists_of_follow_eq_ok {lookup? : String → Option (OrReference α)} {steps : Nat}
    {result : α} (followed : item.follow lookup? steps = .ok result) :
    item = .inline result ∨ ∃ pointer, lookup? pointer = some (.inline result) := by
  induction steps generalizing item with
  | zero => cases followed
  | succ steps inductionHypothesis =>
      cases item with
      | inline item =>
          rw [OrReference.follow, Except.ok.injEq] at followed
          exact Or.inl (congrArg _ followed)
      | reference pointer =>
          rw [OrReference.follow] at followed
          split at followed
          · rename_i next found
            rcases inductionHypothesis followed with rfl | later
            · exact Or.inr ⟨pointer, found⟩
            · exact Or.inr later
          · cases followed

variable {renewal : String × String} {entries : Ordered (OrReference α)}

/-- A look into an older section finds what a look into the newer one finds later. -/
theorem atPointer?_renewed (isRenewal : renewal ∈ Pointer.renewals) {pointer : String}
    (older : Pointer.target? [renewal.2] pointer = none) :
    Document.atPointer? (renewal.2, entries.mapValues (OrReference.renewed renew)) (renewal.1, [])
        (Pointer.renewed pointer) =
      (Document.atPointer? (renewal.2, []) (renewal.1, entries) pointer).map
        (OrReference.renewed renew) := by
  simp only [Document.atPointer?, Pointer.target?_renewed isRenewal older]
  cases Pointer.target? [renewal.1] pointer <;> simp [Ordered.lookup?_mapValues]

theorem mem_of_atPointer?_eq_some {older newer pointer : String}
    (found : Document.atPointer? (newer, []) (older, entries) pointer = some item) :
    item ∈ entries.map Prod.snd := by
  rw [Document.atPointer?, Option.or_eq_some_iff] at found
  rcases found with newer | ⟨_, older⟩
  · obtain ⟨name, _, missing⟩ := Option.bind_eq_some_iff.1 newer
    cases missing
  · obtain ⟨name, _, found⟩ := Option.bind_eq_some_iff.1 older
    exact List.mem_map_of_mem (Ordered.mem_of_lookup? found)

/-- References into an older section lead to the same items, renewed, when the section has become
the newer one. -/
theorem OrReference.toOption_follow_section (isRenewal : renewal ∈ Pointer.renewals)
    (olderEntries : ∀ pointer, .reference pointer ∈ entries.map Prod.snd →
      Pointer.target? [renewal.2] pointer = none)
    (older : ∀ pointer, item = .reference pointer → Pointer.target? [renewal.2] pointer = none)
    (steps : Nat) :
    ((item.renewed renew).follow (Document.atPointer?
        (renewal.2, entries.mapValues (OrReference.renewed renew)) (renewal.1, [])) steps).toOption =
      (item.follow (Document.atPointer? (renewal.2, []) (renewal.1, entries)) steps).toOption.map
        renew :=
  OrReference.toOption_follow_renewed (fun pointer => Pointer.target? [renewal.2] pointer = none)
    (fun _ isOlder => atPointer?_renewed isRenewal isOlder)
    (fun _ next found => olderEntries next (mem_of_atPointer?_eq_some found)) steps older

end Following

namespace Document

variable {document : Document}

theorem parameter_eq (older : document.OlderForm) (item : OrReference Parameter) :
    document.parameter item = item.follow (atPointer? ("#/components/parameters/", [])
      ("#/parameters/", document.parameters)) stepLimit := by
  rw [Document.parameter, older.noComponents]

theorem response_eq (older : document.OlderForm) (item : OrReference Response) :
    document.response item = item.follow (atPointer? ("#/components/responses/", [])
      ("#/responses/", document.responses)) stepLimit := by
  rw [Document.response, older.noComponents]

theorem toOption_parameter_renewed (older : document.OlderForm) {item : OrReference Parameter}
    (isItem : item ∈ document.parameterItems) :
    (document.renewed.parameter (item.renewed Parameter.renewed)).toOption =
      (document.parameter item).toOption.map Parameter.renewed := by
  have isRenewal : ("#/parameters/", "#/components/parameters/") ∈ Pointer.renewals := by
    simp [Pointer.renewals]
  rw [parameter_eq older]
  apply OrReference.toOption_follow_section isRenewal
  · intro pointer isEntry
    exact older.olderParameters pointer (List.mem_append_right _ isEntry)
  · rintro pointer rfl
    exact older.olderParameters pointer isItem

theorem toOption_response_renewed (older : document.OlderForm) {item : OrReference Response}
    (isItem : item ∈ document.responseItems) :
    (document.renewed.response (item.renewed Response.renewed)).toOption =
      (document.response item).toOption.map Response.renewed := by
  have isRenewal : ("#/responses/", "#/components/responses/") ∈ Pointer.renewals := by
    simp [Pointer.renewals]
  rw [response_eq older]
  apply OrReference.toOption_follow_section isRenewal
  · intro pointer isEntry
    exact older.olderResponses pointer (List.mem_append_right _ isEntry)
  · rintro pointer rfl
    exact older.olderResponses pointer isItem

/-- A response in the older form has no content, wherever it stands. -/
theorem content_eq_nil (older : document.OlderForm) {item : OrReference Response}
    (isItem : item ∈ document.responseItems) {response : Response}
    (found : document.response item = .ok response) : response.content = [] := by
  rw [response_eq older] at found
  rcases OrReference.exists_of_follow_eq_ok found with rfl | ⟨pointer, isEntry⟩
  · exact older.noContent response isItem
  · exact older.noContent response (List.mem_append_right _
      (mem_of_atPointer?_eq_some isEntry))

end Document

end TypedClient
