import TypedClient.Client.Types
import TypedClient.Proofs.Model.Merging

/-!
Contract: which names the file of types declares.

Owns:
- `typeRoles`, what the names of the types of an endpoint end in;
- that the types of different endpoints, and the different types of one, have different names;
- that a name is declared twice exactly when a component that closes a cycle has the name of a type
  of an endpoint.

Does not own: the text of the types.
-/

namespace TypedClient

/-- What the names of the types of an endpoint end in. -/
def typeRoles : List String := ["Response", "Request", "Params"]

/-- Different stems or different roles make different names of types. -/
theorem append_role_injective {stem other role otherRole : String} (isRole : role ∈ typeRoles)
    (isOther : otherRole ∈ typeRoles) (same : stem ++ role = other ++ otherRole) :
    stem = other ∧ role = otherRole := by
  have characters := congrArg String.toList same
  rw [String.toList_append, String.toList_append] at characters
  -- The last characters of the three roles differ.
  have lasts := congrArg List.getLast? characters
  have sameRole : role = otherRole := by
    simp only [typeRoles, List.mem_cons, List.not_mem_nil, or_false] at isRole isOther
    rcases isRole with rfl | rfl | rfl <;> rcases isOther with rfl | rfl | rfl <;>
      simp at lasts ⊢
  subst sameRole
  exact ⟨String.toList_injective (List.append_cancel_right characters), rfl⟩

namespace Endpoint

theorem declaredTypes_sublist (endpoint : Endpoint) :
    endpoint.declaredTypes.Sublist (typeRoles.map (fun role => endpoint.typeName ++ role)) := by
  have response : endpoint.responseType?.toList.Sublist [endpoint.typeName ++ "Response"] := by
    unfold responseType?
    cases endpoint.response <;> simp
  have request : endpoint.requestType?.toList.Sublist [endpoint.typeName ++ "Request"] := by
    unfold requestType?
    cases endpoint.requestBody <;> simp
  have parameters : endpoint.parametersType?.toList.Sublist [endpoint.typeName ++ "Params"] := by
    unfold parametersType?
    split <;> simp
  exact (response.append request).append parameters

theorem declaredTypes_nodup (endpoint : Endpoint) : endpoint.declaredTypes.Nodup := by
  apply endpoint.declaredTypes_sublist.nodup
  apply List.Nodup.map_on
  · intro role isRole other isOther same
    exact (append_role_injective isRole isOther same).2
  · decide

/-- Endpoints that share the name of a type share the stem of their types. -/
theorem typeName_eq_of_mem_declaredTypes {first second : Endpoint} {name : String}
    (inFirst : name ∈ first.declaredTypes) (inSecond : name ∈ second.declaredTypes) :
    first.typeName = second.typeName := by
  obtain ⟨role, isRole, isName⟩ := List.mem_map.1 (first.declaredTypes_sublist.subset inFirst)
  obtain ⟨other, isOther, isSame⟩ := List.mem_map.1 (second.declaredTypes_sublist.subset inSecond)
  exact (append_role_injective isRole isOther (isName.trans isSame.symm)).1

theorem flatMap_declaredTypes_nodup {endpoints : List Endpoint}
    (distinct : (endpoints.map typeName).Nodup) :
    (endpoints.flatMap declaredTypes).Nodup := by
  rw [List.nodup_flatMap]
  refine ⟨fun endpoint _ => endpoint.declaredTypes_nodup, ?_⟩
  rw [List.Nodup, List.pairwise_map] at distinct
  apply distinct.imp
  intro first second different name inFirst inSecond
  exact different (typeName_eq_of_mem_declaredTypes inFirst inSecond)

end Endpoint

namespace Client

open Script (TypeAlias)

theorem name_endpointTypes (endpoint : Endpoint) :
    (endpointTypes endpoint).map TypeAlias.name = endpoint.declaredTypes := by
  unfold endpointTypes Endpoint.declaredTypes Endpoint.responseType? Endpoint.requestType?
  cases endpoint.response <;> cases endpoint.requestBody <;> simp [Function.comp_def]

theorem name_modelTypes (model : Model) :
    (modelTypes model).map TypeAlias.name =
      model.declarations.map Declaration.symbol ++
        model.endpoints.flatMap Endpoint.declaredTypes := by
  have ofDeclarations : (model.declarations.map declarationType).map TypeAlias.name =
      model.declarations.map Declaration.symbol := by
    rw [List.map_map]
    rfl
  rw [modelTypes, List.map_append, ofDeclarations, List.map_flatMap]
  congr 1
  exact List.flatMap_congr (fun endpoint _ => name_endpointTypes endpoint)

/-- **No type is declared twice, unless a component has the name of a type of an endpoint.** The
symbols of declarations and the names of the types of endpoints are kept apart among themselves, but
not from each other. -/
theorem type_names_nodup_iff (documents : List LoadedDocument) :
    let model := (Model.merge documents).1
    ((modelTypes model).map TypeAlias.name).Nodup ↔
      ∀ symbol ∈ model.declarations.map Declaration.symbol,
        symbol ∉ model.endpoints.flatMap Endpoint.declaredTypes := by
  intro model
  obtain ⟨shares, _, merged⟩ := Model.merged_merge documents
  have symbols : (model.declarations.map Declaration.symbol).Nodup := merged.distinct
  have stems : (model.endpoints.map Endpoint.typeName).Nodup := merged.placed.nodup List.nodup_nil
  rw [name_modelTypes, List.nodup_append]
  constructor
  · rintro ⟨_, _, apart⟩ symbol isDeclared isType
    exact apart symbol isDeclared symbol isType rfl
  · intro apart
    refine ⟨symbols, Endpoint.flatMap_declaredTypes_nodup stems, ?_⟩
    rintro symbol isDeclared name isType rfl
    exact apart symbol isDeclared isType

/-- A document whose only component refers to itself, and is named like the type of the response of
the only endpoint. -/
def collidingDocument : Document where
  info := { title := some "Users", version := some "1" }
  paths := [("/users", {
    operations := [("get", {
      responses := [("200", .inline {
        content := [("application/json",
          ⟨some (.reference "#/components/schemas/IgetUsersResponse")⟩)]
        schema := none })] })] })]
  components := {
    schemas := [("IgetUsersResponse", .object
      [("next", .reference "#/components/schemas/IgetUsersResponse")] [] .closed)] }

/-- The component and the response have the same name. -/
theorem type_names_collide :
    ¬ ((modelTypes (Model.merge [⟨collidingDocument, "", "spec.json"⟩]).1).map
      TypeAlias.name).Nodup := by
  decide +kernel

end Client

end TypedClient
