import TypedClient.Client.Types
import TypedClient.Proofs.Model.EndpointNames
import TypedClient.Proofs.Script.Lines

/-!
Contract: the comments in the file of types.

Owns:
- what the comment in front of the type of an endpoint says, and that it holds the path of a
  document as it is;
- that the comment at the top of a file has a line for each of its lines;
- that the file has its layout, each comment on a line of its own, exactly if no line ends in the
  path of an endpoint for which a type is declared.

Does not own: the declarations behind the comments.
-/

namespace TypedClient

open Script (TypeAlias IsLine IsAccountedFor lines layout)

/-- The path of an endpoint is the path of a document. -/
theorem Model.exists_path_of_mem_merge {documents : List LoadedDocument} {endpoint : Endpoint}
    (member : endpoint ∈ (merge documents).1.endpoints) :
    ∃ loaded ∈ documents, endpoint.path ∈ Ordered.keys loaded.document.paths := by
  obtain ⟨shares, rfl, merged⟩ := merged_merge documents
  have routes : (merge (shares.map Share.loaded)).1.endpoints.map Endpoint.route = _ :=
    merged.map_route
  have isRoute : endpoint.route ∈ _ := List.mem_map_of_mem member
  rw [routes] at isRoute
  obtain ⟨loaded, isLoaded, inDocument⟩ := List.mem_flatMap.1 isRoute
  refine ⟨loaded, isLoaded, ?_⟩
  obtain ⟨entry, isEntry, inEntry⟩ := List.mem_flatMap.1 inDocument
  obtain ⟨operation, _, known⟩ := List.mem_filterMap.1 inEntry
  obtain ⟨method, _, isRoute⟩ := Option.map_eq_some_iff.1 known
  have samePath : entry.1 = endpoint.path := congrArg Prod.snd isRoute
  exact samePath ▸ List.mem_map_of_mem isEntry

namespace Client

variable {endpoint : Endpoint} {alias_ : TypeAlias} {model : Model}

/-! ## What a comment says -/

/-- What the names of the types of an endpoint end in, and what the types are for. -/
def typePurposes : List (String × String) :=
  [("Response", "response"), ("Request", "request body"), ("Params", "query parameters")]

/-- The comment in front of the type of an endpoint for a purpose. -/
def typeComment (endpoint : Endpoint) (purpose : String) : String :=
  endpoint.method.label ++ " " ++ endpoint.path ++ ": " ++ purpose

theorem exists_comment_of_mem_endpointTypes (member : alias_ ∈ endpointTypes endpoint) :
    ∃ use ∈ typePurposes, alias_.name = endpoint.typeName ++ use.1 ∧
      alias_.comment = some (typeComment endpoint use.2) := by
  unfold endpointTypes at member
  simp only [List.mem_append] at member
  rcases member with (ofResponse | ofRequest) | ofParameters
  · refine ⟨("Response", "response"), by decide, ?_⟩
    split at ofResponse
    case h_1 name _ named _ =>
      obtain ⟨_, _, rfl⟩ := Option.map_eq_some_iff.1 named
      rw [List.mem_singleton.1 ofResponse]
      exact ⟨rfl, rfl⟩
    case h_2 => exact absurd ofResponse List.not_mem_nil
  · refine ⟨("Request", "request body"), by decide, ?_⟩
    split at ofRequest
    case h_1 name _ named _ =>
      obtain ⟨_, _, rfl⟩ := Option.map_eq_some_iff.1 named
      rw [List.mem_singleton.1 ofRequest]
      exact ⟨rfl, rfl⟩
    case h_2 => exact absurd ofRequest List.not_mem_nil
  · refine ⟨("Params", "query parameters"), by decide, ?_⟩
    obtain ⟨name, named, rfl⟩ := List.mem_map.1 ofParameters
    rw [Option.mem_toList, Endpoint.parametersType?, Option.ite_none_left_eq_some] at named
    exact ⟨(Option.some.inj named.2).symm, rfl⟩

/-- Nothing but the path decides whether a line ends in the comment. -/
theorem isLine_typeComment_iff {use : String × String} (isUse : use ∈ typePurposes) :
    IsLine (typeComment endpoint use.2) ↔ IsLine endpoint.path := by
  have ofMethod : IsLine endpoint.method.label := by
    cases endpoint.method <;> decide
  have ofPurpose : ∀ use ∈ typePurposes, IsLine use.2 := by decide
  have ofBlank : IsLine " " := by decide
  have ofColon : IsLine ": " := by decide
  rw [typeComment, Script.isLine_append, Script.isLine_append, Script.isLine_append,
    Script.isLine_append, and_iff_right ofMethod, and_iff_right ofBlank, and_iff_left ofColon,
    and_iff_left (ofPurpose use isUse)]

/-- The comment in front of a type is a line, unless a line ends in the path of the endpoint for
which the type is declared. -/
theorem commentLines_isLine_iff (model : Model) :
    (∀ alias_ ∈ modelTypes model, ∀ line ∈ alias_.commentLines, IsLine line) ↔
      ∀ endpoint ∈ model.endpoints, endpointTypes endpoint ≠ [] → IsLine endpoint.path := by
  constructor
  · intro areLines endpoint member hasTypes
    obtain ⟨alias_, isAlias⟩ := List.exists_mem_of_ne_nil _ hasTypes
    obtain ⟨use, isUse, _, comment⟩ := exists_comment_of_mem_endpointTypes isAlias
    have inModel : alias_ ∈ modelTypes model :=
      List.mem_append_right _ (List.mem_flatMap.2 ⟨endpoint, member, isAlias⟩)
    have areComments := areLines alias_ inModel
    rw [TypeAlias.commentLines_of_eq comment, List.forall_mem_singleton] at areComments
    exact (isLine_typeComment_iff isUse).1 (Script.isLine_comment_iff.1 areComments)
  · intro arePaths alias_ member line isComment
    rcases List.mem_append.1 member with ofDeclaration | ofEndpoint
    · obtain ⟨declaration, _, rfl⟩ := List.mem_map.1 ofDeclaration
      rw [List.mem_singleton.1 isComment]
      decide
    · obtain ⟨endpoint, isEndpoint, isAlias⟩ := List.mem_flatMap.1 ofEndpoint
      obtain ⟨use, isUse, _, comment⟩ := exists_comment_of_mem_endpointTypes isAlias
      rw [TypeAlias.commentLines_of_eq comment, List.mem_singleton] at isComment
      rw [isComment, Script.isLine_comment_iff, isLine_typeComment_iff isUse]
      exact arePaths endpoint isEndpoint (List.ne_nil_of_mem isAlias)

/-! ## The file -/

/-- The lines that the file of types is meant to have. -/
def typesLayout (model : Model) : List String :=
  layout (banner "Auto-generated API types") (modelTypes model)

theorem isLine_of_mem_banner {title : String} (isLine : IsLine title) :
    ∀ line ∈ banner title, IsLine line := by
  have isRule : rule.toList = List.replicate 77 '=' := String.toList_ofList
  have ofRule : IsLine rule := by
    rw [IsLine, isRule]
    exact fun character member => List.eq_of_mem_replicate member ▸ rfl
  rw [banner, List.forall_mem_cons, List.forall_mem_cons, List.forall_mem_cons,
    List.forall_mem_singleton]
  exact ⟨ofRule, isLine, by decide, ofRule⟩

/-- **The comments in the file of types stay on their lines, unless a line ends in a path.** The
comment in front of each type of an endpoint is the method, the path and the purpose of the type,
and the path is the path of a document as it is. The file has its layout, with each comment on a
line of its own, exactly if no line ends in the path of an endpoint for which a type is declared;
and then each of its lines is empty, a comment or part of the declaration of a type. -/
theorem types_file_has_layout_iff (documents : List LoadedDocument) :
    let model := (Model.merge documents).1
    (∀ endpoint ∈ model.endpoints,
      (∃ loaded ∈ documents, endpoint.path ∈ Ordered.keys loaded.document.paths) ∧
        ∀ alias_ ∈ endpointTypes endpoint, ∃ use ∈ typePurposes,
          alias_.name = endpoint.typeName ++ use.1 ∧
            alias_.comment = some (typeComment endpoint use.2) ∧
            (IsLine (typeComment endpoint use.2) ↔ IsLine endpoint.path)) ∧
    (lines (typesFile model).render = typesLayout model ↔
      ∀ endpoint ∈ model.endpoints, endpointTypes endpoint ≠ [] → IsLine endpoint.path) ∧
    ∀ line ∈ typesLayout model, IsAccountedFor (modelTypes model) line := by
  intro model
  refine ⟨fun endpoint member => ⟨Model.exists_path_of_mem_merge member, ?_⟩, ?_, ?_⟩
  · intro alias_ isAlias
    obtain ⟨use, isUse, named, comment⟩ := exists_comment_of_mem_endpointTypes isAlias
    exact ⟨use, isUse, named, comment, isLine_typeComment_iff isUse⟩
  · rw [← commentLines_isLine_iff]
    have header := isLine_of_mem_banner (by decide : IsLine "Auto-generated API types")
    exact Script.lines_render_eq_layout_iff (List.cons_ne_nil _ _) header _
  · exact fun line member => Script.isAccountedFor_of_mem_layout member

/-- A document with one endpoint, which answers with a text. -/
def textDocument (path : String) : Document where
  info := { title := some "Users", version := some "1" }
  paths := [(path, {
    operations := [("get", {
      responses := [("200", .inline {
        content := [("application/json", ⟨some (.primitive .string)⟩)]
        schema := none })] })] })]

/-- A path that is a line, and the comment that holds it. -/
theorem users_file_has_layout :
    let model := (Model.merge [⟨textDocument "/users", "", "spec.json"⟩]).1
    lines (typesFile model).render = typesLayout model ∧
      "// GET /users: response" ∈ typesLayout model ∧
      IsAccountedFor (modelTypes model) "// GET /users: response" := by
  intro model
  have types : modelTypes model =
      [⟨"IgetUsersResponse", "string", some "GET /users: response"⟩] := by
    decide +kernel
  have isMember : "// GET /users: response" ∈ typesLayout model := by
    rw [typesLayout, types, layout]
    refine List.mem_append_left _ (List.mem_append_right _ ?_)
    exact Text.mem_intercalate_of_mem List.mem_cons_self List.mem_cons_self
  have arePaths : ∀ endpoint ∈ model.endpoints, endpointTypes endpoint ≠ [] →
      IsLine endpoint.path := by
    decide +kernel
  obtain ⟨_, hasLayout, accountedFor⟩ :=
    types_file_has_layout_iff [⟨textDocument "/users", "", "spec.json"⟩]
  exact ⟨hasLayout.2 arePaths, isMember, accountedFor _ isMember⟩

/-- What stands behind a line end in a path is neither in a comment nor in the declaration of a
type. -/
theorem path_breaks_out_of_comment :
    let model := (Model.merge [⟨textDocument "/users\nalert(1)//", "", "spec.json"⟩]).1
    ¬ ∀ line ∈ lines (typesFile model).render, IsAccountedFor (modelTypes model) line := by
  intro model accountedFor
  have types : modelTypes model =
      [⟨"IgetUsersalert1Response", "string", some "GET /users\nalert(1)//: response"⟩] := by
    decide +kernel
  have outside : "alert(1)//: response" ∈ lines (typesFile model).render := by
    have nonempty : banner "Auto-generated API types" ≠ [] := List.cons_ne_nil _ _
    rw [typesFile, types, Script.lines_render nonempty]
    refine List.mem_append_left _ (List.mem_append_right _ ?_)
    exact Text.mem_intercalate_of_mem List.mem_cons_self (by decide +kernel)
  have unaccounted := accountedFor _ outside
  rw [types] at unaccounted
  exact absurd unaccounted (by decide +kernel)

end Client

end TypedClient
