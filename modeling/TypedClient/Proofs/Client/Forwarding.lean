import TypedClient.Proofs.Client.BoundTypes
import TypedClient.Proofs.Client.RequestCall
import TypedClient.Proofs.Script.Binding

/-!
Contract: hooks pass their arguments on to the request function of their endpoint.

Owns:
- that a query hook passes each of its arguments on in the place of the argument of that name;
- the same for a mutation, whether it is given the one argument or a record of all of them;
- that the types of these arguments are read off the request function at the same places.

Does not own: what the request function does with its arguments.
-/

namespace TypedClient.Client

open Script
open TypeText (Denotes IsWord TypeExpression readText)

variable {endpoint : Endpoint}

section Values

variable {α : Type} {values : List α}

/-- The variables of a request function that is called with some values, each in its place. -/
def inPlace (endpoint : Endpoint) (values : List α) : Bindings α :=
  (endpoint.arguments.map Argument.name).zip (values.map .argument)

theorem map_fst_inPlace (sameLength : values.length = endpoint.arguments.length) :
    (inPlace endpoint values).map Prod.fst = endpoint.arguments.map Argument.name := by
  apply List.map_fst_zip
  rw [List.length_map, List.length_map, sameLength]

theorem bindAll_requestFunction
    (identifiers : ∀ parameter ∈ endpoint.pathParameters, IsName parameter.identifier.toList)
    (sameLength : values.length = endpoint.arguments.length) (more : List (Value α)) :
    bindAll (requestFunction endpoint).parameters (values.map .argument ++ more) =
      some (inPlace endpoint values) := by
  rw [bindAll_of_words, requestFunction, List.map_map]
  · rfl
  · exact List.forall_mem_map.2 (fun _ member => isWord_argument identifiers member)
  · rw [List.length_map, sameLength, requestFunction, List.length_map]

/-- The name of the request function stands for the function, if no variable hides it. -/
theorem passes_name
    (identifiers : ∀ parameter ∈ endpoint.pathParameters, IsName parameter.identifier.toList)
    (sameLength : values.length = endpoint.arguments.length) {around : Bindings α}
    (visible : endpoint.functionName ∉ around.map Prod.fst) (more : List (Value α)) :
    (Expression.name endpoint.functionName).passes around (requestFunction endpoint)
      (values.map .argument ++ more) = some (inPlace endpoint values) := by
  rw [Expression.passes, if_pos ⟨rfl, visible⟩, bindAll_requestFunction identifiers sameLength]

/-- An arrow around the call passes on what the names of the arguments stand for. -/
theorem passes_arrow
    (identifiers : ∀ parameter ∈ endpoint.pathParameters, IsName parameter.identifier.toList)
    (sameLength : values.length = endpoint.arguments.length) {parameters : List Binder}
    {handed : List (Value α)} {inside around : Bindings α}
    (bound : bindAll parameters handed = some inside) (once : (inside.map Prod.fst).Nodup)
    (visible : endpoint.functionName ∉ (inside ++ around).map Prod.fst)
    (readable : ∀ entry ∈ inPlace endpoint values,
      (inside ++ around).lookup entry.1 = some entry.2) :
    (Expression.arrow parameters (callWith endpoint.functionName endpoint.arguments)).passes around
      (requestFunction endpoint) handed = some (inPlace endpoint values) := by
  have names : endpoint.arguments.map (fun argument => Expression.name argument.name) =
      (endpoint.arguments.map Argument.name).map Expression.name := by
    rw [List.map_map]
    rfl
  have read : ((endpoint.arguments.map Argument.name).map Expression.name).mapM
      (Bindings.read (inside ++ around)) = some (values.map .argument) :=
    mapM_read (by simpa using sameLength) readable
  have called := bindAll_requestFunction identifiers sameLength []
  rw [List.append_nil] at called
  rw [callWith, names, Expression.passes, bound]
  simp only [Option.bind_eq_bind, Option.bind_some]
  rw [if_pos ⟨rfl, visible, once⟩, read, Option.bind_some, called]

/-! ## Queries -/

theorem map_fst_typedArguments (endpoint : Endpoint) :
    (typedArguments endpoint.functionName endpoint.arguments).map Prod.fst =
      endpoint.arguments.map Argument.name := by
  rw [typedArguments, List.map_map]
  conv_rhs => rw [← List.zipIdx_map_fst 0 endpoint.arguments, List.map_map]
  rfl

theorem map_name_queryHook (endpoint : Endpoint) :
    (queryHook endpoint).parameters.map Binder.name =
      endpoint.arguments.map Argument.name ++ ["options"] := by
  rw [queryHook, List.map_append, List.map_map]
  exact congrArg (· ++ ["options"]) (map_fst_typedArguments endpoint)

theorem names_queryHook (endpoint : Endpoint) :
    (queryHook endpoint).parameters.map Binder.name =
      (requestFunction endpoint).parameters.map Binder.name ++ ["options"] := by
  rw [map_name_queryHook, requestFunction, List.map_map]
  rfl

theorem functionName_ne_options (endpoint : Endpoint) : endpoint.functionName ≠ "options" := by
  intro same
  have head := endpoint.head?_functionName
  rw [same] at head
  cases isMethod : endpoint.method <;> rw [isMethod] at head <;> exact absurd head (by decide)

theorem isWord_queryHook
    (identifiers : ∀ parameter ∈ endpoint.pathParameters, IsName parameter.identifier.toList) :
    ∀ parameter ∈ (queryHook endpoint).parameters, IsWord parameter.name.toList := by
  intro parameter member
  have named : parameter.name ∈ endpoint.arguments.map Argument.name ++ ["options"] := by
    rw [← map_name_queryHook]
    exact List.mem_map_of_mem member
  rcases List.mem_append.1 named with isArgument | isOptions
  · obtain ⟨argument, isArgument, same⟩ := List.mem_map.1 isArgument
    rw [← same]
    exact isWord_argument identifiers isArgument
  · rw [List.mem_singleton.1 isOptions]
    exact TypeText.isWord_of_isPlainName (by decide)

/-- A query hook binds its arguments and its options, whatever it is called with. -/
theorem bindAll_queryHook
    (identifiers : ∀ parameter ∈ endpoint.pathParameters, IsName parameter.identifier.toList)
    (values : List (Value α)) :
    bindAll (queryHook endpoint).parameters values =
      some ((endpoint.arguments.map Argument.name).zip
          (supplied endpoint.arguments.length values) ++
        [("options", (values.drop endpoint.arguments.length).headD .undefined)]) := by
  have count : (queryHook endpoint).parameters.length = endpoint.arguments.length + 1 := by
    simpa using congrArg List.length (map_name_queryHook endpoint)
  rw [bindAll_supplied (isWord_queryHook identifiers), map_name_queryHook, count,
    supplied_add_one, List.zip_append (by simp)]
  rfl

theorem passesOn_queryHook
    (identifiers : ∀ parameter ∈ endpoint.pathParameters, IsName parameter.identifier.toList)
    (distinct : (endpoint.arguments.map Argument.name).Nodup)
    (free : ∀ name ∈ endpoint.arguments.map Argument.name,
      name ∉ ["options", "useQuery", endpoint.functionName])
    (sameLength : values.length = endpoint.arguments.length) (options handed : List (Value α)) :
    (queryHook endpoint).passesOn "useQuery" "queryFn" (values.map .argument ++ options)
      (requestFunction endpoint) handed = some (inPlace endpoint values) := by
  let around := inPlace endpoint values ++ [("options", options.headD .undefined)]
  have names : around.map Prod.fst = endpoint.arguments.map Argument.name ++ ["options"] := by
    rw [List.map_append, map_fst_inPlace sameLength]
    rfl
  have once : (around.map Prod.fst).Nodup := by
    rw [names, List.nodup_append]
    refine ⟨distinct, List.nodup_singleton _, ?_⟩
    rintro name member other isOptions rfl
    exact free name member (by simp [List.mem_singleton.1 isOptions])
  have receiverFree : "useQuery" ∉ around.map Prod.fst := by
    rw [names, List.mem_append, not_or]
    exact ⟨fun member => free _ member (by simp), by decide⟩
  have visible : endpoint.functionName ∉ around.map Prod.fst := by
    rw [names, List.mem_append, not_or]
    refine ⟨fun member => free _ member (by simp), ?_⟩
    rw [List.mem_singleton]
    exact functionName_ne_options endpoint
  have readable : ∀ entry ∈ inPlace endpoint values, around.lookup entry.1 = some entry.2 :=
    fun entry member => lookup_eq_some_of_mem once (List.mem_append_left _ member)
  have hands : (queryHook endpoint).handsTo "useQuery" "queryFn"
      (values.map .argument ++ options) =
        some (if endpoint.arguments.isEmpty then .name endpoint.functionName
          else .arrow [] (callWith endpoint.functionName endpoint.arguments), around) := by
    have bound : bindAll (queryHook endpoint).parameters (values.map .argument ++ options) =
        some around := by
      have given := supplied_append (values.map Value.argument) options
      rw [List.length_map, sameLength] at given
      rw [bindAll_queryHook identifiers, given, List.drop_left' (by simpa using sameLength)]
      rfl
    rw [Function.handsTo, bound]
    exact if_pos ⟨rfl, once, receiverFree⟩
  rw [Function.passesOn, hands]
  simp only [Option.bind_eq_bind, Option.bind_some]
  split
  · rename_i isEmpty
    have noValues : values = [] := by
      rw [List.isEmpty_iff.1 isEmpty] at sameLength
      exact List.eq_nil_of_length_eq_zero sameLength
    have passed := passes_name identifiers sameLength visible handed
    rw [noValues] at passed ⊢
    exact passed
  · exact passes_arrow identifiers sameLength rfl List.nodup_nil visible readable

/-! ## Mutations -/

/-- What a mutation is given: the value of the only argument, which is not part of the path, or a
record with a field for each argument. -/
inductive IsInput (endpoint : Endpoint) (values : List α) : List (Value α) → Prop where
  | direct (few : endpoint.arguments.length ≤ 1) (noPath : endpoint.pathParameters = [])
      (more : List (Value α)) : IsInput endpoint values (values.map .argument ++ more)
  | record (several : ¬ (endpoint.arguments.length ≤ 1 ∧ endpoint.pathParameters = []))
      (members : List (String × Value α))
      (fields : ∀ entry ∈ inPlace endpoint values, members.lookup entry.1 = some entry.2)
      (more : List (Value α)) : IsInput endpoint values (.record members :: more)

theorem passesOn_mutationHook (message : String)
    (identifiers : ∀ parameter ∈ endpoint.pathParameters, IsName parameter.identifier.toList)
    (distinct : (endpoint.arguments.map Argument.name).Nodup)
    (free : endpoint.functionName ∉ endpoint.arguments.map Argument.name)
    (sameLength : values.length = endpoint.arguments.length) {handed : List (Value α)}
    (isInput : IsInput endpoint values handed) (outer : List (Value α)) :
    (mutationHook message endpoint).passesOn "useMutation" "mutationFn" outer
      (requestFunction endpoint) handed = some (inPlace endpoint values) := by
  have hands : (mutationHook message endpoint).handsTo "useMutation" "mutationFn" outer =
      some (mutationFunction endpoint, []) := rfl
  rw [Function.passesOn, hands]
  simp only [Option.bind_eq_bind, Option.bind_some]
  cases isInput with
  | direct few noPath more =>
      rw [mutationFunction, if_pos (by simp [few, noPath])]
      exact passes_name identifiers sameLength List.not_mem_nil more
  | record several members fields more =>
      have isRecord : ¬ (endpoint.arguments.length ≤ 1 && endpoint.pathParameters.isEmpty) :=
        by simpa using several
      have nonempty : endpoint.arguments.map Argument.name ≠ [] := by
        simpa using zipIdx_arguments_ne_nil isRecord
      have isPattern : (mutationInput endpoint).pattern? =
          some (.fields (endpoint.arguments.map Argument.name)) := by
        apply pattern?_of_fields nonempty
        · exact List.forall_mem_map.2 (fun _ member => isWord_argument identifiers member)
        · rw [mutationInput, map_fst_typedArguments]
          rfl
      have bound : bindAll [mutationInput endpoint] (.record members :: more) =
          some (inPlace endpoint values) := by
        have fromRecord := Pattern.bind_fields (by simpa using sameLength) fields
        simp only [bindAll, isPattern, Option.bind_eq_bind, Option.bind_some, List.headD_cons,
          fromRecord]
        exact congrArg some (List.append_nil _)
      have names := map_fst_inPlace sameLength
      rw [mutationFunction, if_neg isRecord]
      apply passes_arrow identifiers sameLength bound
      · rw [names]
        exact distinct
      · rw [List.append_nil, names]
        exact free
      · rw [List.append_nil]
        exact fun entry member => lookup_eq_some_of_mem (names ▸ distinct) member

end Values

/-! ## Types -/

/-- What a hook writes for the type of an argument at a position: the type of a path parameter, or
the type that the function has there. -/
def IsHookText (function : String) (entry : Argument × Nat) (text : String) : Prop :=
  match entry.1.kind with
  | .path => text = entry.1.type
  | .query | .body => text = "Parameters<typeof " ++ function ++ ">[" ++ toString entry.2 ++ "]"

theorem isHookText_argumentType (function : String) (entry : Argument × Nat) :
    IsHookText function entry (argumentType function entry.2 entry.1) := by
  rw [IsHookText, argumentType]
  cases entry.1.kind <;> rfl

theorem exists_hookTexts (endpoint : Endpoint) :
    ∃ texts, List.Forall₂ (IsHookText endpoint.functionName) endpoint.arguments.zipIdx texts ∧
      (queryHook endpoint).parameters.map Binder.type =
        texts.map some ++ [some "\x7b enabled?: boolean \x7d"] ∧
      ∀ parameters result, mutationFunction endpoint = .arrow parameters result →
        parameters.map Binder.type = [some ("\x7b " ++ "; ".intercalate (List.zipWith
          (fun name text => name ++ ": " ++ text)
          (endpoint.arguments.map Argument.name) texts) ++ " \x7d")] := by
  refine ⟨(typedArguments endpoint.functionName endpoint.arguments).map Prod.snd, ?_, ?_, ?_⟩
  · rw [typedArguments, List.map_map, List.forall₂_map_right_iff, List.forall₂_same]
    exact fun entry _ => isHookText_argumentType _ entry
  · rw [queryHook, List.map_append, List.map_map, List.map_map]
    rfl
  · intro parameters result isArrow
    unfold mutationFunction at isArrow
    split at isArrow
    · cases isArrow
    · cases isArrow
      rw [← map_fst_typedArguments, List.zipWith_map, List.zipWith_self]
      rfl

/-- The type that a hook gives to an argument at a position: a path parameter has its own type, in
which no function is mentioned, and any other argument has the type that the function has there. -/
def IsHookType (function : String) (entry : Argument × Nat) (type : TypeExpression) : Prop :=
  match entry.1.kind with
  | .path => readText entry.1.type = some type ∧ type.IsClosed
  | .query | .body =>
      type = .element (.application "Parameters" [.typeOf function]) (toString entry.2)

/-- The type of a parameter as it is read. -/
def readTypeOf (parameter : Binder) : Option TypeExpression := parameter.type.bind readText

theorem exists_hookType (names : endpoint.GivesNames) {entry : Argument × Nat}
    (member : entry ∈ endpoint.arguments.zipIdx) :
    ∃ type, Denotes (argumentType endpoint.functionName entry.2 entry.1) type ∧
      IsHookType endpoint.functionName entry type := by
  obtain ⟨argument, position⟩ := entry
  rcases mem_arguments_cases (List.fst_mem_of_mem_zipIdx member) with
    ⟨parameter, isParameter, rfl⟩ | ⟨type, rfl⟩ | ⟨type, rfl⟩
  · have words : ∀ symbol ∈ parameter.shape.symbols, IsWord symbol.toList := by
      intro symbol mentioned
      have inEndpoint : symbol ∈ endpoint.symbols :=
        List.mem_append_right _
          (List.mem_append_left _ (List.mem_flatMap_of_mem isParameter mentioned))
      exact TypeText.isWord_of_isName (names.symbols symbol inEndpoint).toIsName
    have denotes := Shape.denotes_render words 0
    refine ⟨_, denotes, denotes.readText, ?_⟩
    intro name
    rw [Shape.leaves_reading]
    exact parameter.shape.isClosed_denoted name
  · exact ⟨_, .parameter (isWord_functionName names) position, rfl⟩
  · exact ⟨_, .parameter (isWord_functionName names) position, rfl⟩

theorem mapM_readTypeOf {α : Type} {items : List α} {parameterOf : α → Binder}
    {typeOf : α → TypeExpression}
    (reads : ∀ item ∈ items, readTypeOf (parameterOf item) = some (typeOf item)) :
    (items.map parameterOf).mapM readTypeOf = some (items.map typeOf) := by
  induction items with
  | nil => rfl
  | cons item rest inductionHypothesis =>
      rw [List.forall_mem_cons] at reads
      rw [List.map_cons, List.mapM_cons, reads.1, inductionHypothesis reads.2]
      rfl

/-- The types of the arguments in a query hook, and in the input of a mutation. -/
theorem exists_hookTypes (names : endpoint.GivesNames) :
    ∃ types, List.Forall₂ (IsHookType endpoint.functionName) endpoint.arguments.zipIdx types ∧
      (queryHook endpoint).parameters.mapM readTypeOf =
        some (types ++ [.object [(.property "enabled" true, .word "boolean")]]) ∧
      ∀ parameters result, mutationFunction endpoint = .arrow parameters result →
        parameters.mapM readTypeOf = some [.object (List.zipWith
          (fun name type => (.property name false, type))
          (endpoint.arguments.map Argument.name) types)] := by
  choose! typeOf denotes isType using
    fun (entry : Argument × Nat) (member : entry ∈ endpoint.arguments.zipIdx) =>
      exists_hookType names member
  refine ⟨endpoint.arguments.zipIdx.map typeOf, ?_, ?_, ?_⟩
  · rw [List.forall₂_map_right_iff, List.forall₂_same]
    exact isType
  · have ofOptions : [(⟨"options", some "\x7b enabled?: boolean \x7d", true⟩ : Binder)].mapM
        readTypeOf = some [.object [(.property "enabled" true, .word "boolean")]] := by
      rfl
    rw [queryHook, typedArguments, List.map_map, List.mapM_append, ofOptions, mapM_readTypeOf]
    · rfl
    · exact fun entry member => (denotes entry member).readText
  · intro parameters result isArrow
    unfold mutationFunction at isArrow
    split at isArrow
    · cases isArrow
    · rename_i several
      cases isArrow
      have denotesInput := Denotes.object (zipIdx_arguments_ne_nil several)
        (fun entry member => isWord_argument names.identifiers
          (List.fst_mem_of_mem_zipIdx member)) denotes
      have ofInput : readTypeOf (mutationInput endpoint) = some (.object
          (endpoint.arguments.zipIdx.map (fun entry =>
            (.property entry.1.name false, typeOf entry)))) := by
        rw [← denotesInput.readText, readTypeOf, mutationInput, typedArguments, List.map_map,
          List.map_map]
        rfl
      have members : endpoint.arguments.zipIdx.map (fun entry =>
          (TypeText.MemberKey.property entry.1.name false, typeOf entry)) =
            List.zipWith (fun name type => (.property name false, type))
              (endpoint.arguments.map Argument.name) (endpoint.arguments.zipIdx.map typeOf) := by
        rw [← map_fst_typedArguments, typedArguments, List.map_map, List.zipWith_map,
          List.zipWith_self]
        rfl
      rw [List.mapM_cons, ofInput, members]
      rfl

/-- Hooks pass their arguments on, each in its place, if these are all different and none hides a
name that the hook uses. -/
theorem hooks_forward_arguments {documents : List LoadedDocument} {endpoint : Endpoint}
    (member : endpoint ∈ (Model.merge documents).1.endpoints)
    (distinct : (endpoint.arguments.map Argument.name).Nodup)
    (free : ∀ name ∈ endpoint.arguments.map Argument.name,
      name ∉ ["options", "useQuery", endpoint.functionName]) (message : String) :
    ((requestFunction endpoint).parameters.map Binder.name =
        endpoint.arguments.map Argument.name ∧
      (queryHook endpoint).parameters.map Binder.name =
        (requestFunction endpoint).parameters.map Binder.name ++ ["options"]) ∧
    (∀ {α : Type} (values : List α), values.length = endpoint.arguments.length →
      (∀ options handed : List (Value α),
        (queryHook endpoint).passesOn "useQuery" "queryFn" (values.map .argument ++ options)
          (requestFunction endpoint) handed = some (inPlace endpoint values)) ∧
      ∀ outer handed : List (Value α), IsInput endpoint values handed →
        (mutationHook message endpoint).passesOn "useMutation" "mutationFn" outer
          (requestFunction endpoint) handed = some (inPlace endpoint values)) ∧
    (∃ texts, List.Forall₂ (IsHookText endpoint.functionName) endpoint.arguments.zipIdx texts ∧
      (queryHook endpoint).parameters.map Binder.type =
        texts.map some ++ [some "\x7b enabled?: boolean \x7d"] ∧
      ∀ parameters result, mutationFunction endpoint = .arrow parameters result →
        parameters.map Binder.type = [some ("\x7b " ++ "; ".intercalate (List.zipWith
          (fun name text => name ++ ": " ++ text)
          (endpoint.arguments.map Argument.name) texts) ++ " \x7d")]) ∧
    ((∀ loaded ∈ documents, InName loaded.qualifier.toList) →
      ∃ types, List.Forall₂ (IsHookType endpoint.functionName) endpoint.arguments.zipIdx types ∧
        (queryHook endpoint).parameters.mapM readTypeOf =
          some (types ++ [.object [(.property "enabled" true, .word "boolean")]]) ∧
        ∀ parameters result, mutationFunction endpoint = .arrow parameters result →
          parameters.mapM readTypeOf = some [.object (List.zipWith
            (fun name type => (.property name false, type))
            (endpoint.arguments.map Argument.name) types)]) := by
  have identifiers := Model.isName_identifier_of_mem_merge member
  refine ⟨⟨?_, names_queryHook endpoint⟩, ?_, exists_hookTexts endpoint, ?_⟩
  · rw [requestFunction, List.map_map]
    rfl
  · intro α values sameLength
    constructor
    · exact passesOn_queryHook identifiers distinct free sameLength
    · intro outer handed isInput
      exact passesOn_mutationHook message identifiers distinct
        (fun isArgument => free _ isArgument (by simp)) sameLength isInput outer
  · exact fun qualified => exists_hookTypes (Model.givesNames_of_mem_merge qualified member)

/-- The fields of the input of a mutation may stand in any order. -/
theorem deletion_hooks_forward :
    ∃ endpoint ∈ (Model.merge [⟨deletionDocument, "", "items.json"⟩]).1.endpoints,
      let received : Bindings Nat :=
        [("item", .argument 7), ("params", .argument 1), ("body", .argument 2)]
      (queryHook endpoint).passesOn "useQuery" "queryFn"
        [.argument 7, .argument 1, .argument 2] (requestFunction endpoint) [] = some received ∧
      (mutationHook "failed" endpoint).passesOn "useMutation" "mutationFn" []
        (requestFunction endpoint)
        [.record [("body", .argument 2), ("params", .argument 1), ("item", .argument 7)]] =
          some received := by
  obtain ⟨endpoint, member, names, free⟩ : ∃ endpoint ∈
      (Model.merge [⟨deletionDocument, "", "items.json"⟩]).1.endpoints,
      endpoint.arguments.map Argument.name = ["item", "params", "body"] ∧
        endpoint.functionName ∉ ["item", "params", "body"] :=
    ⟨_, List.mem_cons_self, by decide +kernel, by decide +kernel⟩
  have three : endpoint.arguments.length = 3 := by simpa using congrArg List.length names
  have inPlaces : inPlace endpoint [7, 1, 2] =
      [("item", .argument 7), ("params", .argument 1), ("body", .argument 2)] := by
    rw [inPlace, names]
    rfl
  have forwarded := (hooks_forward_arguments member (by rw [names]; decide)
    (by rw [names]; simpa [eq_comm] using free) "failed").2.1 [7, 1, 2] three.symm
  rw [inPlaces] at forwarded
  refine ⟨endpoint, member, forwarded.1 [] [], forwarded.2 [] _ ?_⟩
  refine .record (by simp [three]) _ ?_ []
  rw [inPlaces]
  simp [List.lookup_cons]

end TypedClient.Client
