import TypedClient.Proofs.Client.Forwarding

/-!
Contract: the keys under which the answers to queries are kept.

Owns:
- `Function.keyOf`, the key that a call of a hook makes of the values it is called with;
- that the key of a query hook is the camel name of its endpoint and the arguments of its request
  function, in order;
- that calls with the same key are calls for the same endpoint with the same arguments.

Does not own: what is kept under a key, and for how long.
-/

namespace TypedClient

namespace Script

variable {α : Type}

/-- The list that a function hands to a receiver under a key. -/
def Function.listFor? (function : Function) (receiver key : String) : Option (List Expression) :=
  match function.body with
  | [.return (.call (.name called) _ [.object _ members])] =>
      if called = receiver then
        match (members.lookup key).join with
        | some (.list items) => some items
        | _ => none
      else none
  | _ => none

/-- The value of a part of a key: a text, or what the name of a variable stands for. -/
def keyPart (bound : Bindings α) : Expression → Option (Value α)
  | .text text => some (.text text.toList)
  | .name name => bound.lookup name
  | _ => none

/-- The key of the query that a hook makes when it is called with some values. No query is made by
a hook that binds a name twice, or hides the function that makes queries behind an argument. -/
def Function.keyOf (hook : Function) (values : List (Value α)) : Option (List (Value α)) := do
  match ← hook.handsTo "useQuery" "queryKey" values with
  | (.list items, bound) => items.mapM (keyPart bound)
  | _ => none

/-- A text and some names that are bound to values make a key of these. -/
theorem mapM_keyPart {bound : Bindings α} {names : List String} {values : List (Value α)}
    (sameLength : values.length = names.length)
    (readable : ∀ entry ∈ names.zip values, bound.lookup entry.1 = some entry.2) (first : String) :
    (Expression.text first :: names.map Expression.name).mapM (keyPart bound) =
      some (.text first.toList :: values) := by
  have read : (names.map Expression.name).mapM (keyPart bound) = some values := by
    rw [← mapM_read sameLength readable, List.mapM_map, List.mapM_map]
    rfl
  rw [List.mapM_cons, read]
  rfl

end Script

namespace Client

open Script

variable {endpoint other : Endpoint}

theorem queryKey_eq (endpoint : Endpoint) :
    queryKey endpoint = .text endpoint.camelName ::
      (endpoint.arguments.map Argument.name).map Expression.name := by
  rw [queryKey, List.map_map]
  rfl

theorem name_requestFunction (endpoint : Endpoint) :
    (requestFunction endpoint).parameters.map (fun parameter => Expression.name parameter.name) =
      (endpoint.arguments.map Argument.name).map Expression.name := by
  rw [requestFunction, List.map_map, List.map_map]
  rfl

theorem length_requestFunction (endpoint : Endpoint) :
    (requestFunction endpoint).parameters.length = endpoint.arguments.length := by
  rw [requestFunction, List.length_map]

section Calls

variable {α : Type} {values others : List (Value α)}

/-- The key of a query hook: the camel name, and the arguments that it is called with. -/
theorem keyOf_queryHook
    (identifiers : ∀ parameter ∈ endpoint.pathParameters, IsName parameter.identifier.toList)
    (values : List (Value α)) :
    (queryHook endpoint).keyOf values =
      if ((queryHook endpoint).parameters.map Binder.name).Nodup ∧
          "useQuery" ∉ (queryHook endpoint).parameters.map Binder.name then
        some (.text endpoint.camelName.toList :: supplied endpoint.arguments.length values)
      else none := by
  let given := (endpoint.arguments.map Argument.name).zip
    (supplied endpoint.arguments.length values)
  let around := given ++ [("options", (values.drop endpoint.arguments.length).headD .undefined)]
  have bound : bindAll (queryHook endpoint).parameters values = some around :=
    bindAll_queryHook identifiers values
  have names : around.map Prod.fst = (queryHook endpoint).parameters.map Binder.name := by
    rw [map_name_queryHook, List.map_append, List.map_fst_zip (by simp)]
    rfl
  rw [Function.keyOf, Function.handsTo, bound, ← names]
  simp only [Option.bind_eq_bind, Option.bind_some]
  by_cases free : (around.map Prod.fst).Nodup ∧ "useQuery" ∉ around.map Prod.fst
  · have readable : ∀ entry ∈ given, around.lookup entry.1 = some entry.2 :=
      fun entry member => lookup_eq_some_of_mem free.1 (List.mem_append_left _ member)
    have read := mapM_keyPart (by simp) readable endpoint.camelName
    rw [if_pos ⟨rfl, free⟩, if_pos free, ← read, ← queryKey_eq]
    rfl
  · rw [if_neg (fun all => free all.2), if_neg free, Option.bind_none]

theorem keyOf_mutationHook (message : String) (endpoint : Endpoint) (values : List (Value α)) :
    (mutationHook message endpoint).keyOf values = none := rfl

theorem hook_of_isQuery (message : String) (isQuery : endpoint.method.isQuery = true) :
    hook message endpoint = queryHook endpoint := if_pos isQuery

/-- Only queries have keys. -/
theorem isQuery_of_keyOf {message : String} {key : List (Value α)}
    (made : (hook message endpoint).keyOf values = some key) : endpoint.method.isQuery = true := by
  cases isQuery : endpoint.method.isQuery with
  | true => rfl
  | false =>
      rw [hook, if_neg (by simp [isQuery]), keyOf_mutationHook] at made
      cases made

end Calls

/-- The lists of a query hook and of a mutation hook. -/
theorem listFor?_hook (message : String) (endpoint : Endpoint) :
    (hook message endpoint).listFor? "useQuery" "queryKey" =
      if endpoint.method.isQuery then some (queryKey endpoint) else none := by
  unfold hook
  split
  · rfl
  · rfl

/-- **The key of a query identifies the request.** The keys in the file of hooks start with
different texts, and list the arguments of the request function behind them. So calls of hooks with
the same key are calls for the same endpoint, with the same arguments. -/
theorem query_keys_identify_requests (documents : List LoadedDocument) (message : String) :
    let model := (Model.merge documents).1
    let hooks := model.endpoints.map (hook message)
    (hooksFile message model).items = hooks.map Function.render ∧
    hooks.filterMap (fun hook => hook.listFor? "useQuery" "queryKey") =
      model.queries.map (fun endpoint => .text endpoint.camelName ::
        (requestFunction endpoint).parameters.map (fun parameter => .name parameter.name)) ∧
    (model.queries.map Endpoint.camelName).Nodup ∧
    ∀ {α : Type},
      (∀ endpoint ∈ model.queries, ∀ values : List (Value α),
        (hook message endpoint).keyOf values =
          if ((hook message endpoint).parameters.map Binder.name).Nodup ∧
              "useQuery" ∉ (hook message endpoint).parameters.map Binder.name then
            some (.text endpoint.camelName.toList ::
              supplied (requestFunction endpoint).parameters.length values)
          else none) ∧
      ∀ endpoint ∈ model.endpoints, ∀ other ∈ model.endpoints,
        ∀ values others key : List (Value α),
          (hook message endpoint).keyOf values = some key →
          (hook message other).keyOf others = some key →
          endpoint = other ∧
            supplied (requestFunction endpoint).parameters.length values =
              supplied (requestFunction other).parameters.length others := by
  intro model hooks
  have keyOf_query : ∀ {α : Type}, ∀ endpoint ∈ model.endpoints,
      endpoint.method.isQuery = true → ∀ values : List (Value α),
      (hook message endpoint).keyOf values =
        if ((hook message endpoint).parameters.map Binder.name).Nodup ∧
            "useQuery" ∉ (hook message endpoint).parameters.map Binder.name then
          some (.text endpoint.camelName.toList ::
            supplied (requestFunction endpoint).parameters.length values)
        else none := by
    intro α endpoint member isQuery values
    rw [hook_of_isQuery message isQuery, length_requestFunction]
    exact keyOf_queryHook (Model.isName_identifier_of_mem_merge member) values
  refine ⟨?_, ?_, Model.camelName_queries_nodup documents, fun {α} => ⟨?_, ?_⟩⟩
  · rw [hooksFile, List.map_map]
    rfl
  · rw [List.filterMap_map, Model.queries, ← List.filterMap_eq_map', List.filterMap_filter]
    apply List.filterMap_congr
    intro endpoint _
    rw [Function.comp_apply, listFor?_hook, queryKey_eq, ← name_requestFunction]
  · intro endpoint member
    obtain ⟨isEndpoint, isQuery⟩ := List.mem_filter.1 member
    exact keyOf_query endpoint isEndpoint isQuery
  · intro endpoint member other otherMember values others key made otherMade
    have isQuery := isQuery_of_keyOf made
    have otherQuery := isQuery_of_keyOf otherMade
    rw [keyOf_query endpoint member isQuery, Option.ite_none_right_eq_some] at made
    rw [keyOf_query other otherMember otherQuery, Option.ite_none_right_eq_some] at otherMade
    have same := (Option.some.inj made.2).trans (Option.some.inj otherMade.2).symm
    obtain ⟨sameText, sameValues⟩ := List.cons.inj same
    rw [Value.text.injEq] at sameText
    exact ⟨Model.eq_of_camelName_eq member otherMember isQuery otherQuery
      (String.toList_injective sameText), sameValues⟩

/-- A document with one query, which takes an item from the path. -/
def itemDocument : Document where
  paths := [("/items/\x7bitem\x7d", { operations := [("get", {})] })]

/-- The queries of a document that is given twice are kept apart, and their options do not count. -/
theorem second_item_key_identifies :
    let model := (Model.merge
      [⟨itemDocument, "", "first.json"⟩, ⟨itemDocument, "", "second.json"⟩]).1
    let key : List (Value Nat) := [.text "itemsByItem2".toList, .argument 7]
    ∃ endpoint ∈ model.endpoints,
      (hook "failed" endpoint).keyOf [.argument 7, .record []] = some key ∧
      ∀ other ∈ model.endpoints, ∀ others : List (Value Nat),
        (hook "failed" other).keyOf others = some key →
          endpoint = other ∧
            supplied (requestFunction other).parameters.length others = [.argument 7] := by
  intro model key
  obtain ⟨endpoint, member, isQuery, camelName, names⟩ : ∃ endpoint ∈ model.endpoints,
      endpoint.method.isQuery = true ∧ endpoint.camelName = "itemsByItem2" ∧
        endpoint.arguments.map Argument.name = ["item"] :=
    ⟨_, List.mem_cons_of_mem _ List.mem_cons_self, by decide +kernel, by decide +kernel,
      by decide +kernel⟩
  have one : (requestFunction endpoint).parameters.length = 1 := by
    rw [length_requestFunction]
    simpa using congrArg List.length names
  obtain ⟨_, _, _, ofValues⟩ := query_keys_identify_requests
    [⟨itemDocument, "", "first.json"⟩, ⟨itemDocument, "", "second.json"⟩] "failed"
  obtain ⟨keys, identify⟩ := @ofValues Nat
  have made : (hook "failed" endpoint).keyOf [.argument 7, .record []] = some key := by
    rw [keys endpoint (List.mem_filter.2 ⟨member, isQuery⟩), one,
      hook_of_isQuery "failed" isQuery, map_name_queryHook, names, camelName, if_pos (by decide)]
    rfl
  refine ⟨endpoint, member, made, fun other otherMember others otherMade => ?_⟩
  obtain ⟨same, sameValues⟩ :=
    identify endpoint member other otherMember _ others key made otherMade
  rw [one] at sameValues
  exact ⟨same, sameValues.symm⟩

end Client

end TypedClient
