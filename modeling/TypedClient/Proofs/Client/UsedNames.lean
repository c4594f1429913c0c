import TypedClient.Client.Hooks
import TypedClient.Proofs.Client.RequestCall
import TypedClient.Proofs.Endpoint.HiddenNames
import TypedClient.Proofs.Script.Mentions

/-!
Contract: the variables in the code that is generated for an endpoint.

Owns:
- that a request function and its hooks mention their arguments and few other variables;
- when an argument hides one of these.

Does not own: which arguments have the same name.
-/

namespace TypedClient.Client

open Script

variable {endpoint : Endpoint}

/-! ## Request functions -/

theorem mem_names_identifier {parameter : EndpointParameter}
    (member : parameter ∈ endpoint.pathParameters) :
    parameter.identifier ∈ endpoint.arguments.map Argument.name := by
  obtain ⟨others, _, names⟩ := endpoint.names_arguments
  rw [names]
  exact List.mem_append_left _ (List.mem_map_of_mem member)

theorem mem_names_params (hasQuery : endpoint.queryParameters.isEmpty = false) :
    "params" ∈ endpoint.arguments.map Argument.name := by
  simp [Endpoint.arguments, Endpoint.parametersType?, hasQuery]

theorem mem_names_body (hasBody : endpoint.requestBody.isSome = true) :
    "body" ∈ endpoint.arguments.map Argument.name := by
  obtain ⟨shape, isBody⟩ := Option.isSome_iff_exists.1 hasBody
  simp [Endpoint.arguments, Endpoint.requestType?, isBody]

/-- Text substitutes nothing. -/
theorem flatMap_substituted_plainPart_append (text : List Char) (parts : List TemplatePart) :
    (plainPart text ++ parts).flatMap substituted = parts.flatMap substituted := by
  cases text <;> rfl

theorem substituted_pathTemplate {parameters : List EndpointParameter} {text : List Char}
    {pieces : List PathPiece} {name : String}
    (member : name ∈ (pathTemplate parameters text pieces).flatMap substituted) :
    ∃ parameter ∈ parameters, parameter.identifier = name := by
  fun_induction pathTemplate parameters text pieces with
  | case1 text => cases text <;> exact absurd member List.not_mem_nil
  | case2 text placeholder rest parameter isParameter inductionHypothesis =>
      rw [flatMap_substituted_plainPart_append, List.flatMap_cons, List.mem_append] at member
      rcases member with here | later
      · exact ⟨parameter, mem_of_parameterOf? isParameter, (List.mem_singleton.1 here).symm⟩
      · exact inductionHypothesis later
  | case3 text placeholder rest noParameter inductionHypothesis =>
      rw [flatMap_substituted_plainPart_append] at member
      exact inductionHypothesis member
  | case4 text more rest inductionHypothesis => exact inductionHypothesis member
  | case5 text more rest inductionHypothesis => exact inductionHypothesis member

theorem mentions_pathExpression {name : String}
    (member : name ∈ mentions (pathExpression endpoint)) :
    name ∈ endpoint.arguments.map Argument.name := by
  unfold pathExpression at member
  split at member
  · obtain ⟨parameter, isParameter, rfl⟩ := substituted_pathTemplate member
    exact mem_names_identifier isParameter
  · cases member

theorem mentions_optionArguments (hasQuery hasBody : Bool) :
    mentionsOfItems (optionArguments hasQuery hasBody) =
      (if hasQuery then ["params"] else []) ++ (if hasBody then ["body"] else []) := by
  cases hasQuery <;> cases hasBody <;> rfl

theorem mentions_bodyArguments (hasQuery hasBody : Bool) :
    mentionsOfItems (bodyArguments hasQuery hasBody) =
      (if hasBody then ["body"] else if hasQuery then ["undefined"] else []) ++
        (if hasQuery then ["params"] else []) := by
  cases hasQuery <;> cases hasBody <;> rfl

/-- What a request mentions behind its path. -/
theorem mentions_behind {hasQuery hasBody : Bool} {name : String}
    (member : name ∈ mentionsOfItems (optionArguments hasQuery hasBody) ∨
      name ∈ mentionsOfItems (bodyArguments hasQuery hasBody)) :
    (hasQuery = true ∧ name = "params") ∨ (hasBody = true ∧ name = "body") ∨
      name = "undefined" := by
  rw [mentions_optionArguments, mentions_bodyArguments] at member
  cases hasQuery with
  | true => cases hasBody <;> simp at member ⊢ <;> tauto
  | false =>
      cases hasBody with
      | true => exact Or.inr (Or.inl ⟨rfl, by simpa using member⟩)
      | false => simp at member

theorem mentions_requestCall {name : String} (member : name ∈ mentions (requestCall endpoint)) :
    name ∈ endpoint.arguments.map Argument.name ∨ name ∈ ["axiosInstance", "undefined"] := by
  rw [requestCall, mentions, mentions, mentions, mentionsOfItems, List.mem_append,
    List.mem_append] at member
  rcases member with isInstance | inPath | isBehind
  · right
    rw [List.mem_singleton.1 isInstance]
    exact List.mem_cons_self
  · exact Or.inl (mentions_pathExpression inPath)
  · have behind := @mentions_behind (!endpoint.queryParameters.isEmpty)
      endpoint.requestBody.isSome name (by
        split at isBehind
        · exact Or.inl isBehind
        · exact Or.inr isBehind)
    rcases behind with ⟨hasQuery, rfl⟩ | ⟨hasBody, rfl⟩ | rfl
    · exact Or.inl (mem_names_params (by simpa using hasQuery))
    · exact Or.inl (mem_names_body hasBody)
    · exact Or.inr (by decide)

/-- A request function uses its arguments, the answer, and what sends the request. -/
theorem mentions_requestFunction {name : String}
    (member : name ∈ mentionsOfStatements (requestFunction endpoint).body) :
    name ∈ endpoint.arguments.map Argument.name ∨
      name ∈ ["response", "axiosInstance", "undefined"] := by
  have inBody : name = "response" ∨ name ∈ mentions (requestCall endpoint) ∨
      name = "response" := by
    simpa [requestFunction, mentionsOfStatements, mentionsOfStatement, mentions] using member
  rcases inBody with rfl | inCall | rfl
  · exact Or.inr List.mem_cons_self
  · exact (mentions_requestCall inCall).imp_right (List.mem_cons_of_mem _)
  · exact Or.inr List.mem_cons_self

/-! ## Hooks -/

theorem mentions_callWith (endpoint : Endpoint) :
    mentions (callWith endpoint.functionName endpoint.arguments) =
      endpoint.functionName :: endpoint.arguments.map Argument.name := by
  rw [callWith, mentions, mentionsOfItems_map_name, mentions, List.singleton_append]

theorem mentions_queryHook {name : String}
    (member : name ∈ mentionsOfStatements (queryHook endpoint).body) :
    name ∈ endpoint.arguments.map Argument.name ∨
      name ∈ ["useQuery", endpoint.functionName, "options", "true"] := by
  have ofCode : mentionedIn "options?.enabled ?? true" = ["options", "true"] := by decide
  have ofKey : mentionsOfItems (queryKey endpoint) = endpoint.arguments.map Argument.name := by
    rw [queryKey, mentionsOfItems, mentions, mentionsOfItems_map_name, List.nil_append]
  have ofQuery : ∀ mentioned ∈ mentions (if endpoint.arguments.isEmpty then
      .name endpoint.functionName
      else .arrow [] (callWith endpoint.functionName endpoint.arguments)),
      mentioned = endpoint.functionName ∨ mentioned ∈ endpoint.arguments.map Argument.name := by
    intro mentioned inQuery
    split at inQuery
    · exact Or.inl (List.mem_singleton.1 inQuery)
    · rw [mentions, mentions_callWith] at inQuery
      exact List.mem_cons.1 inQuery
  simp only [queryHook, mentionsOfStatements, mentionsOfStatement, mentions, mentionsOfItems,
    mentionsOfMembers, ofKey, ofCode, List.append_nil, List.mem_append, List.mem_cons,
    List.not_mem_nil, or_false] at member ⊢
  rcases member with isHook | inKey | inQuery | isOptions | isTrue
  · exact Or.inr (Or.inl isHook)
  · exact Or.inl inKey
  · rcases ofQuery name inQuery with isFunction | isArgument
    · exact Or.inr (Or.inr (Or.inl isFunction))
    · exact Or.inl isArgument
  · exact Or.inr (Or.inr (Or.inr (Or.inl isOptions)))
  · exact Or.inr (Or.inr (Or.inr (Or.inr isTrue)))

theorem mentions_mutationFunction {name : String}
    (member : name ∈ mentions (mutationFunction endpoint)) :
    name ∈ endpoint.arguments.map Argument.name ∨ name = endpoint.functionName := by
  rw [mutationFunction] at member
  split at member
  · exact Or.inr (List.mem_singleton.1 member)
  · rw [mentions, mentions_callWith] at member
    exact (List.mem_cons.1 member).symm

/-! ## Hidden names -/

/-- A request function and its hook use the arguments of their endpoint and few other names. No
argument of an extracted endpoint is one of these, or a word that cannot be bound, exactly if the
words of no path parameter, put together, are such a name that is not reserved. -/
theorem arguments_hide_nothing_iff {document : Document} {qualifier : String} {endpoint : Endpoint}
    (member : endpoint ∈ (document.extract qualifier).endpoints) :
    ((∀ name ∈ mentionsOfStatements (requestFunction endpoint).body,
        name ∈ endpoint.arguments.map Argument.name ∨
          name ∈ ["response", "axiosInstance", "undefined"]) ∧
      (∀ name ∈ mentionsOfStatements (queryHook endpoint).body,
        name ∈ endpoint.arguments.map Argument.name ∨
          name ∈ ["useQuery", endpoint.functionName, "options", "true"]) ∧
      ∀ name ∈ mentions (mutationFunction endpoint),
        name ∈ endpoint.arguments.map Argument.name ∨ name = endpoint.functionName) ∧
    ((∀ name ∈ endpoint.arguments.map Argument.name,
        name ∉ ["response", "axiosInstance", "undefined"] ∧
        name ∉ ["useQuery", endpoint.functionName, "options"] ∧
        name ∉ unbindable) ↔
      ∀ parameter ∈ endpoint.pathParameters,
        String.ofList (joined parameter.name) ∉ ["response", "axiosInstance", "undefined",
          "useQuery", endpoint.functionName, "eval", "arguments"]) := by
  refine ⟨⟨fun _ => mentions_requestFunction, fun _ => mentions_queryHook,
    fun _ => mentions_mutationFunction⟩, ?_⟩
  have named := Document.camelName_ne_empty member
  constructor
  · intro nothing parameter isParameter
    have hidesNothing := nothing _ (mem_names_identifier isParameter)
    rw [Document.identifier_eq_of_mem member isParameter,
      Endpoint.hides_nothing_iff (Extraction.pathIdentifier_not_mem _),
      Endpoint.pathIdentifier_mem_hideable_iff named] at hidesNothing
    exact hidesNothing
  · intro free name isArgument
    obtain ⟨others, ofOthers, names⟩ := endpoint.names_arguments
    rw [names, List.mem_append] at isArgument
    rcases isArgument with isIdentifier | isOther
    · obtain ⟨parameter, isParameter, rfl⟩ := List.mem_map.1 isIdentifier
      rw [Document.identifier_eq_of_mem member isParameter,
        Endpoint.hides_nothing_iff (Extraction.pathIdentifier_not_mem _),
        Endpoint.pathIdentifier_mem_hideable_iff named]
      exact free parameter isParameter
    · have ofFunction : endpoint.functionName ∉ ["params", "body"] :=
        Endpoint.functionName_not_mem named (by decide)
      have isOne := ofOthers.subset isOther
      have notFunction : name ≠ endpoint.functionName := fun same => ofFunction (same ▸ isOne)
      have ofRest : ∀ word ∈ ["params", "body"],
          word ∉ ["response", "axiosInstance", "undefined", "useQuery", "options"] ++
            unbindable := by decide
      have notOthers := ofRest name isOne
      simp only [List.mem_append, List.mem_cons, List.not_mem_nil, or_false, not_or] at notOthers ⊢
      tauto

theorem members_hide_nothing :
    ∃ endpoint ∈ ((placeholderDocument "org" "member-id").extract "").endpoints,
      ∀ name ∈ endpoint.arguments.map Argument.name,
        name ∉ ["response", "axiosInstance", "undefined"] ∧
        name ∉ ["useQuery", endpoint.functionName, "options"] ∧ name ∉ unbindable := by
  refine ⟨_, List.mem_cons_self, ?_⟩
  exact (@arguments_hide_nothing_iff (placeholderDocument "org" "member-id") "" _
    List.mem_cons_self).2.2 (by decide +kernel)

/-- A placeholder is a second variable with the name of the answer, and another one a word that
cannot be bound. -/
theorem placeholders_hide_names :
    ∃ endpoint ∈ ((placeholderDocument "response" "eval").extract "").endpoints,
      endpoint.arguments.map Argument.name = ["response", "eval"] ∧
        constants (requestFunction endpoint).body = ["response"] ∧
        "eval" ∈ unbindable := by
  refine ⟨_, List.mem_cons_self, ?_, rfl, ?_⟩ <;> decide +kernel

end TypedClient.Client
