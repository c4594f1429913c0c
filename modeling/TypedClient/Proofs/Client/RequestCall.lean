import TypedClient.Client.Requests
import TypedClient.Proofs.Endpoint.PathParameters
import TypedClient.Proofs.Script.Request
import TypedClient.Proofs.Script.Template

/-!
Contract: a request function sends the request that its endpoint describes.

Owns:
- the address with the values of the path parameters in it, and the template that writes it;
- which arguments are sent as query parameters and as body;
- that the printed template is read back as its pieces.

Does not own: how values are written, and what the answer is.
-/

namespace TypedClient.Client

open Script

/-! ## The template of a path -/

section Template

variable {parameters : List EndpointParameter}

/-- Plain text character by character, and substitutions. -/
def spread : TemplatePart → List (Char ⊕ String)
  | .plain text => text.toList.map .inl
  | .substitution code => [.inr code]

/-- What a piece of a path is in a template. -/
def spreadPiece (parameters : List EndpointParameter) (piece : PathPiece) : List (Char ⊕ String) :=
  match parameterOf? parameters piece with
  | some parameter => [.inr parameter.identifier]
  | none => piece.written.map .inl

theorem mem_of_parameterOf? {piece : PathPiece} {parameter : EndpointParameter}
    (isParameter : parameterOf? parameters piece = some parameter) : parameter ∈ parameters := by
  cases piece with
  | placeholder name => exact List.mem_of_find?_eq_some isParameter
  | _ => cases isParameter

/-- A text stays apart from what follows it if it does not end in a dollar, or no brace follows. -/
theorem staysApart_plainPart_append {text : List Char} {parts : List TemplatePart}
    (noOpening : text.getLast? = some '$' →
      (parts.flatMap (fun part => part.render.toList)).head? ≠ some '{')
    (apart : StaysApart parts) : StaysApart (plainPart text ++ parts) := by
  cases text with
  | nil => exact apart
  | cons character rest =>
      refine ⟨?_, apart⟩
      rwa [String.toList_ofList]

/-- A text in front of another one ends in a closing brace, so that nothing arises between them. -/
theorem staysApart_pathTemplate
    (simple : ∀ parameter ∈ parameters, '}' ∉ parameter.identifier.toList)
    (text : List Char) (pieces : List PathPiece) :
    StaysApart (pathTemplate parameters text pieces) := by
  -- One case for a placeholder with a parameter, and one for a placeholder without.
  fun_induction pathTemplate parameters text pieces with
  | case1 text =>
      rw [← List.append_nil (plainPart text)]
      exact staysApart_plainPart_append (fun _ => by simp) trivial
  | case2 text name rest parameter isParameter inductionHypothesis =>
      refine staysApart_plainPart_append (fun _ => ?_)
        ⟨simple parameter (mem_of_parameterOf? isParameter), inductionHypothesis⟩
      rw [List.flatMap_cons, toList_render_substitution]
      simp
  | case3 text name rest noParameter inductionHypothesis =>
      refine staysApart_plainPart_append (fun isDollar => ?_) inductionHypothesis
      rw [PathPiece.written, ← List.append_assoc, List.getLast?_concat] at isDollar
      exact absurd isDollar (by decide)
  | case4 text more rest inductionHypothesis => exact inductionHypothesis
  | case5 text more rest inductionHypothesis => exact inductionHypothesis

theorem spread_plainPart (text : List Char) : (plainPart text).flatMap spread = text.map .inl := by
  cases text with
  | nil => rfl
  | cons character rest =>
      show (String.ofList (character :: rest)).toList.map Sum.inl ++ [] = _
      rw [String.toList_ofList, List.append_nil]

theorem spread_pathTemplate (text : List Char) (pieces : List PathPiece) :
    (pathTemplate parameters text pieces).flatMap spread =
      text.map .inl ++ pieces.flatMap (spreadPiece parameters) := by
  fun_induction pathTemplate parameters text pieces with
  | case1 text => rw [spread_plainPart, List.flatMap_nil, List.append_nil]
  | case2 text name rest parameter isParameter inductionHypothesis =>
      rw [List.flatMap_append, List.flatMap_cons, List.flatMap_cons, spread_plainPart,
        inductionHypothesis, spreadPiece, isParameter]
      rfl
  | case3 text name rest noParameter inductionHypothesis =>
      rw [List.flatMap_append, List.flatMap_cons, spread_plainPart, inductionHypothesis,
        spreadPiece, noParameter, List.map_append, List.append_assoc]
      rfl
  | case4 text more rest inductionHypothesis =>
      rw [inductionHypothesis, List.map_append, List.append_assoc]
      rfl
  | case5 text more rest inductionHypothesis =>
      rw [inductionHypothesis, List.map_append, List.append_assoc]
      rfl

theorem spread_condensedBehind (text : List Char) (parts : List TemplatePart) :
    (condensedBehind text parts).flatMap spread = text.map .inl ++ parts.flatMap spread := by
  fun_induction condensedBehind text parts with
  | case1 text => rw [spread_plainPart, List.flatMap_nil, List.append_nil]
  | case2 text more rest inductionHypothesis =>
      rw [inductionHypothesis, List.map_append, List.append_assoc]
      rfl
  | case3 text code rest inductionHypothesis =>
      rw [List.flatMap_append, List.flatMap_cons, spread_plainPart, inductionHypothesis]
      rfl

end Template

/-! ## The address -/

section Address

variable {α : Type}

/-- A piece of a path with the value of the path parameter of its name. -/
def filled (values : List (String × α)) (written : α → List Char) : PathPiece → List Char
  | .placeholder name =>
      match values.lookup (String.ofList name) with
      | some value => written value
      | none => '{' :: name ++ ['}']
  | piece => piece.written

/-- The text of some parts one after the other. -/
def textOfAll (scope : Scope α) (parts : List TemplatePart) : Option (List Char) :=
  (parts.mapM scope.textOf).map List.flatten

theorem evaluate_template (scope : Scope α) (parts : List TemplatePart) :
    scope.evaluate (.template parts) = (textOfAll scope parts).map .text := by
  rw [textOfAll, Option.map_map, Scope.evaluate]
  rfl

theorem textOfAll_cons (scope : Scope α) (part : TemplatePart) (rest : List TemplatePart) :
    textOfAll scope (part :: rest) =
      (scope.textOf part).bind (fun text => (textOfAll scope rest).map (text ++ ·)) := by
  rw [textOfAll, textOfAll, List.mapM_cons]
  cases scope.textOf part with
  | none => rfl
  | some text => cases rest.mapM scope.textOf <;> rfl

theorem textOfAll_plainPart_append (scope : Scope α) (text : List Char)
    (parts : List TemplatePart) :
    textOfAll scope (plainPart text ++ parts) = (textOfAll scope parts).map (text ++ ·) := by
  cases text with
  | nil =>
      show textOfAll scope parts = _
      simp
  | cons character rest =>
      show textOfAll scope (.plain (String.ofList (character :: rest)) :: parts) = _
      rw [textOfAll_cons, Scope.textOf, String.toList_ofList, Option.bind_some]

theorem lookup_eq_some_of_mem {entries : List (String × α)} {name : String} {value : α}
    (distinct : (entries.map Prod.fst).Nodup) (member : (name, value) ∈ entries) :
    entries.lookup name = some value := by
  induction entries with
  | nil => exact absurd member List.not_mem_nil
  | cons entry rest inductionHypothesis =>
      obtain ⟨key, other⟩ := entry
      rw [List.map_cons, List.nodup_cons] at distinct
      rcases List.mem_cons.1 member with same | later
      · cases same
        exact List.lookup_cons_self
      · have different : name ≠ key := by
          rintro rfl
          exact distinct.1 (List.mem_map.2 ⟨_, later, rfl⟩)
        rw [List.lookup_cons, beq_false_of_ne different]
        exact inductionHypothesis distinct.2 later

/-- The parameter found under a name has the value found under that name. -/
theorem find?_parameter_lookup {parameters : List EndpointParameter} {values : List α}
    (sameLength : values.length = parameters.length) (name : String) :
    match parameters.find? (fun parameter => parameter.name = name) with
    | some parameter => ∃ value,
        ((parameters.map EndpointParameter.name).zip values).lookup name = some value ∧
        (parameter.identifier, value) ∈
          (parameters.map EndpointParameter.identifier).zip values
    | none => ((parameters.map EndpointParameter.name).zip values).lookup name = none := by
  induction parameters generalizing values with
  | nil => simp
  | cons parameter rest inductionHypothesis =>
      cases values with
      | nil => cases sameLength
      | cons value values =>
          have shorter : values.length = rest.length := by simpa using sameLength
          have later := inductionHypothesis shorter
          by_cases isNamed : parameter.name = name
          · rw [List.find?_cons_of_pos (by simpa using isNamed)]
            exact ⟨value, by simp [isNamed], List.mem_cons_self⟩
          · have different : (name == parameter.name) = false :=
              beq_false_of_ne (fun same => isNamed same.symm)
            rw [List.find?_cons_of_neg (by simpa using isNamed), List.map_cons, List.map_cons,
              List.zip_cons_cons, List.zip_cons_cons, List.lookup_cons, different]
            cases found : rest.find? (fun parameter => parameter.name = name) with
            | none => simpa [found] using later
            | some other =>
                rw [found] at later
                obtain ⟨otherValue, isFound, isMember⟩ := later
                exact ⟨otherValue, isFound, List.mem_cons_of_mem _ isMember⟩

/-- A piece without a parameter stays as it is written. -/
theorem filled_of_none {parameters : List EndpointParameter} {values : List α}
    (sameLength : values.length = parameters.length) (written : α → List Char) {piece : PathPiece}
    (noParameter : parameterOf? parameters piece = none) :
    filled ((parameters.map EndpointParameter.name).zip values) written piece = piece.written := by
  cases piece with
  | placeholder name =>
      have noValue := find?_parameter_lookup sameLength (String.ofList name)
      rw [parameterOf?] at noParameter
      rw [noParameter] at noValue
      rw [filled, noValue]
      rfl
  | _ => rfl

/-- A piece with a parameter becomes the value of this parameter. -/
theorem filled_of_some {parameters : List EndpointParameter} {values : List α}
    (sameLength : values.length = parameters.length) (written : α → List Char) {piece : PathPiece}
    {parameter : EndpointParameter} (isParameter : parameterOf? parameters piece = some parameter) :
    ∃ value, (parameter.identifier, value) ∈
        (parameters.map EndpointParameter.identifier).zip values ∧
      filled ((parameters.map EndpointParameter.name).zip values) written piece =
        written value := by
  cases piece with
  | placeholder name =>
      have hasValue := find?_parameter_lookup sameLength (String.ofList name)
      rw [parameterOf?] at isParameter
      rw [isParameter] at hasValue
      obtain ⟨value, isFound, isMember⟩ := hasValue
      exact ⟨value, isMember, by rw [filled, isFound]⟩
  | _ => cases isParameter

/-- The template of a path behind some text, with the values of the path parameters in it. -/
theorem textOfAll_pathTemplate {scope : Scope α} {parameters : List EndpointParameter}
    {values : List α} (sameLength : values.length = parameters.length)
    (readable : ∀ name value, (name, value) ∈
      (parameters.map EndpointParameter.identifier).zip values →
        scope.arguments.lookup name = some value) (text : List Char) (pieces : List PathPiece) :
    textOfAll scope (pathTemplate parameters text pieces) = some (text ++ pieces.flatMap
      (filled ((parameters.map EndpointParameter.name).zip values) scope.written)) := by
  fun_induction pathTemplate parameters text pieces with
  | case1 text =>
      rw [← List.append_nil (plainPart text), textOfAll_plainPart_append]
      rfl
  | case2 text name rest parameter isParameter inductionHypothesis =>
      obtain ⟨value, isMember, isFilled⟩ := filled_of_some sameLength scope.written isParameter
      rw [textOfAll_plainPart_append, textOfAll_cons, Scope.textOf, readable _ _ isMember,
        inductionHypothesis, List.flatMap_cons, isFilled]
      rfl
  | case3 text name rest noParameter inductionHypothesis =>
      rw [textOfAll_plainPart_append, inductionHypothesis, List.flatMap_cons,
        filled_of_none sameLength _ noParameter, Option.map_some, List.append_assoc,
        List.nil_append]
  | case4 text more rest inductionHypothesis =>
      rw [inductionHypothesis, List.append_assoc]
      rfl
  | case5 text more rest inductionHypothesis =>
      rw [inductionHypothesis, List.append_assoc]
      rfl

end Address

/-! ## The request -/

section Request

variable {α : Type}

/-- The values of the arguments of a request function: those of the path parameters, that of all
query parameters together and that of the body, as far as the endpoint has them. -/
def givenValues (endpoint : Endpoint) (pathValues : List α) (queryValue bodyValue : α) : List α :=
  pathValues ++ (endpoint.parametersType?.map (fun _ => queryValue)).toList ++
    (endpoint.requestType?.map (fun _ => bodyValue)).toList

/-- The request that an endpoint describes, for some values of its parameters and its body. -/
def describedRequest (endpoint : Endpoint) (written : α → List Char) (pathValues : List α)
    (queryValue bodyValue : α) : Request α where
  method := endpoint.method.key
  address := (PathPiece.ofPath endpoint.path.toList).flatMap
    (filled ((endpoint.pathParameters.map EndpointParameter.name).zip pathValues) written)
  params := if endpoint.queryParameters.isEmpty then none else some (.argument queryValue)
  data := endpoint.requestBody.map (fun _ => .argument bodyValue)

/-- What a request function reads, by name. -/
def boundValues (endpoint : Endpoint) (pathValues : List α) (queryValue bodyValue : α) :
    List (String × α) :=
  (endpoint.pathParameters.map EndpointParameter.identifier).zip pathValues ++
    (endpoint.parametersType?.map (fun _ => ("params", queryValue))).toList ++
    (endpoint.requestType?.map (fun _ => ("body", bodyValue))).toList

theorem zip_givenValues {endpoint : Endpoint} {pathValues : List α}
    (sameLength : pathValues.length = endpoint.pathParameters.length) (queryValue bodyValue : α) :
    ((requestFunction endpoint).parameters.map Binder.name).zip
        (givenValues endpoint pathValues queryValue bodyValue) =
      boundValues endpoint pathValues queryValue bodyValue := by
  have names : (requestFunction endpoint).parameters.map Binder.name =
      endpoint.pathParameters.map EndpointParameter.identifier ++
        (endpoint.parametersType?.map (fun _ => "params")).toList ++
        (endpoint.requestType?.map (fun _ => "body")).toList := by
    rw [requestFunction, Endpoint.arguments, List.map_map, List.map_append, List.map_append,
      List.map_map]
    congr 1
    · congr 1
      cases endpoint.parametersType? <;> rfl
    · cases endpoint.requestType? <;> rfl
  rw [names, givenValues, boundValues, List.zip_append, List.zip_append]
  · congr 1
    · congr 1
      cases endpoint.parametersType? <;> rfl
    · cases endpoint.requestType? <;> rfl
  · rw [List.length_map, sameLength]
  · rw [List.length_append, List.length_append, List.length_map, sameLength]
    cases endpoint.parametersType? <;> rfl

theorem map_fst_boundValues {endpoint : Endpoint} {pathValues : List α}
    (sameLength : pathValues.length = endpoint.pathParameters.length) (queryValue bodyValue : α) :
    (boundValues endpoint pathValues queryValue bodyValue).map Prod.fst =
      endpoint.arguments.map Argument.name := by
  rw [boundValues, Endpoint.arguments, List.map_append, List.map_append, List.map_append,
    List.map_append, List.map_fst_zip (by rw [List.length_map, sameLength]), List.map_map]
  congr 1
  · congr 1
    cases endpoint.parametersType? <;> rfl
  · cases endpoint.requestType? <;> rfl

/-- A scope in which a request function runs. -/
structure RunsIn (endpoint : Endpoint) (pathValues : List α) (queryValue bodyValue : α)
    (scope : Scope α) : Prop where
  sameLength : pathValues.length = endpoint.pathParameters.length
  bound : scope.arguments = boundValues endpoint pathValues queryValue bodyValue
  distinct : (scope.arguments.map Prod.fst).Nodup
  free : "undefined" ∉ scope.arguments.map Prod.fst

namespace RunsIn

variable {endpoint : Endpoint} {pathValues : List α} {queryValue bodyValue : α} {scope : Scope α}

theorem read_params (runs : RunsIn endpoint pathValues queryValue bodyValue scope)
    (hasQuery : endpoint.queryParameters.isEmpty = false) :
    scope.read "params" = some (.argument queryValue) := by
  have member : ("params", queryValue) ∈ scope.arguments := by
    rw [runs.bound, boundValues, Endpoint.parametersType?, hasQuery]
    simp
  rw [Scope.read, lookup_eq_some_of_mem runs.distinct member]

theorem read_body (runs : RunsIn endpoint pathValues queryValue bodyValue scope)
    (hasBody : endpoint.requestBody.isSome = true) :
    scope.read "body" = some (.argument bodyValue) := by
  have member : ("body", bodyValue) ∈ scope.arguments := by
    obtain ⟨shape, isBody⟩ := Option.isSome_iff_exists.1 hasBody
    rw [runs.bound, boundValues, Endpoint.requestType?, isBody]
    simp
  rw [Scope.read, lookup_eq_some_of_mem runs.distinct member]

theorem read_undefined (runs : RunsIn endpoint pathValues queryValue bodyValue scope) :
    scope.read "undefined" = some .undefined := by
  have missing : scope.arguments.lookup "undefined" = none := by
    rw [List.lookup_eq_none_iff]
    intro entry member
    have different : "undefined" ≠ entry.1 := by
      intro same
      exact runs.free (by rw [same]; exact List.mem_map_of_mem member)
    simpa using different
  rw [Scope.read, missing]
  rfl

/-- The address of the call is the path with the values of its parameters. -/
theorem evaluate_pathExpression (runs : RunsIn endpoint pathValues queryValue bodyValue scope) :
    scope.evaluate (pathExpression endpoint) = some (.text
      ((PathPiece.ofPath endpoint.path.toList).flatMap
        (filled ((endpoint.pathParameters.map EndpointParameter.name).zip pathValues)
          scope.written))) := by
  unfold pathExpression
  split
  · have readable : ∀ name value, (name, value) ∈
        (endpoint.pathParameters.map EndpointParameter.identifier).zip pathValues →
          scope.arguments.lookup name = some value := by
      intro name value member
      apply lookup_eq_some_of_mem runs.distinct
      rw [runs.bound]
      exact List.mem_append_left _ (List.mem_append_left _ member)
    have text := textOfAll_pathTemplate runs.sameLength readable []
      (PathPiece.ofPath endpoint.path.toList)
    rw [evaluate_template, text, Option.map_some, List.nil_append]
  · rename_i noBrace
    have isPlain : PathPiece.ofPath endpoint.path.toList = [.plain endpoint.path.toList] :=
      PathPiece.ofPath_of_not_mem (by simpa using noBrace)
    rw [isPlain, Scope.evaluate, List.flatMap_singleton]
    rfl

/-- The arguments of a call, once the address is known. -/
theorem bind_mapM_cons {address : Expression} {value : Value α}
    (isAddress : scope.evaluate address = some value) (rest : List Expression)
    (next : List (Value α) → Option (Request α)) :
    ((address :: rest).mapM scope.evaluate).bind next =
      (rest.mapM scope.evaluate).bind (fun values => next (value :: values)) := by
  rw [List.mapM_cons, isAddress]
  cases rest.mapM scope.evaluate <;> rfl

/-- The values of the arguments behind the address of a call with options. -/
theorem evaluate_optionArguments (runs : RunsIn endpoint pathValues queryValue bodyValue scope)
    (method : String) (isMethod : method = "get" ∨ method = "delete") (address : List Char) :
    ((optionArguments (!endpoint.queryParameters.isEmpty) endpoint.requestBody.isSome).mapM
        scope.evaluate).bind (fun values => send method (.text address :: values)) =
      some {
        method, address
        params := if endpoint.queryParameters.isEmpty then none else some (.argument queryValue)
        data := endpoint.requestBody.map (fun _ => .argument bodyValue) } := by
  have sent : ∀ options : List (String × Value α),
      send method [.text address, .record options] =
        some ⟨method, address, option? options "params", option? options "data"⟩ := by
    intro options
    rcases isMethod with rfl | rfl <;> rfl
  have sentAlone : (send method [.text address] : Option (Request α)) =
      some ⟨method, address, none, none⟩ := by
    rcases isMethod with rfl | rfl <;> rfl
  cases hasQuery : endpoint.queryParameters.isEmpty with
  | true =>
      cases hasBody : endpoint.requestBody with
      | none => exact sentAlone
      | some shape =>
          have body := runs.read_body (by rw [hasBody]; rfl)
          have values : [Expression.object .inline [("data", some (.name "body"))]].mapM
              scope.evaluate = some [.record [("data", .argument bodyValue)]] := by
            simp [Scope.evaluate, Scope.evaluateMembers, body]
          exact Option.bind_eq_some_iff.2 ⟨_, values, sent _⟩
  | false =>
      have params := runs.read_params hasQuery
      cases hasBody : endpoint.requestBody with
      | none =>
          have values : [Expression.object .inline [("params", none)]].mapM scope.evaluate =
              some [.record [("params", .argument queryValue)]] := by
            simp [Scope.evaluate, Scope.evaluateMembers, params]
          exact Option.bind_eq_some_iff.2 ⟨_, values, sent _⟩
      | some shape =>
          have body := runs.read_body (by rw [hasBody]; rfl)
          have values : [Expression.object .inline
                [("params", none), ("data", some (.name "body"))]].mapM scope.evaluate =
              some [.record [("params", .argument queryValue), ("data", .argument bodyValue)]] := by
            simp [Scope.evaluate, Scope.evaluateMembers, params, body]
          exact Option.bind_eq_some_iff.2 ⟨_, values, sent _⟩

/-- The values of the arguments behind the address of a call with a body of its own. -/
theorem evaluate_bodyArguments (runs : RunsIn endpoint pathValues queryValue bodyValue scope)
    (method : String) (isMethod : method = "post" ∨ method = "put" ∨ method = "patch")
    (address : List Char) :
    ((bodyArguments (!endpoint.queryParameters.isEmpty) endpoint.requestBody.isSome).mapM
        scope.evaluate).bind (fun values => send method (.text address :: values)) =
      some {
        method, address
        params := if endpoint.queryParameters.isEmpty then none else some (.argument queryValue)
        data := endpoint.requestBody.map (fun _ => .argument bodyValue) } := by
  have sent : ∀ (body : Value α) (options : List (String × Value α)),
      send method [.text address, body, .record options] =
        some ⟨method, address, option? options "params", defined? body⟩ := by
    intro body options
    rcases isMethod with rfl | rfl | rfl <;> rfl
  have sentBody : ∀ body : Value α, send method [.text address, body] =
      some ⟨method, address, none, defined? body⟩ := by
    intro body
    rcases isMethod with rfl | rfl | rfl <;> rfl
  have sentAlone : (send method [.text address] : Option (Request α)) =
      some ⟨method, address, none, none⟩ := by
    rcases isMethod with rfl | rfl | rfl <;> rfl
  cases hasQuery : endpoint.queryParameters.isEmpty with
  | true =>
      cases hasBody : endpoint.requestBody with
      | none => exact sentAlone
      | some shape =>
          have body := runs.read_body (by rw [hasBody]; rfl)
          simp [bodyArguments, Scope.evaluate, body, sentBody, defined?]
  | false =>
      have params := runs.read_params hasQuery
      cases hasBody : endpoint.requestBody with
      | none =>
          simp [bodyArguments, Scope.evaluate, Scope.evaluateMembers, params, runs.read_undefined,
            sent, option?, defined?]
      | some shape =>
          have body := runs.read_body (by rw [hasBody]; rfl)
          simp [bodyArguments, Scope.evaluate, Scope.evaluateMembers, params, body, sent,
            option?, defined?]

/-- What the call stands for is the request that the endpoint describes. -/
theorem send_requestCall (runs : RunsIn endpoint pathValues queryValue bodyValue scope) :
    ∃ types arguments, requestCall endpoint =
        .call (.member (.name "axiosInstance") endpoint.method.key) types arguments ∧
      (arguments.mapM scope.evaluate).bind (send endpoint.method.key) =
        some (describedRequest endpoint scope.written pathValues queryValue bodyValue) := by
  refine ⟨_, _, rfl, ?_⟩
  rw [bind_mapM_cons runs.evaluate_pathExpression]
  cases isMethod : endpoint.method with
  | get =>
      rw [describedRequest, isMethod]
      exact runs.evaluate_optionArguments "get" (by decide) _
  | delete =>
      rw [describedRequest, isMethod]
      exact runs.evaluate_optionArguments "delete" (by decide) _
  | post =>
      rw [describedRequest, isMethod]
      exact runs.evaluate_bodyArguments "post" (by decide) _
  | put =>
      rw [describedRequest, isMethod]
      exact runs.evaluate_bodyArguments "put" (by decide) _
  | patch =>
      rw [describedRequest, isMethod]
      exact runs.evaluate_bodyArguments "patch" (by decide) _

end RunsIn

/-- A request function sends the request of its endpoint, if its arguments are all different and
none of them hides a name that it uses. -/
theorem sentBy_requestFunction {endpoint : Endpoint}
    (distinct : (endpoint.arguments.map Argument.name).Nodup)
    (free : ∀ name ∈ endpoint.arguments.map Argument.name,
      name ∉ ["undefined", "response", "axiosInstance"])
    (written : α → List Char) {pathValues : List α}
    (sameLength : pathValues.length = endpoint.pathParameters.length) (queryValue bodyValue : α) :
    sentBy (requestFunction endpoint) written
        (givenValues endpoint pathValues queryValue bodyValue) =
      some (describedRequest endpoint written pathValues queryValue bodyValue) := by
  have names : (requestFunction endpoint).parameters.map Binder.name =
      endpoint.arguments.map Argument.name := by
    rw [requestFunction, List.map_map]
    rfl
  have declared : constants (requestFunction endpoint).body = ["response"] := rfl
  have allDistinct : ((requestFunction endpoint).parameters.map Binder.name ++
      constants (requestFunction endpoint).body).Nodup := by
    rw [names, declared, List.nodup_append]
    refine ⟨distinct, List.nodup_singleton _, ?_⟩
    rintro name member other isOther rfl
    exact free name member (by rw [List.mem_singleton.1 isOther]; decide)
  have instanceFree : "axiosInstance" ∉ (requestFunction endpoint).parameters.map Binder.name ++
      constants (requestFunction endpoint).body := by
    rw [names, declared, List.mem_append, not_or]
    exact ⟨fun member => free _ member (by decide), by decide⟩
  have runs : RunsIn endpoint pathValues queryValue bodyValue
      ⟨boundValues endpoint pathValues queryValue bodyValue, written⟩ := {
    sameLength
    bound := rfl
    distinct := by
      rw [map_fst_boundValues sameLength]
      exact distinct
    free := by
      rw [map_fst_boundValues sameLength]
      exact fun member => free _ member (by decide) }
  obtain ⟨types, arguments, isCall, isSent⟩ := runs.send_requestCall
  have isBody : (requestFunction endpoint).body = [
      .constant "response" (.await
        (.call (.member (.name "axiosInstance") endpoint.method.key) types arguments)),
      .return (.member (.name "response") "data")] := by
    rw [requestFunction, isCall]
  rw [sentBy, if_pos ⟨rfl, allDistinct, instanceFree⟩, isBody, zip_givenValues sameLength]
  exact isSent

/-- The template of an address is read back as its pieces, with texts that stand side by side as
one. -/
theorem readTemplate_pathExpression {endpoint : Endpoint}
    (simple : ∀ parameter ∈ endpoint.pathParameters, '}' ∉ parameter.identifier.toList)
    (hasBrace : '{' ∈ endpoint.path.toList) (level : Nat) :
    ∃ parts, pathExpression endpoint = .template parts ∧
      readTemplate ((pathExpression endpoint).render level) = some (condensed parts) ∧
      (condensed parts).flatMap spread = parts.flatMap spread ∧
      parts.flatMap spread = (PathPiece.ofPath endpoint.path.toList).flatMap
        (spreadPiece endpoint.pathParameters) := by
  have isTemplate : pathExpression endpoint = .template
      (pathTemplate endpoint.pathParameters [] (PathPiece.ofPath endpoint.path.toList)) := by
    rw [pathExpression, if_pos (by simpa using hasBrace)]
  refine ⟨_, isTemplate, ?_, spread_condensedBehind [] _, spread_pathTemplate [] _⟩
  rw [isTemplate]
  exact readTemplate_render (staysApart_pathTemplate simple _ _) level

/-- The placeholders of a path are where the braces say, and each with a name has a parameter; the
function sends the path with the values of its parameters, the query parameters and the body, as far
as there are any; and the template that is printed for the path is read back as its pieces, those of
its texts that stand side by side as one. -/
theorem request_function_sends_described_request {document : Document} {qualifier : String}
    {endpoint : Endpoint} (extracted : endpoint ∈ (document.extract qualifier).endpoints)
    (distinct : (endpoint.arguments.map Argument.name).Nodup)
    (free : ∀ name ∈ endpoint.arguments.map Argument.name,
      name ∉ ["undefined", "response", "axiosInstance"]) :
    PathPiece.Segmented endpoint.path.toList (PathPiece.ofPath endpoint.path.toList) ∧
    (∀ name, name ≠ [] → .placeholder name ∈ PathPiece.ofPath endpoint.path.toList →
      ∃ parameter ∈ endpoint.pathParameters, parameter.name = String.ofList name) ∧
    (∀ {α : Type} (written : α → List Char) (pathValues : List α) (queryValue bodyValue : α),
      pathValues.length = endpoint.pathParameters.length →
      sentBy (requestFunction endpoint) written
          (givenValues endpoint pathValues queryValue bodyValue) =
        some (describedRequest endpoint written pathValues queryValue bodyValue)) ∧
    (∀ level, '{' ∈ endpoint.path.toList → ∃ parts,
      pathExpression endpoint = .template parts ∧
      readTemplate ((pathExpression endpoint).render level) = some (condensed parts) ∧
      (condensed parts).flatMap spread = parts.flatMap spread ∧
      parts.flatMap spread =
        (PathPiece.ofPath endpoint.path.toList).flatMap (spreadPiece endpoint.pathParameters)) := by
  have simple : ∀ parameter ∈ endpoint.pathParameters, '}' ∉ parameter.identifier.toList :=
    fun _ member closing =>
      absurd ((Document.isName_identifier_of_mem extracted member).inName '}' closing) (by decide)
  refine ⟨PathPiece.segmented_ofPath _, ?_, ?_, ?_⟩
  · intro name named member
    exact Document.exists_parameter_of_placeholder extracted named member
  · intro α written pathValues queryValue bodyValue sameLength
    exact sentBy_requestFunction distinct free written sameLength queryValue bodyValue
  · intro level hasBrace
    exact readTemplate_pathExpression simple hasBrace level

/-- A document with a deletion that has a parameter of each kind, and a brace left open. -/
def deletionDocument : Document where
  paths := [("/items/\x7bitem\x7d/\x7btail", {
    operations := [("delete", {
      parameters := [
        .inline ⟨"item", "path", true, none, some "integer"⟩,
        .inline ⟨"force", "query", false, none, some "boolean"⟩,
        .inline ⟨"reason", "body", false, some default, none⟩] })] })]

theorem deletion_sends_described_request :
    ∃ endpoint ∈ (deletionDocument.extract "").endpoints,
      sentBy (requestFunction endpoint) (fun value : Nat => (toString value).toList)
          (givenValues endpoint [7] 1 2) =
        some ⟨"delete", "/items/7/\x7btail".toList, some (.argument 1), some (.argument 2)⟩ := by
  refine ⟨_, List.mem_cons_self, ?_⟩
  have sent := (@request_function_sends_described_request deletionDocument "" _
    List.mem_cons_self (by decide +kernel) (by decide +kernel)).2.2.1
    (fun value : Nat => (toString value).toList) [7] 1 2 (by decide +kernel)
  rw [sent, describedRequest]
  congr 2
  decide +kernel

end Request

end TypedClient.Client
