import TypedClient.Proofs.Client.Printable
import TypedClient.Proofs.Client.RequestCall
import TypedClient.Proofs.Client.TypeComments
import TypedClient.Proofs.ScriptText.Declarations

/-!
Contract: the printed file of request functions.

Owns:
- `statementsTo`, the statements of a request function for some expression of its address, and
  `addressRead`, the address as it is read, which stands for the same text;
- that the file is read back as its imports and one asynchronous function for each endpoint, in
  order, with the arguments of the endpoint and the call that sends its request.

Does not own: which request that is, and the file of hooks.
-/

namespace TypedClient.Client

open Script (Expression OnOneLine Scope Statement condensed condensedBehind sentBy)
open ScriptText

variable {endpoint : Endpoint} {address : Expression}

/-! ## Statements -/

/-- What follows the address in the call. -/
def optionsOf (endpoint : Endpoint) : List Expression :=
  let hasQuery := !endpoint.queryParameters.isEmpty
  let hasBody := endpoint.requestBody.isSome
  if endpoint.method.bodyInOptions then optionArguments hasQuery hasBody
  else bodyArguments hasQuery hasBody

def statementsTo (endpoint : Endpoint) (address : Expression) : List Statement := [
  .constant "response" (.await (.call (.member (.name "axiosInstance") endpoint.method.key)
    [endpoint.responseType?.getD "unknown"] (address :: optionsOf endpoint))),
  .return (.member (.name "response") "data")]

theorem body_requestFunction (endpoint : Endpoint) :
    (requestFunction endpoint).body = statementsTo endpoint (pathExpression endpoint) := rfl

/-- The variables beside those of the address. -/
def namesAround : List String := ["axiosInstance", "response", "body", "undefined"]

/-- The members that the options of a call can have. -/
def optionMembers : List (String × Option Expression) :=
  [("params", none), ("data", some (.name "body"))]

theorem forall_optionMembers {holds : String × Option Expression → Prop}
    (ofParams : holds ("params", none)) (ofData : holds ("data", some (.name "body")))
    {members : List (String × Option Expression)} (inOptions : members ⊆ optionMembers) :
    ∀ member ∈ members, holds member := by
  have all : ∀ option ∈ optionMembers, holds option :=
    List.forall_mem_cons.2 ⟨ofParams, List.forall_mem_singleton.2 ofData⟩
  exact fun member isMember => all member (inOptions isMember)

/-- Something holds of all expressions around the address of a request. -/
structure HoldsAround (holds : Expression → Prop) (endpoint : Endpoint) : Prop where
  names : ∀ name ∈ namesAround, holds (.name name)
  members : ∀ name, ∀ property ∈ [endpoint.method.key, "data"],
    holds (.member (.name name) property)
  objects : ∀ members ⊆ optionMembers, holds (.object .inline members)
  call : ∀ method arguments, holds (.call (.member (.name "axiosInstance") method)
    [endpoint.responseType?.getD "unknown"] arguments)
  await : ∀ function types arguments, holds (.await (.call function types arguments))

section Around

variable {holds : Expression → Prop}

theorem HoldsAround.options (around : HoldsAround holds endpoint) :
    EverywhereInItems holds (optionsOf endpoint) := by
  have body : Everywhere holds (.name "body") := around.names _ (by decide)
  have undefined : Everywhere holds (.name "undefined") := around.names _ (by decide)
  have params : Everywhere holds (.object .inline [("params", none)]) :=
    ⟨around.objects _ (by simp [optionMembers]), trivial⟩
  have data : Everywhere holds (.object .inline [("data", some (.name "body"))]) :=
    ⟨around.objects _ (by simp [optionMembers]), body, trivial⟩
  have both : Everywhere holds
      (.object .inline [("params", none), ("data", some (.name "body"))]) :=
    ⟨around.objects _ (List.Subset.refl _), body, trivial⟩
  rw [optionsOf]
  cases endpoint.method.bodyInOptions with
  | true =>
      cases endpoint.queryParameters.isEmpty <;> cases endpoint.requestBody.isSome
      · exact ⟨params, trivial⟩
      · exact ⟨both, trivial⟩
      · trivial
      · exact ⟨data, trivial⟩
  | false =>
      cases endpoint.queryParameters.isEmpty <;> cases endpoint.requestBody.isSome
      · exact ⟨undefined, params, trivial⟩
      · exact ⟨body, params, trivial⟩
      · trivial
      · exact ⟨body, trivial⟩

theorem HoldsAround.statements (around : HoldsAround holds endpoint)
    (ofAddress : Everywhere holds address) :
    EverywhereInStatements holds (statementsTo endpoint address) := by
  have client : Everywhere holds (.member (.name "axiosInstance") endpoint.method.key) :=
    ⟨around.members _ _ List.mem_cons_self, around.names _ (by decide)⟩
  have answer : Everywhere holds (.member (.name "response") "data") :=
    ⟨around.members _ _ (by simp), around.names _ (by decide)⟩
  exact ⟨⟨around.await _ _ _, around.call _ _, client, ofAddress, around.options⟩, answer, trivial⟩

end Around

theorem isWord_key (method : Method) : isWord method.key.toList = true := by
  cases method <;> decide

theorem isTypeName_answer (printable : endpoint.IsPrintable) :
    ScriptText.isTypeName (endpoint.responseType?.getD "unknown").toList = true := by
  cases isResponse : endpoint.responseType? with
  | none => exact (by decide : ScriptText.isTypeName "unknown".toList = true)
  | some name => exact printable.declaredTypes name (by simp [Endpoint.declaredTypes, isResponse])

theorem written_around (printable : endpoint.IsPrintable) : HoldsAround IsWritten endpoint where
  names := (by decide : ∀ name ∈ namesAround, isWord name.toList = true)
  members := by
    rintro name property member
    show isWord property.toList = true
    simp only [List.mem_cons, List.not_mem_nil, or_false] at member
    obtain rfl | rfl := member
    · exact isWord_key endpoint.method
    · decide
  objects := fun _ =>
    forall_optionMembers (by decide : OnOneLine "params".toList)
      (by decide : OnOneLine "data".toList)
  call := fun _ _ =>
    List.forall_mem_singleton.2 (isWord_of_isTypeName (isTypeName_answer printable))
  await := fun _ _ _ => trivial

theorem named_around (printable : endpoint.IsPrintable) : HoldsAround IsNamed endpoint where
  names := (by decide : ∀ name ∈ namesAround, isVariable name.toList = true)
  members := (written_around printable).members
  objects := fun _ =>
    forall_optionMembers (by decide : isVariable "params".toList = true)
      (by decide : OnOneLine "data".toList)
  call := fun _ _ => List.forall_mem_singleton.2 (isTypeName_answer printable)
  await := fun _ _ _ => trivial

theorem tidy_around (endpoint : Endpoint) : HoldsAround IsTidy endpoint :=
  ⟨fun _ _ => trivial, fun _ _ _ => trivial, fun _ _ => trivial, fun _ _ => trivial,
    fun _ _ _ => trivial⟩

/-- The answer is a constant of its own, of which the member is taken. -/
theorem legible_around (endpoint : Endpoint) : HoldsAround IsLegible endpoint where
  names := fun _ _ => trivial
  members := fun _ _ _ => rfl
  objects := fun _ =>
    forall_optionMembers (by decide : Script.isPlainName "params".toList = true) trivial
  call := fun _ _ => rfl
  await := fun _ _ _ => rfl

theorem unstyled_statementsTo (endpoint : Endpoint) (address : Expression) :
    unstyledStatements (statementsTo endpoint address) =
      statementsTo endpoint (unstyled address) := by
  have ofOptions : unstyledItems (optionsOf endpoint) = optionsOf endpoint := by
    rw [optionsOf]
    cases endpoint.method.bodyInOptions <;> cases endpoint.queryParameters.isEmpty <;>
      cases endpoint.requestBody.isSome <;> rfl
  rw [statementsTo, statementsTo]
  simp only [unstyledStatements, unstyledStatement, unstyled, unstyledItems, ofOptions]

/-! ## The address -/

/-- The address as it is read: texts of its template that stand side by side are one. -/
def addressRead (endpoint : Endpoint) : Expression :=
  if endpoint.path.toList.contains '{' then
    .template (condensed
      (pathTemplate endpoint.pathParameters [] (PathPiece.ofPath endpoint.path.toList)))
  else .text endpoint.path

theorem treesOf_addressRead (endpoint : Endpoint) :
    treesOf (addressRead endpoint) = treesOf (pathExpression endpoint) := by
  rw [addressRead, pathExpression]
  split
  · rw [treesOf, treesOf, templateToken, templateToken, condensed, segmentsOf_condensedBehind,
      Segments.behind_nil]
  · rfl

theorem rows_statementsTo (endpoint : Endpoint) :
    rowsOfStatements (requestFunction endpoint).body =
      rowsOfStatements (statementsTo endpoint (addressRead endpoint)) := by
  rw [body_requestFunction, statementsTo, statementsTo]
  simp only [rowsOfStatements, rowOfStatement, treesOf, rowsOfItems, treesOf_addressRead]

theorem textOfAll_condensedBehind {α : Type} (scope : Scope α) (text : List Char)
    (parts : List Script.TemplatePart) :
    textOfAll scope (condensedBehind text parts) = (textOfAll scope parts).map (text ++ ·) := by
  fun_induction condensedBehind text parts with
  | case1 text =>
      rw [← List.append_nil (Script.plainPart text), textOfAll_plainPart_append]
  | case2 text more rest inductionHypothesis =>
      rw [inductionHypothesis, textOfAll_cons, Scope.textOf, Option.bind_some, Option.map_map]
      simp only [Function.comp_def, List.append_assoc]
  | case3 text code rest inductionHypothesis =>
      have ofRest := inductionHypothesis
      simp only [List.nil_append, Option.map_id'] at ofRest
      rw [textOfAll_plainPart_append, textOfAll_cons, textOfAll_cons, ofRest]

/-- The address that is read stands for the same text. -/
theorem evaluate_addressRead {α : Type} (scope : Scope α) (endpoint : Endpoint) :
    scope.evaluate (addressRead endpoint) = scope.evaluate (pathExpression endpoint) := by
  rw [addressRead, pathExpression]
  split
  · rw [evaluate_template, evaluate_template, condensed, textOfAll_condensedBehind]
    simp only [List.nil_append, Option.map_id']
  · rfl

/-- What is read back sends the request that was written. -/
theorem sentBy_addressRead {α : Type} (endpoint : Endpoint) (written : α → List Char)
    (given : List α) :
    sentBy { requestFunction endpoint with body := statementsTo endpoint (addressRead endpoint) }
      written given = sentBy (requestFunction endpoint) written given := by
  simp only [sentBy, body_requestFunction, statementsTo, List.mapM_cons, evaluate_addressRead]
  rfl

/-! ## Reading the address -/

/-- The template of an address holds characters of the path and path parameters. -/
theorem mem_spread_address {item : Char ⊕ String}
    (member : item ∈ (condensed (pathTemplate endpoint.pathParameters []
      (PathPiece.ofPath endpoint.path.toList))).flatMap spread) :
    (∃ character ∈ endpoint.path.toList, item = .inl character) ∨
      ∃ parameter ∈ endpoint.pathParameters, item = .inr parameter.identifier := by
  rw [condensed, spread_condensedBehind, spread_pathTemplate, List.map_nil, List.nil_append,
    List.nil_append, List.mem_flatMap] at member
  obtain ⟨piece, isPiece, inPiece⟩ := member
  rw [spreadPiece] at inPiece
  cases isParameter : parameterOf? endpoint.pathParameters piece with
  | some parameter =>
      rw [isParameter, List.mem_singleton] at inPiece
      exact .inr ⟨parameter, mem_of_parameterOf? isParameter, inPiece⟩
  | none =>
      rw [isParameter] at inPiece
      obtain ⟨character, isWritten, rfl⟩ := List.mem_map.1 inPiece
      have inPath := List.mem_flatMap_of_mem isPiece isWritten
      rw [PathPiece.flatMap_written_ofPath] at inPath
      exact .inl ⟨character, inPath, rfl⟩

/-- No name closes a substitution. -/
theorem not_mem_of_isVariable {name : List Char} (isVariable : isVariable name = true) :
    '}' ∉ name := by
  intro closing
  exact absurd (isWordPart_of_isWord (isWord_of_isVariable isVariable) _ closing) (by decide)

section Address

variable (printable : endpoint.IsPrintable)

include printable

theorem staysApart_address : Script.StaysApart
    (pathTemplate endpoint.pathParameters [] (PathPiece.ofPath endpoint.path.toList)) :=
  staysApart_pathTemplate
    (fun parameter member => not_mem_of_isVariable (printable.identifiers parameter member)) _ _

theorem written_pathExpression : Everywhere IsWritten (pathExpression endpoint) := by
  rw [pathExpression]
  split
  · exact staysApart_address printable
  · exact printable.path

theorem named_addressRead : Everywhere IsNamed (addressRead endpoint) := by
  rw [addressRead]
  split
  · refine List.all_eq_true.2 fun part member => ?_
    cases part with
    | plain text => rfl
    | substitution code =>
        have isCode : .inr code ∈ spread (.substitution code) := List.mem_singleton.2 rfl
        rcases mem_spread_address (List.mem_flatMap_of_mem member isCode) with
          ⟨character, _, same⟩ | ⟨parameter, isParameter, same⟩
        · cases same
        · rw [Sum.inr.injEq] at same
          rw [same]
          exact printable.identifiers parameter isParameter
  · exact printable.path

theorem tidy_addressRead : Everywhere IsTidy (addressRead endpoint) := by
  rw [addressRead]
  split
  · refine ⟨Script.tidy_condensedBehind (staysApart_address printable) [], ?_⟩
    intro text member isReturn
    have isText : .inl '\r' ∈ spread (.plain text) := List.mem_map_of_mem isReturn
    rcases mem_spread_address (List.mem_flatMap_of_mem member isText) with
      ⟨character, inPath, same⟩ | ⟨parameter, _, same⟩
    · rw [Sum.inl.injEq] at same
      subst same
      exact absurd (printable.path _ inPath) (by decide)
    · cases same
  · trivial

theorem readStatements_requestFunction :
    readStatements true (rowsOfStatements (requestFunction endpoint).body) =
      some (statementsTo endpoint (addressRead endpoint)) := by
  have legible : Everywhere IsLegible (addressRead endpoint) := by
    rw [addressRead]
    split <;> trivial
  have unstyledAddress : unstyled (addressRead endpoint) = addressRead endpoint := by
    rw [addressRead]
    split <;> rfl
  have names : ∀ statement ∈ statementsTo endpoint (addressRead endpoint),
      IsNamedStatement statement := by
    rw [statementsTo, List.forall_mem_cons, List.forall_mem_singleton]
    exact ⟨(by decide : isVariable "response".toList = true), trivial⟩
  have legibleStatements : ∀ statement ∈ statementsTo endpoint (addressRead endpoint),
      IsLegibleStatement statement := by
    rw [statementsTo, List.forall_mem_cons, List.forall_mem_singleton]
    exact ⟨trivial, trivial⟩
  have isRead := (readStatements_iff _ names
    ((named_around printable).statements (named_addressRead printable))
    ((tidy_around endpoint).statements (tidy_addressRead printable)) true).2
      ⟨legibleStatements, (legible_around endpoint).statements legible, .inl rfl⟩
  rwa [unstyled_statementsTo, unstyledAddress, ← rows_statementsTo] at isRead

theorem isWritten_requestFunction : IsWrittenFunction (requestFunction endpoint) where
  name := printable.functionName
  parameters := by
    rw [requestFunction, List.forall_mem_map]
    exact fun _ => printable.isWrittenBinder_request
  statements := by
    rw [body_requestFunction, statementsTo, List.forall_mem_cons, List.forall_mem_singleton]
    exact ⟨(by decide : isWord "response".toList = true), trivial⟩
  inBody := (written_around printable).statements (written_pathExpression printable)

end Address

/-! ## The file -/

/-- What is read of the request function of an endpoint. -/
structure ReadsRequest (endpoint : Endpoint) (found : FunctionTrees) : Prop where
  name : found.name = endpoint.functionName
  isAsync : found.isAsync = true
  arguments : found.parameters.mapM readPair =
    some (endpoint.arguments.map fun argument => (argument.name, treesOfText argument.type))
  statements : readStatements true found.body =
    some (statementsTo endpoint (addressRead endpoint))

theorem reads_requestFunction (printable : endpoint.IsPrintable) :
    ReadsRequest endpoint (treesOfFunction (requestFunction endpoint)) where
  name := rfl
  isAsync := rfl
  arguments := by
    show (((requestFunction endpoint).parameters.map rowOfBinder).mapM readPair) = _
    rw [requestFunction, List.map_map]
    refine mapM_map_of_reads fun argument member => ?_
    exact readPair_typed (isWord_of_isVariable (printable.isVariable_argument member)) argument.type
  statements := readStatements_requestFunction printable

theorem isWritten_requestImports {model : Model}
    (printable : ∀ endpoint ∈ model.endpoints, endpoint.IsPrintable) :
    ∀ taken ∈ requestImports model, IsWrittenImport taken := by
  have client : IsWrittenImport
      { items := ["axiosInstance"], source := ArtifactKind.bootstrap.specifier } := by
    refine ⟨rfl, List.cons_ne_nil _ _, ?_, plain_specifier .bootstrap,
      onOneLine_specifier .bootstrap⟩
    exact (by decide : ∀ item ∈ ["axiosInstance"], isVariable item.toList = true)
  refine List.forall_mem_cons.2 ⟨client, isWrittenImport_unless fun nonempty => ?_⟩
  refine ⟨rfl, List.isEmpty_eq_false_iff.1 nonempty, fun item isItem => ?_, plain_specifier .types,
    onOneLine_specifier .types⟩
  obtain ⟨endpoint, isEndpoint, declared⟩ := List.mem_flatMap.1 (mem_withoutRepeats.1 isItem)
  have isTypeName := (printable endpoint isEndpoint).declaredTypes item declared
  exact (Bool.and_eq_true_iff.1 isTypeName).1

/-- The printed file of request functions is read back as its imports and one asynchronous function
for each endpoint, in order, with the arguments of the endpoint and the call that sends its
request. -/
theorem requests_file_reads_back {model : Model}
    (printable : ∀ endpoint ∈ model.endpoints, endpoint.IsPrintable) :
    ∃ found : List FunctionTrees,
      readFile (requestsFile model).render =
        some ((requestImports model).map .takes ++ found.map .gives) ∧
      List.Forall₂ ReadsRequest model.endpoints found :=
  exists_readFile_each rfl (isLine_of_mem_banner (by decide)) (isWritten_requestImports printable)
    (fun endpoint member => isWritten_requestFunction (printable endpoint member))
    fun endpoint member => reads_requestFunction (printable endpoint member)

end TypedClient.Client
