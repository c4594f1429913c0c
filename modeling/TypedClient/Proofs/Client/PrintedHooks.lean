import TypedClient.Proofs.Client.Forwarding
import TypedClient.Proofs.Client.Lockstep
import TypedClient.Proofs.Client.PrintedRequests
import TypedClient.Proofs.ScriptText.Faithful

/-!
Contract: the printed file of hooks.

Owns:
- `readHook`, what a hook hands to the framework under which keys, and `readMutation`, a mutation
  that takes a record apart;
- that the file is read back as its imports and one function for each endpoint, in order, which
  hands on the key of a query, and the request function itself or a call of it with the arguments of
  the endpoint;
- that both files of a run are read back, whatever its documents are, if no path breaks its line and
  the types of its parameters are written.

Does not own: what the framework does with it, and the code of a hook that is taken as it is.
-/

namespace TypedClient.Client

open Script (Binder Expression Import OnOneLine)
open ScriptText

variable {endpoint : Endpoint}

/-! ## Reading -/

/-- What a hook hands to the framework: the function of the framework, and the trees of the options
by their keys. -/
def readHook : List Row → Option (String × List (String × Row))
  | [[.token (.word "return"), .token (.word framework),
      .group .round [[.group .brace options]]]] =>
      (options.mapM readPair).map (framework, ·)
  | _ => none

/-- The fields of a type, one or several. -/
def readFields : Tree → Option (List (String × Row))
  | .group .brace rows => rows.mapM readPair
  | .group .block rows => rows.mapM readPair
  | _ => none

/-- A function of a record that is taken apart: the names of its fields, these with the trees of
their types, and the result. -/
def readMutation : Row → Option (List String × List (String × Row) × Expression)
  | .group .round [[.group .brace names, .token .colon, fields]] :: .token .arrow :: result =>
      (names.mapM readName).bind fun names =>
        (readFields fields).bind fun fields =>
          (readExpression true false result).map fun result => (names, fields, result)
  | _ => none

/-! ## What can be read outside of functions that wait -/

/-- An expression without an object, which can be read in a function that does not wait. -/
structure IsPlain (expression : Expression) : Prop where
  named : Everywhere IsNamed expression
  tidy : Everywhere IsTidy expression
  legible : Everywhere IsLegible expression
  free : Everywhere IsAwaitFree expression
  noLayout : unstyled expression = expression

namespace IsPlain

variable {expression : Expression}

theorem reads (plain : IsPlain expression) :
    readExpression true false (treesOf expression) = some expression := by
  have isRead := (readExpression_iff expression plain.named plain.tidy true false).2
    ⟨plain.legible, .inl rfl, .inr plain.free⟩
  rwa [plain.noLayout] at isRead

theorem written (plain : IsPlain expression) : Everywhere IsWritten expression :=
  everywhere_of_both (fun _ => isWritten_of_named) expression plain.named plain.tidy

theorem name {name : String} (isVariable : isVariable name.toList = true) : IsPlain (.name name) :=
  ⟨isVariable, trivial, trivial, trivial, rfl⟩

end IsPlain

theorem everywhere_names {holds : Expression → Prop} {arguments : List Argument}
    (ofNames : ∀ argument ∈ arguments, holds (.name argument.name)) :
    EverywhereInItems holds (arguments.map fun argument => .name argument.name) := by
  induction arguments with
  | nil => trivial
  | cons argument rest inductionHypothesis =>
      rw [List.forall_mem_cons] at ofNames
      exact ⟨ofNames.1, inductionHypothesis ofNames.2⟩

theorem unstyled_names (arguments : List Argument) :
    unstyledItems (arguments.map fun argument => .name argument.name) =
      arguments.map fun argument => .name argument.name := by
  induction arguments with
  | nil => rfl
  | cons argument rest inductionHypothesis =>
      rw [List.map_cons, unstyledItems, unstyled, inductionHypothesis]

section Parts

variable (printable : endpoint.IsPrintable)

include printable

theorem isPlain_callWith : IsPlain (callWith endpoint.functionName endpoint.arguments) where
  named := ⟨List.forall_mem_nil _, printable.functionName,
    everywhere_names fun _ member => printable.isVariable_argument member⟩
  tidy := ⟨trivial, trivial, everywhere_names fun _ _ => trivial⟩
  legible := ⟨rfl, trivial, everywhere_names fun _ _ => trivial⟩
  free := ⟨trivial, trivial, everywhere_names fun _ _ => trivial⟩
  noLayout := by
    rw [callWith, unstyled, unstyled, unstyled_names]

theorem isPlain_queryKey : IsPlain (.list (queryKey endpoint)) where
  named := ⟨trivial, printable.camelName,
    everywhere_names fun _ member => printable.isVariable_argument member⟩
  tidy := ⟨trivial, trivial, everywhere_names fun _ _ => trivial⟩
  legible := ⟨trivial, trivial, everywhere_names fun _ _ => trivial⟩
  free := ⟨trivial, trivial, everywhere_names fun _ _ => trivial⟩
  noLayout := by
    rw [unstyled, queryKey, unstyledItems, unstyled, unstyled_names]

theorem isPlain_queryFunction : IsPlain (queryFunction endpoint) := by
  have call := isPlain_callWith printable
  rw [queryFunction]
  split
  · exact .name printable.functionName
  · refine ⟨⟨List.forall_mem_nil _, call.named⟩, ⟨trivial, call.tidy⟩,
      ⟨⟨rfl, call.free⟩, call.legible⟩, ⟨trivial, call.free⟩, ?_⟩
    rw [unstyled, call.noLayout]

end Parts

/-! ## Code that is taken as it is -/

section Code

theorem exact_access : Exact "?." [.token .question, .token .dot] := by
  have question : Exact "?" [.token .question] := fun _ _ _ => rfl
  have dot : Exact "." [.token .dot] := fun _ _ _ => rfl
  exact question.append dot

theorem isCode_enabled : IsCode "options?.enabled ?? true" := by
  have question : Exact " ?" [.token .question] := fun _ _ _ => rfl
  have otherwise : Exact "? " [.token .question] := fun _ _ _ => rfl
  have options : IsCode "options" := .word (by decide)
  have enabled : IsCode "enabled" := .word (by decide)
  have always : IsCode "true" := .word (by decide)
  exact (options.operate (.of_head rfl) exact_access enabled).operate (.of_head rfl)
    (question.append otherwise) always

theorem isCode_enabledType : IsCode "\x7b enabled?: boolean \x7d" := by
  have mark : Exact "?" [.token .question] := fun _ _ _ => rfl
  have colon : Exact ": " [.token .colon] := fun _ _ _ => rfl
  have enabled : IsCode "enabled" := .word (by decide)
  have boolean : IsCode "boolean" := .word (by decide)
  have field : IsCode "enabled?: boolean" :=
    enabled.operate (.of_head rfl) (mark.append colon) boolean
  exact (Exact.members (rows_of_isCode (List.forall_mem_singleton.2 field))).isCode
    (List.cons_ne_nil _ _)

/-- The code that shows an error. -/
theorem isCode_notify {message : String} (onOneLine : OnOneLine message.toList) :
    IsCode ("toast.error(error.response?.data?.errors?.[0]?.msg || " ++ Script.literal message ++
      ")") := by
  have dot : Exact "." [.token .dot] := fun _ _ _ => rfl
  have bar : Exact " |" [.token (.sign '|')] := fun _ _ _ => rfl
  have otherwise : Exact "| " [.token (.sign '|')] := fun _ _ _ => rfl
  have toast : IsCode "toast" := .word (by decide)
  have error : IsCode "error" := .word (by decide)
  have response : IsCode "response" := .word (by decide)
  have data : IsCode "data" := .word (by decide)
  have errors : IsCode "errors" := .word (by decide)
  have text : IsCode "msg" := .word (by decide)
  have fallback : IsCode (Script.literal message) :=
    (Exact.literal onOneLine).isCode (List.cons_ne_nil _ _)
  have number : IsCode "0" := isCode_number (Json.inNumber_toString 0) (List.cons_ne_nil _ _)
  have index := Exact.list (rows_of_isCode (List.forall_mem_singleton.2 number))
  have answer := error.operate (.of_head rfl) dot response
  have found := answer.operate (.of_head rfl) exact_access data
  have first := (found.operate (.of_head rfl) exact_access errors).append_exact (.of_head rfl)
    (exact_access.append index)
  have shown := (first.operate (.of_head rfl) exact_access text).operate (.of_head rfl)
    (bar.append otherwise) fallback
  have arguments := Exact.arguments (rows_of_isCode (List.forall_mem_singleton.2 shown))
  have call := (toast.operate (.of_head rfl) dot error).append_exact
    ((Opens.append rfl _).append_right _) arguments
  simp only [String.intercalate_singleton, ← String.append_assoc] at call
  exact call

end Code

/-! ## Arguments -/

section Arguments

variable (printable : endpoint.IsPrintable)

include printable

theorem written_typedArguments :
    ∀ typed ∈ typedArguments endpoint.functionName endpoint.arguments,
      isVariable typed.1.toList = true ∧ IsCode typed.2 := by
  refine List.forall_mem_map.2 fun entry member => ?_
  have isArgument := List.fst_mem_of_mem_zipIdx member
  exact ⟨printable.isVariable_argument isArgument,
    printable.isCode_argumentType isArgument entry.2⟩

theorem writes_mutationInput
    (several : ¬ (endpoint.arguments.length ≤ 1 && endpoint.pathParameters.isEmpty)) :
    WritesRow (mutationInput endpoint).name
        [.group .brace ((endpoint.arguments.map Argument.name).map rowOfType)] ∧
      ∃ type, (mutationInput endpoint).type = some type ∧
        WritesRow type [fieldsTree ((typedArguments endpoint.functionName endpoint.arguments).map
          fun typed => .token (.word typed.1) :: .token .colon :: treesOfText typed.2)] := by
  have ofTyped := written_typedArguments printable
  have nonempty : typedArguments endpoint.functionName endpoint.arguments ≠ [] := by
    rw [typedArguments, ne_eq, List.map_eq_nil_iff]
    exact zipIdx_arguments_ne_nil several
  have fields : ∀ typed ∈ typedArguments endpoint.functionName endpoint.arguments,
      WritesRow (typed.1 ++ ": " ++ typed.2)
        (.token (.word typed.1) :: .token .colon :: treesOfText typed.2) :=
    fun typed member =>
      writesRow_field (isWord_of_isVariable (ofTyped typed member).1) (ofTyped typed member).2
  refine ⟨?_, _, rfl, ?_⟩
  · have names : List.Forall₂ WritesRow
        ((typedArguments endpoint.functionName endpoint.arguments).map Prod.fst)
        (((typedArguments endpoint.functionName endpoint.arguments).map Prod.fst).map
          rowOfType) := by
      rw [List.forall₂_map_right_iff, List.forall₂_same]
      exact List.forall_mem_map.2 fun typed member =>
        .word (isWord_of_isVariable (ofTyped typed member).1)
    rw [← map_fst_typedArguments]
    exact (Exact.members names).writesRow (List.cons_ne_nil _ _)
  · have whole := Exact.fields (by rwa [ne_eq, List.map_eq_nil_iff])
      (List.forall_mem_map.2 fun typed member => (fields typed member).isCode)
    rw [List.map_map] at whole
    have rows : (typedArguments endpoint.functionName endpoint.arguments).map
        (treesOfText ∘ fun typed => typed.1 ++ ": " ++ typed.2) =
          (typedArguments endpoint.functionName endpoint.arguments).map
            fun typed => .token (.word typed.1) :: .token .colon :: treesOfText typed.2 :=
      List.map_congr_left fun typed member => (fields typed member).treesOfText
    rw [rows] at whole
    exact whole.writesRow (List.cons_ne_nil _ _)

end Arguments

theorem readFields_fieldsTree (rows : List Row) :
    readFields (fieldsTree rows) = rows.mapM readPair := by
  rcases rows with _ | ⟨row, _ | ⟨next, rows⟩⟩ <;> rfl

/-- A mutation of a record is read as its fields with their types, and the call with their names. -/
theorem readMutation_mutationFunction (printable : endpoint.IsPrintable)
    (several : ¬ (endpoint.arguments.length ≤ 1 && endpoint.pathParameters.isEmpty)) :
    readMutation (treesOf (mutationFunction endpoint)) =
      some (endpoint.arguments.map Argument.name,
        (typedArguments endpoint.functionName endpoint.arguments).map
          (fun typed => (typed.1, treesOfText typed.2)),
        callWith endpoint.functionName endpoint.arguments) := by
  obtain ⟨ofNames, type, isType, ofType⟩ := writes_mutationInput printable several
  have input : rowOfBinder (mutationInput endpoint) =
      [.group .brace ((endpoint.arguments.map Argument.name).map rowOfType), .token .colon,
        fieldsTree ((typedArguments endpoint.functionName endpoint.arguments).map
          fun typed => .token (.word typed.1) :: .token .colon :: treesOfText typed.2)] := by
    rw [rowOfBinder, isType, ofNames.treesOfText]
    simp only [ofType.treesOfText]
    rfl
  have trees : treesOf (mutationFunction endpoint) =
      .group .round [rowOfBinder (mutationInput endpoint)] :: .token .arrow ::
        treesOf (callWith endpoint.functionName endpoint.arguments) := by
    rw [mutationFunction, if_neg several]
    rfl
  have names : ((endpoint.arguments.map Argument.name).map rowOfType).mapM readName =
      some (endpoint.arguments.map Argument.name) :=
    mapM_map_of_inverse (List.forall_mem_map.2 fun _ member =>
      if_pos (printable.isVariable_argument member))
  have fields : ((typedArguments endpoint.functionName endpoint.arguments).map fun typed =>
      Tree.token (.word typed.1) :: .token .colon :: treesOfText typed.2).mapM readPair =
        some ((typedArguments endpoint.functionName endpoint.arguments).map
          fun typed => (typed.1, treesOfText typed.2)) :=
    mapM_map_of_reads fun _ _ => rfl
  rw [trees, input, readMutation, names, Option.bind_some, readFields_fieldsTree, fields,
    Option.bind_some, (isPlain_callWith printable).reads, Option.map_some]

/-! ## Functions -/

theorem isWritten_queryHook (printable : endpoint.IsPrintable) :
    IsWrittenFunction (queryHook endpoint) where
  name := printable.hookName
  parameters := by
    have ofTyped := written_typedArguments printable
    refine List.forall_mem_append.2 ⟨List.forall_mem_map.2 fun typed member => ?_, ?_⟩
    · refine ⟨.word (isWord_of_isVariable (ofTyped typed member).1), ?_⟩
      rintro type ⟨⟩
      exact (ofTyped typed member).2
    · refine List.forall_mem_singleton.2 ⟨.word (by decide), ?_⟩
      rintro type ⟨⟩
      exact isCode_enabledType
  statements := List.forall_mem_singleton.2 trivial
  inBody := by
    have framework : Everywhere IsWritten (.name "useQuery") :=
      (by decide : isWord "useQuery".toList = true)
    have keys : ∀ member ∈ [("queryKey", some (.list (queryKey endpoint))),
        ("queryFn", some (queryFunction endpoint)),
        ("enabled", some (.code "options?.enabled ?? true"))], OnOneLine member.1.toList := by
      simp only [List.forall_mem_cons]
      exact ⟨by decide, by decide, by decide, List.forall_mem_nil _⟩
    exact ⟨⟨List.forall_mem_nil _, framework, ⟨keys, (isPlain_queryKey printable).written,
      (isPlain_queryFunction printable).written, isCode_enabled, trivial⟩, trivial⟩, trivial⟩

theorem written_mutationFunction (printable : endpoint.IsPrintable) :
    Everywhere IsWritten (mutationFunction endpoint) := by
  by_cases several : endpoint.arguments.length ≤ 1 && endpoint.pathParameters.isEmpty
  · rw [mutationFunction, if_pos several]
    exact (IsPlain.name printable.functionName).written
  · obtain ⟨ofNames, type, isType, ofType⟩ := writes_mutationInput printable several
    rw [mutationFunction, if_neg several]
    refine ⟨List.forall_mem_singleton.2 ⟨ofNames.isCode, ?_⟩, (isPlain_callWith printable).written⟩
    rw [isType]
    rintro _ ⟨⟩
    exact ofType.isCode

theorem isWritten_mutationHook {message : String} (onOneLine : OnOneLine message.toList)
    (printable : endpoint.IsPrintable) : IsWrittenFunction (mutationHook message endpoint) where
  name := printable.hookName
  parameters := List.forall_mem_nil _
  statements := List.forall_mem_singleton.2 trivial
  inBody := by
    have framework : Everywhere IsWritten (.name "useMutation") :=
      (by decide : isWord "useMutation".toList = true)
    have error : IsWrittenBinder (.typed "error" "any") := by
      refine ⟨.word (by decide), ?_⟩
      rintro _ ⟨⟩
      exact .word (by decide)
    have ofError : Everywhere IsWritten (.function [.typed "error" "any"] [.evaluate (.code _)]) :=
      ⟨⟨List.forall_mem_singleton.2 error, List.forall_mem_singleton.2 trivial⟩,
        isCode_notify onOneLine, trivial⟩
    have keys : ∀ function handler : Option Expression,
        ∀ member ∈ [("mutationFn", function), ("onError", handler)],
          OnOneLine member.1.toList := by
      intro function handler
      simp only [List.forall_mem_cons]
      exact ⟨by decide, by decide, List.forall_mem_nil _⟩
    exact ⟨⟨List.forall_mem_nil _, framework, ⟨keys _ _, written_mutationFunction printable,
      ofError, trivial⟩, trivial⟩, trivial⟩

theorem isWritten_hook {message : String} (onOneLine : OnOneLine message.toList)
    (printable : endpoint.IsPrintable) : IsWrittenFunction (hook message endpoint) := by
  rw [hook]
  split
  · exact isWritten_queryHook printable
  · exact isWritten_mutationHook onOneLine printable

/-! ## The file -/

/-- A query hands on its key, and the request function or a call of it with its own arguments. -/
structure ReadsQuery (endpoint : Endpoint) (found : FunctionTrees) : Prop where
  arguments : found.parameters.dropLast.mapM readPair =
    some ((typedArguments endpoint.functionName endpoint.arguments).map
      fun typed => (typed.1, treesOfText typed.2))
  options : ∃ options, readHook found.body = some ("useQuery", options) ∧
    (options.lookup "queryKey").bind (readExpression true false) =
      some (.list (queryKey endpoint)) ∧
    (options.lookup "queryFn").bind (readExpression true false) = some (queryFunction endpoint)

/-- A mutation hands on the request function, or a call of it with the fields of a record. -/
structure ReadsMutation (endpoint : Endpoint) (found : FunctionTrees) : Prop where
  parameters : found.parameters = []
  options : ∃ options function, readHook found.body = some ("useMutation", options) ∧
    options.lookup "mutationFn" = some function ∧
    if endpoint.arguments.length ≤ 1 && endpoint.pathParameters.isEmpty then
      readExpression true false function = some (.name endpoint.functionName)
    else
      readMutation function = some (endpoint.arguments.map Argument.name,
        (typedArguments endpoint.functionName endpoint.arguments).map
          (fun typed => (typed.1, treesOfText typed.2)),
        callWith endpoint.functionName endpoint.arguments)

/-- What is read of the hook of an endpoint. -/
structure ReadsHook (endpoint : Endpoint) (found : FunctionTrees) : Prop where
  name : found.name = endpoint.hookName
  isAsync : found.isAsync = false
  query : endpoint.method.isQuery = true → ReadsQuery endpoint found
  mutation : endpoint.method.isQuery = false → ReadsMutation endpoint found

theorem reads_queryHook (printable : endpoint.IsPrintable) :
    ReadsQuery endpoint (treesOfFunction (queryHook endpoint)) where
  arguments := by
    have ofTyped := written_typedArguments printable
    show ((queryHook endpoint).parameters.map rowOfBinder).dropLast.mapM readPair = _
    rw [queryHook, List.map_append, List.map_singleton, List.dropLast_concat, List.map_map]
    exact mapM_map_of_reads fun typed member =>
      readPair_typed (isWord_of_isVariable (ofTyped typed member).1) typed.2
  options :=
    ⟨[("queryKey", treesOf (.list (queryKey endpoint))),
      ("queryFn", treesOf (queryFunction endpoint)),
      ("enabled", treesOf (.code "options?.enabled ?? true"))], rfl,
      (isPlain_queryKey printable).reads, (isPlain_queryFunction printable).reads⟩

theorem reads_mutationHook (message : String) (printable : endpoint.IsPrintable) :
    ReadsMutation endpoint (treesOfFunction (mutationHook message endpoint)) where
  parameters := rfl
  options := by
    refine ⟨_, treesOf (mutationFunction endpoint), rfl, rfl, ?_⟩
    split
    · rename_i few
      rw [mutationFunction, if_pos few]
      exact (IsPlain.name printable.functionName).reads
    · rename_i several
      exact readMutation_mutationFunction printable several

theorem reads_hook (message : String) (printable : endpoint.IsPrintable) :
    ReadsHook endpoint (treesOfFunction (hook message endpoint)) := by
  cases isQuery : endpoint.method.isQuery with
  | true =>
      have isHook : hook message endpoint = queryHook endpoint := if_pos isQuery
      rw [isHook]
      exact ⟨rfl, rfl, fun _ => reads_queryHook printable,
        fun notQuery => absurd (isQuery.symm.trans notQuery) Bool.noConfusion⟩
  | false =>
      have isHook : hook message endpoint = mutationHook message endpoint :=
        if_neg (by simp [isQuery])
      rw [isHook]
      exact ⟨rfl, rfl, fun ofQuery => absurd (isQuery.symm.trans ofQuery) Bool.noConfusion,
        fun _ => reads_mutationHook message printable⟩

theorem isWritten_hookImports {model : Model}
    (printable : ∀ endpoint ∈ model.endpoints, endpoint.IsPrintable) :
    ∀ taken ∈ hookImports model, IsWrittenImport taken := by
  have ofQuery : Script.literal "@tanstack/react-query" = "\"" ++ "@tanstack/react-query" ++ "\"" ∧
      OnOneLine "@tanstack/react-query".toList := by decide
  have ofToast : Script.literal "sonner" = "\"" ++ "sonner" ++ "\"" ∧
      OnOneLine "sonner".toList := by decide
  refine List.forall_mem_append.2 ⟨List.forall_mem_append.2 ⟨?_, ?_⟩, ?_⟩
  · refine isWrittenImport_unless fun nonempty => ?_
    refine ⟨rfl, List.isEmpty_eq_false_iff.1 nonempty, ?_, ofQuery.1, ofQuery.2⟩
    show ∀ item ∈ (if model.queries.isEmpty then [] else ["useQuery"]) ++
      (if model.mutations.isEmpty then [] else ["useMutation"]), isVariable item.toList = true
    cases model.queries.isEmpty <;> cases model.mutations.isEmpty <;> decide
  · refine isWrittenImport_unless fun _ => ?_
    refine ⟨rfl, List.cons_ne_nil _ _, List.forall_mem_singleton.2 ?_, ofToast.1, ofToast.2⟩
    exact (by decide : isVariable "toast".toList = true)
  · refine isWrittenImport_unless fun nonempty => ?_
    refine ⟨rfl, ?_, List.forall_mem_map.2 fun endpoint isEndpoint =>
      (printable endpoint isEndpoint).functionName, plain_specifier .requests,
      onOneLine_specifier .requests⟩
    rw [ne_eq, List.map_eq_nil_iff]
    exact List.isEmpty_eq_false_iff.1 nonempty

/-- The printed file of hooks is read back as its imports and one function for each endpoint, in
order, which hands on the key of a query, and the request function of the endpoint or a call of it
with all arguments of the endpoint. -/
theorem hooks_file_reads_back {message : String} (onOneLine : OnOneLine message.toList)
    {model : Model} (printable : ∀ endpoint ∈ model.endpoints, endpoint.IsPrintable) :
    ∃ found : List FunctionTrees,
      readFile (hooksFile message model).render =
        some ((hookImports model).map .takes ++ found.map .gives) ∧
      List.Forall₂ ReadsHook model.endpoints found :=
  exists_readFile_each rfl (isLine_of_mem_banner (by decide)) (isWritten_hookImports printable)
    (fun endpoint member => isWritten_hook onOneLine (printable endpoint member))
    fun endpoint member => reads_hook message (printable endpoint member)

/-- The printed files of requests and of hooks of a run are read back. -/
theorem files_of_run_read_back {documents : List LoadedDocument}
    (suggested : ∀ loaded ∈ documents, Source.Suggested loaded.qualifier) {message : String}
    (onOneLine : OnOneLine message.toList)
    (paths : ∀ endpoint ∈ (Model.merge documents).1.endpoints, OnOneLine endpoint.path.toList)
    (shapes : ∀ endpoint ∈ (Model.merge documents).1.endpoints,
      ∀ parameter ∈ endpoint.pathParameters, IsWrittenShape parameter.shape) :
    let model := (Model.merge documents).1
    (∃ found : List FunctionTrees,
      readFile (requestsFile model).render =
        some ((requestImports model).map .takes ++ found.map .gives) ∧
      List.Forall₂ ReadsRequest model.endpoints found) ∧
    ∃ found : List FunctionTrees,
      readFile (hooksFile message model).render =
        some ((hookImports model).map .takes ++ found.map .gives) ∧
      List.Forall₂ ReadsHook model.endpoints found := by
  intro model
  have printable : ∀ endpoint ∈ model.endpoints, endpoint.IsPrintable := fun endpoint member =>
    Model.isPrintable_of_mem_merge suggested member (paths endpoint member) (shapes endpoint member)
  exact ⟨requests_file_reads_back printable, hooks_file_reads_back onOneLine printable⟩

end TypedClient.Client
