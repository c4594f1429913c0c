import TypedClient.Proofs.Client.BoundTypes
import TypedClient.Proofs.Endpoint.PathIdentifiers
import TypedClient.Proofs.Naming.PathNames
import TypedClient.Proofs.ScriptText.Legible
import TypedClient.Proofs.ScriptText.Types

/-!
Contract: endpoints whose code can be read.

Owns:
- `Endpoint.IsPrintable`, that an endpoint is called by words that can name variables and types, and
  that what its document writes into its code can be scanned;
- that an endpoint of a run is printable if its path is on one line and the types of its path
  parameters are written;
- that its arguments are parameters that can be scanned, in the request function and in the hook,
  and that the files of a client are imported by plain texts.

Does not own: the code itself.
-/

namespace TypedClient

open Script (IsIdentifier OnOneLine)
open ScriptText

structure Endpoint.IsPrintable (endpoint : Endpoint) : Prop where
  functionName : isVariable endpoint.functionName.toList = true
  hookName : isVariable endpoint.hookName.toList = true
  declaredTypes : ∀ name ∈ endpoint.declaredTypes, ScriptText.isTypeName name.toList = true
  identifiers : ∀ parameter ∈ endpoint.pathParameters, isVariable parameter.identifier.toList = true
  camelName : OnOneLine endpoint.camelName.toList
  path : OnOneLine endpoint.path.toList
  shapes : ∀ parameter ∈ endpoint.pathParameters, IsWrittenShape parameter.shape

/-! ## The endpoints of a run -/

theorem ScriptText.isVariable_of_isIdentifier {text : List Char} (valid : IsIdentifier text) :
    isVariable text = true := by
  rw [isVariable, isWord_of_isPlainName valid.isPlain, isKeyword, valid.notReserved]
  rfl

/-- No type operator starts like a symbol does. -/
theorem ScriptText.isTypeName_of_notLower {text : List Char} (valid : IsIdentifier text)
    (notLower : Script.NotLower text) : ScriptText.isTypeName text = true := by
  have small : ∀ word ∈ typeOperators, ¬ Script.NotLower word.toList := by decide
  rw [ScriptText.isTypeName, isVariable_of_isIdentifier valid, Bool.true_and, Bool.not_eq_true',
    Bool.eq_false_iff]
  intro isOperator
  refine small _ (List.contains_iff_mem.1 isOperator) ?_
  rwa [String.toList_ofList]

namespace Model

theorem isPrintable_of_mem_merge {documents : List LoadedDocument}
    (suggested : ∀ loaded ∈ documents, Source.Suggested loaded.qualifier) {endpoint : Endpoint}
    (member : endpoint ∈ (merge documents).1.endpoints) (path : OnOneLine endpoint.path.toList)
    (shapes : ∀ parameter ∈ endpoint.pathParameters, IsWrittenShape parameter.shape) :
    endpoint.IsPrintable := by
  have qualified : ∀ loaded ∈ documents, Script.InName loaded.qualifier.toList :=
    fun loaded isLoaded => (suggested loaded isLoaded).inTypeName.inName
  have names := givesNames_of_mem_merge qualified member
  obtain ⟨types, function, hook⟩ := identifiers_of_mem_merge suggested endpoint member
  constructor
  case functionName => exact isVariable_of_isIdentifier function
  case hookName => exact isVariable_of_isIdentifier hook
  case declaredTypes =>
    intro name declared
    refine isTypeName_of_notLower (types name declared) ?_
    obtain ⟨role, _, rfl⟩ := List.mem_map.1 (endpoint.declaredTypes_sublist.subset declared)
    obtain ⟨rest, written, _⟩ := Client.inName_typeName names
    rw [String.toList_append, written]
    exact Script.notLower_cons.2 rfl
  case identifiers =>
    intro parameter isParameter
    rw [identifier_eq_of_mem_merge member parameter isParameter]
    exact isVariable_of_isIdentifier (Extraction.isIdentifier_pathIdentifier parameter.name)
  case camelName => exact Script.onOneLine_of_inName names.camelName
  case path => exact path
  case shapes => exact shapes

end Model

theorem Client.plain_specifier (kind : Client.ArtifactKind) :
    Script.literal kind.specifier = "\"" ++ kind.specifier ++ "\"" := by
  cases kind <;> decide

theorem Client.onOneLine_specifier (kind : Client.ArtifactKind) :
    OnOneLine kind.specifier.toList := by
  cases kind <;> decide

/-! ## Arguments -/

namespace Endpoint.IsPrintable

variable {endpoint : Endpoint} {argument : Argument}

theorem isVariable_argument (printable : endpoint.IsPrintable)
    (member : argument ∈ endpoint.arguments) : isVariable argument.name.toList = true := by
  rcases Client.mem_arguments_cases member with
    ⟨parameter, isParameter, rfl⟩ | ⟨type, rfl⟩ | ⟨type, rfl⟩
  · exact printable.identifiers parameter isParameter
  · exact (by decide : isVariable "params".toList = true)
  · exact (by decide : isVariable "body".toList = true)

theorem isCode_name (printable : endpoint.IsPrintable) (member : argument ∈ endpoint.arguments) :
    IsCode argument.name :=
  .word (isWord_of_isVariable (printable.isVariable_argument member))

theorem isCode_type (printable : endpoint.IsPrintable) (member : argument ∈ endpoint.arguments) :
    IsCode argument.type := by
  have isType : argument.type ∈ endpoint.arguments.map Argument.type :=
    List.mem_map_of_mem member
  rw [Client.map_type_arguments, List.mem_append] at isType
  rcases isType with inPath | isDeclared
  · obtain ⟨parameter, isParameter, same⟩ := List.mem_map.1 inPath
    rw [← same]
    exact (printable.shapes parameter isParameter).isCode_render 0
  · have declared : argument.type ∈ endpoint.declaredTypes := by
      rw [Endpoint.declaredTypes, List.append_assoc]
      exact List.mem_append_right _ (List.mem_append.2 (List.mem_append.1 isDeclared).symm)
    exact .word (isWord_of_isTypeName (printable.declaredTypes _ declared))

theorem isWrittenBinder_request (printable : endpoint.IsPrintable)
    (member : argument ∈ endpoint.arguments) :
    IsWrittenBinder (.typed argument.name argument.type) where
  name := printable.isCode_name member
  type := by
    rintro type ⟨⟩
    exact printable.isCode_type member

/-- The type that a hook gives to an argument. -/
theorem isCode_argumentType (printable : endpoint.IsPrintable)
    (member : argument ∈ endpoint.arguments) (position : Nat) :
    IsCode (Client.argumentType endpoint.functionName position argument) := by
  have ofFunction := isWord_of_isVariable printable.functionName
  rw [Client.argumentType]
  cases argument.kind with
  | path => exact printable.isCode_type member
  | query => exact isCode_parameter ofFunction position
  | body => exact isCode_parameter ofFunction position

end Endpoint.IsPrintable

end TypedClient
