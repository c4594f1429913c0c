import TypedClient.Proofs.Client.TypeNames
import TypedClient.Proofs.Model.Names
import TypedClient.Proofs.Model.TypeSymbols
import TypedClient.Proofs.Naming.CamelCase
import TypedClient.Proofs.Script.ValidIdentifier

/-!
Contract: the names made from paths are identifiers, and stay as they are.

Owns:
- that the name of a path is its own camel-case form, and its own name as a path;
- that the types, the request function and the hook of an endpoint are named by identifiers, under
  every qualifier that an address suggests;
- the same for every endpoint of a run.

Does not own: keeping the names of different endpoints apart.
-/

namespace TypedClient

open Script (IsIdentifier IsName InName IsOpening)

namespace Naming

/-! ## Names that stay -/

/-- A name of letters and digits is the name of the path that it is. -/
theorem ofPath_of_alphanum {name : String} (nonempty : name ≠ "")
    (alphanum : ∀ character ∈ name.toList, character.isAlphanum = true) : ofPath name = name := by
  have missing : ∀ mark : Char, mark.isAlphanum = false → mark ∉ name.toList := by
    intro mark notAlphanum member
    rw [alphanum mark member] at notAlphanum
    cases notAlphanum
  have noSlash : withoutLeadingSlash name.toList = name.toList := by
    unfold withoutLeadingSlash
    split
    · rename_i rest isPath
      exact absurd (isPath ▸ List.mem_cons_self) (missing '/' rfl)
    · rfl
  have onePiece : PathPiece.ofPath name.toList = [.plain name.toList] :=
    PathPiece.ofPath_of_not_mem (missing '{' rfl)
  rw [ofPath, noSlash, onePiece, List.flatMap_singleton, pieceWords, camelCase_of_alphanum alphanum]
  split
  · rename_i isEmpty
    exact absurd (String.toList_eq_nil_iff.1 isEmpty) nonempty
  · exact String.ofList_toList

/-! ## Names that are identifiers -/

variable {camelName : String}

/-- No reserved word goes on from the name of a method. -/
theorem isOpening_key (method : Method) : IsOpening method.key.toList := by
  cases method <;> exact ⟨by decide, by decide⟩

/-- The stem of the types of an endpoint is an identifier, and so is each type. -/
theorem isIdentifier_typeName (method : Method) (isName : IsName camelName.toList) {role : String}
    (isRole : role ∈ "" :: typeRoles) :
    IsIdentifier (typeName method.key camelName ++ role).toList := by
  have opening : IsOpening "I".toList := ⟨by decide, by decide⟩
  have inRole : ∀ role ∈ "" :: typeRoles, InName role.toList := by decide
  have stem := (Script.isName_of_isPlainName (isOpening_key method).isPlain).append
    (isName_capital isName).inName
  rw [typeName, String.toList_append, String.toList_append, String.toList_append, List.append_assoc,
    List.append_assoc, ← List.append_assoc method.key.toList]
  exact opening.append (stem.append (inRole role isRole))

theorem isIdentifier_functionName (method : Method) (isName : IsName camelName.toList) :
    IsIdentifier (functionName method.key camelName).toList := by
  rw [functionName, String.toList_append]
  exact (isOpening_key method).append (isName_capital isName)

theorem isIdentifier_hookName {function : String} (isName : IsName function.toList) :
    IsIdentifier (hookName function).toList := by
  have opening : IsOpening "use".toList := ⟨by decide, by decide⟩
  rw [hookName, String.toList_append]
  exact opening.append (isName_capital isName)

/-- **Names made from paths are identifiers, and stay as they are.** The camel-case form of a text
is what a first pass, which raises the character behind each run of joints, leaves of letters and
digits. The name of any path is not empty, consists of letters and digits, and is its own camel-case
form and its own name as a path. Under every qualifier that an address suggests, the types with
their common stem, the request function and the hook that are named after it have identifiers for
names. -/
theorem path_names_are_identifiers :
    (∀ text : List Char, camelCase text = (raised text).filter Char.isAlphanum) ∧
    (∀ path : String,
      let name := ofPath path
      name ≠ "" ∧ name.toList.all Char.isAlphanum = true ∧
        camelCase name.toList = name.toList ∧ ofPath name = name) ∧
    ∀ (address path : String) (method : Method),
      let camelName := qualify (Source.qualifierOf address) (ofPath path)
      (∀ role ∈ "" :: typeRoles, IsIdentifier (typeName method.key camelName ++ role).toList) ∧
        IsIdentifier (functionName method.key camelName).toList ∧
        IsIdentifier (hookName (functionName method.key camelName)).toList := by
  refine ⟨camelCase_eq_filter_raised, fun path => ?_, fun address path method => ?_⟩
  · have alphanum := isAlphanum_of_mem_ofPath path
    have nonempty := ofPath_ne_empty path
    exact ⟨nonempty, List.all_eq_true.2 alphanum, camelCase_of_alphanum alphanum,
      ofPath_of_alphanum nonempty alphanum⟩
  · have isName := isName_qualify_ofPath (inTypeName_qualifierOf address).inName path
    have function := isIdentifier_functionName method isName
    exact ⟨fun role isRole => isIdentifier_typeName method isName isRole, function,
      isIdentifier_hookName function.isName⟩

end Naming

/-! ## The names of a run -/

namespace Model

/-- The types, the request function and the hook of every endpoint of a run have identifiers for
names, numbers behind names that were taken included. -/
theorem identifiers_of_mem_merge {documents : List LoadedDocument}
    (suggested : ∀ loaded ∈ documents, Source.Suggested loaded.qualifier) :
    ∀ endpoint ∈ (merge documents).1.endpoints,
      (∀ name ∈ endpoint.declaredTypes, IsIdentifier name.toList) ∧
        IsIdentifier endpoint.functionName.toList ∧ IsIdentifier endpoint.hookName.toList := by
  obtain ⟨shares, rfl, merged⟩ := merged_merge documents
  intro endpoint member
  obtain ⟨source, isSource, names, placed⟩ := merged.placed.exists_extracted member
  obtain ⟨share, isShare, isExtracted⟩ := List.mem_flatMap.1 isSource
  have qualified := (suggested share.loaded (List.mem_map_of_mem isShare)).inTypeName.inName
  have isName := placed.withDigits_camelName.isName
    (Share.isName_camelName_extracted qualified isExtracted)
  have function := Naming.isIdentifier_functionName endpoint.method isName
  have derived : endpoint.typeName = Naming.typeName endpoint.method.key endpoint.camelName :=
    merged.derived endpoint member
  refine ⟨fun name declared => ?_, function, Naming.isIdentifier_hookName function.isName⟩
  obtain ⟨role, isRole, rfl⟩ := List.mem_map.1 (endpoint.declaredTypes_sublist.subset declared)
  rw [derived]
  exact Naming.isIdentifier_typeName endpoint.method isName (List.mem_cons_of_mem _ isRole)

end Model

end TypedClient
