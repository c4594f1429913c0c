import TypedClient.Proofs.Endpoint.Declared
import TypedClient.Proofs.Endpoint.Naming

/-!
Contract: of which characters the symbols of components are made.

Owns:
- that all symbols of a document are names that do not start with a small letter, if its qualifier
  is made of the characters of names;
- that what is made from the name of a component can name a type exactly if no digit stands at the
  start of the qualifier, if this is made of the characters of names of types.

Does not own: that symbols are different.
-/

namespace TypedClient

open Script (CanNameType InName InTypeName IsSymbol IsTypeWord NotDigit)

namespace Resolver

variable {resolver : Resolver} {component symbol : String}

theorem toList_baseSymbol (resolver : Resolver) (component : String) :
    (resolver.baseSymbol component).toList =
      Text.capitalized resolver.qualifier.toList ++ (Script.typeIdentifier component).toList := by
  rw [baseSymbol, String.toList_append, String.toList_ofList]

theorem isSymbol_baseSymbol (qualified : InName resolver.qualifier.toList) (component : String) :
    IsSymbol (resolver.baseSymbol component).toList := by
  have ofType := Script.isSymbol_typeIdentifier component
  rw [toList_baseSymbol]
  exact ⟨(Script.inName_capitalized qualified).append ofType.toIsName,
    Script.notLower_capitalized_append qualified ofType.notLower⟩

theorem inTypeName_baseSymbol (qualified : InTypeName resolver.qualifier.toList)
    (component : String) : InTypeName (resolver.baseSymbol component).toList := by
  rw [toList_baseSymbol]
  exact List.forall_mem_append.2 ⟨Script.inTypeName_capitalized qualified,
    (Script.canNameType_typeIdentifier component).inTypeName⟩

/-- The digit at the start of a qualifier is not kept apart. -/
theorem notDigit_baseSymbol_iff (qualified : InName resolver.qualifier.toList)
    (component : String) :
    NotDigit (resolver.baseSymbol component).toList ↔ NotDigit resolver.qualifier.toList := by
  rw [toList_baseSymbol]
  exact Script.notDigit_capitalized_append qualified
    (Script.canNameType_typeIdentifier component).notDigit

/-- What is made from the name of a component, whatever the digits behind it. -/
theorem canNameType_iff_of_withDigits (qualified : InTypeName resolver.qualifier.toList)
    (made : WithDigits (resolver.baseSymbol component) symbol) :
    IsTypeWord symbol.toList ∧
      (CanNameType symbol.toList ↔ NotDigit resolver.qualifier.toList) := by
  have ofBase := isSymbol_baseSymbol qualified.inName component
  have isSymbol := made.isSymbol ofBase
  have isWord : IsTypeWord symbol.toList :=
    ⟨isSymbol.nonempty, made.inTypeName (inTypeName_baseSymbol qualified component),
      Script.isReserved_of_notLower isSymbol.notLower⟩
  rw [← notDigit_baseSymbol_iff qualified.inName component, ← made.notDigit_iff ofBase.nonempty]
  exact ⟨isWord, CanNameType.notDigit, fun notDigit => ⟨isWord, notDigit⟩⟩

end Resolver

namespace Document

variable {document : Document} {qualifier : String} {declaration : Declaration}

@[simp] theorem qualifier_resolved (document : Document) (qualifier : String) :
    (document.resolved qualifier).qualifier = qualifier :=
  (document.completed_extract qualifier).later.qualifier.trans
    (Extraction.taken_afterOperations document qualifier).sameQualifier

/-- The symbols that a document declares are made from the names of its components. -/
theorem withDigits_of_mem_declarations
    (member : declaration ∈ (document.extract qualifier).declarations) :
    ∃ component, WithDigits ((document.resolved qualifier).baseSymbol component)
      declaration.symbol := by
  have declared : declaration.symbol ∈
      (document.extract qualifier).declarations.map Declaration.symbol :=
    List.mem_map_of_mem member
  rw [symbols_declarations_extract] at declared
  obtain ⟨component, waits, isOf⟩ := List.mem_map.1 declared
  have consistent := document.consistent_resolved qualifier
  rw [← isOf]
  exact ⟨component, consistent.withDigits_symbolOf (consistent.named component waits)⟩

/-- The symbols that a document declares are names. -/
theorem isSymbol_of_mem_declarations (qualified : InName qualifier.toList)
    (member : declaration ∈ (document.extract qualifier).declarations) :
    IsSymbol declaration.symbol.toList := by
  obtain ⟨component, made⟩ := withDigits_of_mem_declarations member
  exact made.isSymbol (Resolver.isSymbol_baseSymbol (by simpa using qualified) component)

end Document

end TypedClient
