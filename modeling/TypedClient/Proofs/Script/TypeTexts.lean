import TypedClient.Proofs.TypeText.Names
import TypedClient.Script.File

/-!
Contract: the types that generated code is written with.

Owns:
- `typeTexts`, the types in an expression, a statement or a function: those of parameters, and those
  that calls are given;
- `Function.typeNames?`, the names of types in a function;
- `importedNames`, the names that a file imports.

Does not own: which code is generated. Code that is taken as it is has no types.
-/

namespace TypedClient.Script

/-- The types of some parameters. -/
def parameterTypes (parameters : List Binder) : List String := parameters.filterMap Binder.type

mutual

def typeTexts : Expression → List String
  | .name _ => []
  | .text _ => []
  | .template _ => []
  | .list items => typeTextsOfItems items
  | .object _ members => typeTextsOfMembers members
  | .member object _ => typeTexts object
  | .call function types arguments => typeTexts function ++ types ++ typeTextsOfItems arguments
  | .arrow parameters result => parameterTypes parameters ++ typeTexts result
  | .function parameters body => parameterTypes parameters ++ typeTextsOfStatements body
  | .await promise => typeTexts promise
  | .code _ => []

def typeTextsOfItems : List Expression → List String
  | [] => []
  | item :: rest => typeTexts item ++ typeTextsOfItems rest

def typeTextsOfMembers : List (String × Option Expression) → List String
  | [] => []
  | (_, none) :: rest => typeTextsOfMembers rest
  | (_, some value) :: rest => typeTexts value ++ typeTextsOfMembers rest

def typeTextsOfStatement : Statement → List String
  | .constant _ value => typeTexts value
  | .return value => typeTexts value
  | .evaluate value => typeTexts value

def typeTextsOfStatements : List Statement → List String
  | [] => []
  | statement :: rest => typeTextsOfStatement statement ++ typeTextsOfStatements rest

end

def Function.typeTexts (function : Function) : List String :=
  parameterTypes function.parameters ++ typeTextsOfStatements function.body

/-- The names of types in a function; none if a text that should be a type is no type. -/
def Function.typeNames? (function : Function) : Option (List String) :=
  TypeText.typeNamesOf? function.typeTexts

/-- The names that a file imports. -/
def importedNames (imports : List Import) : List String :=
  imports.flatMap (fun taken => taken.default.toList ++ taken.items)

theorem typeTextsOfItems_map_name {α : Type} (items : List α) (name : α → String) :
    typeTextsOfItems (items.map (fun item => .name (name item))) = [] := by
  induction items with
  | nil => rfl
  | cons item rest inductionHypothesis => exact inductionHypothesis

end TypedClient.Script
