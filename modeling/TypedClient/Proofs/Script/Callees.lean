import TypedClient.Proofs.TypeText.Spelling
import TypedClient.Script.File

/-!
Contract: the names that generated code calls.

Owns:
- `calledIn`, the names called in code that is taken as it is: what stands right in front of an
  opening parenthesis, up to its first dot;
- `callees`, the names called in an expression, a statement or a function;
- `importedFrom`, the names that a file takes from one other file.

Does not own: which code is generated.
-/

namespace TypedClient.Script

open TypeText (Token)

/-- The name in front of the first dot. -/
def headName (path : String) : String := String.ofList (path.toList.takeWhile (· ≠ '.'))

def calledInTokens : List Token → List String
  | .word path :: .openGroup :: rest => headName path :: calledInTokens rest
  | _ :: rest => calledInTokens rest
  | [] => []

def calledIn (code : String) : List String := ((TypeText.scan code).map calledInTokens).getD []

/-- The name that a call starts with. -/
def calledName : Expression → List String
  | .name name => [name]
  | .member object _ => calledName object
  | _ => []

mutual

def callees : Expression → List String
  | .name _ => []
  | .text _ => []
  | .template parts =>
      parts.flatMap (fun part =>
        match part with
        | .plain _ => []
        | .substitution code => calledIn code)
  | .list items => calleesOfItems items
  | .object _ members => calleesOfMembers members
  | .member object _ => callees object
  | .call function _ arguments =>
      calledName function ++ callees function ++ calleesOfItems arguments
  | .arrow _ result => callees result
  | .function _ body => calleesOfStatements body
  | .await promise => callees promise
  | .code code => calledIn code

def calleesOfItems : List Expression → List String
  | [] => []
  | item :: rest => callees item ++ calleesOfItems rest

def calleesOfMembers : List (String × Option Expression) → List String
  | [] => []
  | (_, none) :: rest => calleesOfMembers rest
  | (_, some value) :: rest => callees value ++ calleesOfMembers rest

def calleesOfStatement : Statement → List String
  | .constant _ value => callees value
  | .return value => callees value
  | .evaluate value => callees value

def calleesOfStatements : List Statement → List String
  | [] => []
  | statement :: rest => calleesOfStatement statement ++ calleesOfStatements rest

end

def Function.callees (function : Function) : List String := calleesOfStatements function.body

/-- The names that a file takes from one other file. -/
def importedFrom (source : String) (imports : List Import) : List String :=
  (imports.filter (fun taken => taken.source = source)).flatMap Import.items

theorem importedFrom_append (source : String) (first second : List Import) :
    importedFrom source (first ++ second) =
      importedFrom source first ++ importedFrom source second := by
  rw [importedFrom, List.filter_append, List.flatMap_append]
  rfl

theorem calleesOfItems_map_name {α : Type} (items : List α) (name : α → String) :
    calleesOfItems (items.map (fun item => .name (name item))) = [] := by
  induction items with
  | nil => rfl
  | cons item rest inductionHypothesis =>
      rw [List.map_cons, calleesOfItems, inductionHypothesis]
      rfl

end TypedClient.Script
