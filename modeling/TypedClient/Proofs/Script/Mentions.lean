import TypedClient.Proofs.Script.Callees

/-!
Contract: the variables that generated code mentions.

Owns:
- `mentionedIn`, the variables in code that is taken as it is: its words, up to their first dots;
- `mentions`, the variables in an expression or a statement, those that it declares included.

Does not own: parameters, and which code is generated.
-/

namespace TypedClient.Script

open TypeText (Token)

/-- The variable that a token names; a property behind a dot is none. -/
def mentionedBy? : Token → Option String
  | .word path => if (headName path).isEmpty then none else some (headName path)
  | _ => none

def mentionedIn (code : String) : List String :=
  ((TypeText.scan code).getD []).filterMap mentionedBy?

/-- The code that a part of a template puts in. -/
def substituted : TemplatePart → List String
  | .plain _ => []
  | .substitution code => [code]

mutual

@[simp] def mentions : Expression → List String
  | .name name => [name]
  | .text _ => []
  | .template parts => parts.flatMap substituted
  | .list items => mentionsOfItems items
  | .object _ members => mentionsOfMembers members
  | .member object _ => mentions object
  | .call function _ arguments => mentions function ++ mentionsOfItems arguments
  | .arrow _ result => mentions result
  | .function _ body => mentionsOfStatements body
  | .await promise => mentions promise
  | .code code => mentionedIn code

@[simp] def mentionsOfItems : List Expression → List String
  | [] => []
  | item :: rest => mentions item ++ mentionsOfItems rest

@[simp] def mentionsOfMembers : List (String × Option Expression) → List String
  | [] => []
  | (name, none) :: rest => name :: mentionsOfMembers rest
  | (_, some value) :: rest => mentions value ++ mentionsOfMembers rest

@[simp] def mentionsOfStatement : Statement → List String
  | .constant name value => name :: mentions value
  | .return value => mentions value
  | .evaluate value => mentions value

@[simp] def mentionsOfStatements : List Statement → List String
  | [] => []
  | statement :: rest => mentionsOfStatement statement ++ mentionsOfStatements rest

end

theorem mentionsOfItems_map_name {α : Type} (items : List α) (name : α → String) :
    mentionsOfItems (items.map (fun item => .name (name item))) = items.map name := by
  induction items with
  | nil => rfl
  | cons item rest inductionHypothesis =>
      rw [List.map_cons, mentionsOfItems, inductionHypothesis]
      rfl

end TypedClient.Script
