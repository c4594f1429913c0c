import TypedClient.Proofs.ScriptText.Written

/-!
Contract: reading expressions.

Owns:
- `cooked`, a text of a template with line feeds for all ends of lines;
- `readExpression`, the expression that a row of trees is by the grammar: members and calls bind
  tighter than `await`, an arrow takes everything behind it, nothing is waited for inside of an
  arrow, and braces directly behind an arrow or at the start of a statement are no object;
- `read`, the same for a text.

Does not own: which texts are read back. Objects are read without their layout. Of all statements
there are constants, returns and expressions, and names of types are the only types. What is said of
code beyond its grammar is left out, such as that no name may be bound twice, and that strict code
binds neither `eval` nor `arguments`.
-/

namespace TypedClient.ScriptText

open Script (Binder Expression Statement TemplatePart)

/-! ## Templates -/

/-- A text of a template as it is read: a carriage return, with the line feed behind it if there is
one, stands for a line feed. -/
def cooked : List Char → List Char
  | '\r' :: '\n' :: rest => '\n' :: cooked rest
  | '\r' :: rest => '\n' :: cooked rest
  | character :: rest => character :: cooked rest
  | [] => []

/-- The parts of a template with these segments. -/
def readParts (filled : List (List Char × String)) (last : List Char) : List TemplatePart :=
  partsOf (filled.map (fun (text, code) => (cooked text, code))) (cooked last)

/-- Only names are substituted. -/
def substitutesNames (parts : List TemplatePart) : Bool :=
  parts.all (fun
    | .plain _ => true
    | .substitution code => isVariable code.toList)

/-! ## Parameters and types -/

/-- A parameter: a name, perhaps a question mark, and perhaps a type. -/
def readBinder : Row → Option Binder
  | [.token (.word name)] => some ⟨name, none, false⟩
  | [.token (.word name), .token .question] => some ⟨name, none, true⟩
  | [.token (.word name), .token .colon, .token (.word type)] => some ⟨name, some type, false⟩
  | [.token (.word name), .token .question, .token .colon, .token (.word type)] =>
      some ⟨name, some type, true⟩
  | _ => none

/-- A parameter whose name a variable can have, and whose type is a name, too. -/
def isNamedBinder (parameter : Binder) : Bool :=
  isVariable parameter.name.toList && parameter.type.all (fun type => isTypeName type.toList)

def readBinders (rows : List Row) : Option (List Binder) :=
  rows.mapM (fun row => (readBinder row).filter isNamedBinder)

def readType : Row → Option String
  | [.token (.word name)] => if isTypeName name.toList then some name else none
  | _ => none

/-- The types in angle brackets, of which there is one at least. -/
def readTypes (rows : List Row) : Option (List String) :=
  if rows.isEmpty then none else rows.mapM readType

/-! ## The grammar -/

mutual

/-- The expression that some trees are. A function may only stand where nothing binds tighter, and
something may only be waited for outside of all arrows, none of which is asynchronous. -/
def readExpression (functions waits : Bool) : List Tree → Option Expression
  | .group .round parameters :: .token .arrow :: .group .block body :: behind =>
      if functions && behind.isEmpty then
        (readBinders parameters).bind (fun parameters =>
          (readStatements false body).map (.function parameters))
      else none
  | .group .round parameters :: .token .arrow :: .group .brace body :: behind =>
      if functions && behind.isEmpty && body.isEmpty then
        (readBinders parameters).map (.function · [])
      else none
  | .group .round parameters :: .token .arrow :: rest =>
      if functions then
        (readBinders parameters).bind (fun parameters =>
          (readExpression true false rest).map (.arrow parameters))
      else none
  | .token (.word "await") :: rest =>
      if waits then (readExpression false true rest).map .await else none
  | tree :: rest => (readOperand waits tree).bind (fun operand => readPostfix waits operand rest)
  | [] => none
  termination_by structural x => x

/-- What a member may be taken of and what may be called. -/
def readOperand (waits : Bool) : Tree → Option Expression
  | .token (.word word) => if isVariable word.toList then some (.name word) else none
  | .token (.quoted value) => some (.text value)
  | .token (.template filled last) =>
      if substitutesNames (readParts filled last) then some (.template (readParts filled last))
      else none
  | .group .round [row] => readExpression true waits row
  | .group .square rows => (readItems waits rows).map .list
  | .group .brace rows => (readMembers waits rows).map (.object .inline)
  | _ => none
  termination_by structural x => x

/-- The members and the calls behind an operand. -/
def readPostfix (waits : Bool) (operand : Expression) : List Tree → Option Expression
  | [] => some operand
  | .token .dot :: .token (.word name) :: rest => readPostfix waits (.member operand name) rest
  | .group .angle types :: .group .round rows :: rest =>
      (readTypes types).bind (fun types =>
        (readItems waits rows).bind (fun arguments =>
          readPostfix waits (.call operand types arguments) rest))
  | .group .round rows :: rest =>
      (readItems waits rows).bind (fun arguments =>
        readPostfix waits (.call operand [] arguments) rest)
  | _ => none
  termination_by structural x => x

def readItems (waits : Bool) : List (List Tree) → Option (List Expression)
  | [] => some []
  | row :: rest =>
      (readExpression true waits row).bind (fun item => (readItems waits rest).map (item :: ·))
  termination_by structural x => x

def readMembers (waits : Bool) : List (List Tree) → Option (List (String × Option Expression))
  | [] => some []
  | [.token (.word name)] :: rest =>
      if isVariable name.toList then (readMembers waits rest).map ((name, none) :: ·) else none
  | (.token (.word name) :: .token .colon :: value) :: rest =>
      (readExpression true waits value).bind (fun value =>
        (readMembers waits rest).map ((name, some value) :: ·))
  | (.token (.quoted name) :: .token .colon :: value) :: rest =>
      (readExpression true waits value).bind (fun value =>
        (readMembers waits rest).map ((name, some value) :: ·))
  | _ => none
  termination_by structural x => x

/-- The statements of a function. One that starts with a brace is no expression. -/
def readStatements (waits : Bool) : List (List Tree) → Option (List Statement)
  | [] => some []
  | (.token (.word "const") :: .token (.word name) :: .token .equals :: value) :: rest =>
      if isVariable name.toList then
        (readExpression true waits value).bind (fun value =>
          (readStatements waits rest).map (.constant name value :: ·))
      else none
  | (.token (.word "return") :: value) :: rest =>
      (readExpression true waits value).bind (fun value =>
        (readStatements waits rest).map (.return value :: ·))
  | (.group .brace _ :: _) :: _ => none
  | value :: rest =>
      (readExpression true waits value).bind (fun value =>
        (readStatements waits rest).map (.evaluate value :: ·))
  termination_by structural x => x

end

/-- The expression that a text is, outside of all functions. -/
def read (text : String) : Option Expression :=
  (readTrees text).bind (readExpression true true)

/-! ## Ends of lines -/

theorem not_mem_cooked (text : List Char) : '\r' ∉ cooked text := by
  fun_induction cooked text with
  | case1 rest inductionHypothesis => simpa using inductionHypothesis
  | case2 rest _ inductionHypothesis => simpa using inductionHypothesis
  | case3 character rest _ other inductionHypothesis =>
      rw [List.mem_cons, not_or]
      exact ⟨fun isReturn => other isReturn.symm, inductionHypothesis⟩
  | case4 => exact List.not_mem_nil

/-- A text without a carriage return is read as it stands. -/
theorem cooked_of_not_mem {text : List Char} (noReturn : '\r' ∉ text) : cooked text = text := by
  induction text with
  | nil => rfl
  | cons character rest inductionHypothesis =>
      rw [List.mem_cons, not_or] at noReturn
      have other : character ≠ '\r' := fun same => noReturn.1 same.symm
      rw [cooked, inductionHypothesis noReturn.2]
      · exact fun _ isReturn _ => other isReturn
      · exact other

end TypedClient.ScriptText
