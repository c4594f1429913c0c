import TypedClient.Proofs.ScriptText.Reading

/-!
Contract: the expressions that are read back from their trees.

Owns:
- `IsNamed`, that all names are names and that no code is taken as it is; `IsTidy`, that the texts
  of templates can be told apart and are read as they stand;
- `foundation`, the expression at the left end of members and calls;
- `IsLegible`, that nothing stands where the grammar reads something else: no `await` and no
  function in front of a member or a call, no function behind `await`, no `await` inside of a
  function, no brace at the start of the result of an arrow or of a statement, and no quoted key
  without a value;
- `unstyled`, an expression without the layout of its objects;
- that an expression is read back from its trees, up to the layout, exactly if all of it is legible.

Does not own: texts.
-/

namespace TypedClient.ScriptText

open Script (Binder Expression Statement TemplatePart)

/-! ## Names -/

/-- The name and the type of a parameter are names. -/
structure IsNamedBinder (parameter : Binder) : Prop where
  name : isVariable parameter.name.toList = true
  type : ∀ type ∈ parameter.type, isTypeName type.toList = true

/-- A key is on one line; one without a value names a variable. -/
def IsNamedMember : String × Option Expression → Prop
  | (name, none) => isVariable name.toList = true
  | (name, some _) => Script.OnOneLine name.toList

/-- A constant has a name that a variable can have. -/
def IsNamedStatement : Statement → Prop
  | .constant name _ => isVariable name.toList = true
  | .return _ => True
  | .evaluate _ => True

/-- All names that an expression holds itself are names, its literals are on one line, and it is not
code that is taken as it is. -/
def IsNamed : Expression → Prop
  | .name name => isVariable name.toList = true
  | .text value => Script.OnOneLine value.toList
  | .template parts => substitutesNames parts = true
  | .list _ => True
  | .object _ members => ∀ member ∈ members, IsNamedMember member
  | .member _ property => isWord property.toList = true
  | .call _ types _ => ∀ type ∈ types, isTypeName type.toList = true
  | .arrow parameters _ => ∀ parameter ∈ parameters, IsNamedBinder parameter
  | .function parameters body =>
      (∀ parameter ∈ parameters, IsNamedBinder parameter) ∧
        ∀ statement ∈ body, IsNamedStatement statement
  | .await _ => True
  | .code _ => False

/-- The texts of a template are not empty, no two of them stand side by side, and none holds a
carriage return. -/
def IsTidy : Expression → Prop
  | .template parts =>
      Script.Tidy parts ∧ ∀ text, .plain text ∈ parts → '\r' ∉ text.toList
  | _ => True

/-! ## Legible expressions -/

/-- The expression at the left end, of which members are taken and which is called. -/
def foundation : Expression → Expression
  | .member object _ => foundation object
  | .call function _ _ => foundation function
  | expression => expression

/-- Members and calls bind tighter than anything in an expression. -/
def isOperand (expression : Expression) : Bool :=
  match foundation expression with
  | .await _ => false
  | .arrow _ _ => false
  | .function _ _ => false
  | _ => true

def opensBrace (expression : Expression) : Bool :=
  match foundation expression with
  | .object _ _ => true
  | _ => false

/-- Anything but a function may be waited for. -/
def isUnary : Expression → Bool
  | .arrow _ _ => false
  | .function _ _ => false
  | _ => true

def IsLegibleMember : String × Option Expression → Prop
  | (name, none) => Script.isPlainName name.toList = true
  | (_, some _) => True

def IsLegibleStatement : Statement → Prop
  | .constant _ _ => True
  | .return _ => True
  | .evaluate value => opensBrace value = false

/-- Nothing is waited for here. -/
def IsAwaitFree : Expression → Prop
  | .await _ => False
  | .name _ | .text _ | .template _ | .list _ | .object _ _ | .member _ _ | .call _ _ _
  | .arrow _ _ | .function _ _ | .code _ => True

/-- The grammar reads the parts of an expression for what they are. -/
def IsLegible : Expression → Prop
  | .member object _ => isOperand object = true
  | .call function _ _ => isOperand function = true
  | .await promise => isUnary promise = true
  | .arrow _ result => opensBrace result = false ∧ Everywhere IsAwaitFree result
  | .function _ body =>
      (∀ statement ∈ body, IsLegibleStatement statement) ∧
        EverywhereInStatements IsAwaitFree body
  | .object _ members => ∀ member ∈ members, IsLegibleMember member
  | _ => True

mutual

/-- An expression with all its objects on one line. -/
def unstyled : Expression → Expression
  | .name name => .name name
  | .text value => .text value
  | .template parts => .template parts
  | .list items => .list (unstyledItems items)
  | .object _ members => .object .inline (unstyledMembers members)
  | .member object property => .member (unstyled object) property
  | .call function types arguments => .call (unstyled function) types (unstyledItems arguments)
  | .arrow parameters result => .arrow parameters (unstyled result)
  | .function parameters body => .function parameters (unstyledStatements body)
  | .await promise => .await (unstyled promise)
  | .code code => .code code

def unstyledItems : List Expression → List Expression
  | [] => []
  | item :: rest => unstyled item :: unstyledItems rest

def unstyledMembers : List (String × Option Expression) → List (String × Option Expression)
  | [] => []
  | (name, none) :: rest => (name, none) :: unstyledMembers rest
  | (name, some value) :: rest => (name, some (unstyled value)) :: unstyledMembers rest

def unstyledStatement : Statement → Statement
  | .constant name value => .constant name (unstyled value)
  | .return value => .return (unstyled value)
  | .evaluate value => .evaluate (unstyled value)

def unstyledStatements : List Statement → List Statement
  | [] => []
  | statement :: rest => unstyledStatement statement :: unstyledStatements rest

end

/-! ## Words -/

theorem isWord_of_isVariable {name : List Char} (isVariable : isVariable name = true) :
    isWord name = true :=
  (Bool.and_eq_true_iff.1 isVariable).1

theorem isWord_of_isTypeName {name : List Char} (isTypeName : isTypeName name = true) :
    isWord name = true :=
  isWord_of_isVariable (Bool.and_eq_true_iff.1 isTypeName).1

theorem isWordPart_of_isWord {word : List Char} (isWord : isWord word = true) :
    ∀ character ∈ word, isWordPart character = true := by
  cases word with
  | nil => exact fun _ member => absurd member List.not_mem_nil
  | cons first rest =>
      rw [ScriptText.isWord, Bool.and_eq_true, List.all_eq_true] at isWord
      rw [List.forall_mem_cons]
      refine ⟨?_, isWord.2⟩
      have starts := isWord.1
      rw [isWordStart, Bool.or_eq_true] at starts
      rw [isWordPart, Bool.or_eq_true]
      exact starts.imp_left Script.isNamePart_of_isNameStart

/-- No word holds the end of a line. -/
theorem onOneLine_of_isWord {word : List Char} (isWord : isWord word = true) :
    Script.OnOneLine word := by
  intro character member
  have isPart := isWordPart_of_isWord isWord character member
  rw [Script.LiteralMode.isLineEnd, Bool.or_eq_false_iff, decide_eq_false_iff_not,
    decide_eq_false_iff_not]
  constructor <;> rintro rfl <;> exact absurd isPart (by decide)

/-! ## Parameters and types -/

theorem rowOfBinder_of_named {parameter : Binder} (named : IsNamedBinder parameter) :
    rowOfBinder parameter = .token (.word parameter.name) ::
      ((if parameter.isOptional then [.token .question] else []) ++
        match parameter.type with
        | some type => [.token .colon, .token (.word type)]
        | none => []) := by
  rw [rowOfBinder, treesOfText_word (isWord_of_isVariable named.name)]
  cases isType : parameter.type with
  | none => rfl
  | some type =>
      have ofType := treesOfText_word (isWord_of_isTypeName (named.type type isType))
      simp only [ofType, List.singleton_append]

theorem mapM_map_of_reads {α β γ : Type} {items : List α} {write : α → β} {read : β → Option γ}
    {found : α → γ} (reads : ∀ item ∈ items, read (write item) = some (found item)) :
    (items.map write).mapM read = some (items.map found) := by
  induction items with
  | nil => rfl
  | cons item rest inductionHypothesis =>
      rw [List.forall_mem_cons] at reads
      rw [List.map_cons, List.mapM_cons, reads.1, inductionHypothesis reads.2]
      rfl

theorem mapM_map_of_inverse {α β : Type} {items : List α} {write : α → β} {read : β → Option α}
    (inverse : ∀ item ∈ items, read (write item) = some item) :
    (items.map write).mapM read = some items :=
  (mapM_map_of_reads inverse).trans (congrArg some (List.map_id' items))

theorem readBinders_map {parameters : List Binder}
    (named : ∀ parameter ∈ parameters, IsNamedBinder parameter) :
    readBinders (parameters.map rowOfBinder) = some parameters := by
  refine mapM_map_of_inverse fun parameter member => ?_
  have ofParameter := named parameter member
  have isNamed : isNamedBinder parameter = true := by
    rw [isNamedBinder, ofParameter.name, Bool.true_and, Option.all_eq_true]
    exact ofParameter.type
  have found : readBinder (rowOfBinder parameter) = some parameter := by
    rw [rowOfBinder_of_named ofParameter]
    obtain ⟨name, type, isOptional⟩ := parameter
    cases type <;> cases isOptional <;> rfl
  rw [found, Option.filter_some, isNamed]
  rfl

theorem readTypes_map {types : List String} (nonempty : types ≠ [])
    (named : ∀ type ∈ types, isTypeName type.toList = true) :
    readTypes (types.map rowOfType) = some types := by
  rw [readTypes, if_neg (by simpa using nonempty)]
  exact mapM_map_of_inverse fun type member => if_pos (named type member)

/-! ## The left end of an expression -/

/-- What the first tree of an expression shows. -/
structure Leads (withBrace : Bool) (first : Tree) : Prop where
  brace : (∃ rows, first = .group .brace rows) ↔ withBrace = true
  notBlock : ∀ rows, first ≠ .group .block rows
  notConst : first ≠ .token (.word "const")
  notReturn : first ≠ .token (.word "return")

theorem ne_of_isVariable {name word : String} (isVariable : isVariable name.toList = true)
    (keyword : isKeyword word.toList = true) : name ≠ word := by
  rintro rfl
  rw [ScriptText.isVariable, keyword, Bool.not_true, Bool.and_false] at isVariable
  cases isVariable

theorem head_treesOf : ∀ (expression : Expression), Everywhere IsNamed expression →
    ∃ first rest, treesOf expression = first :: rest ∧ Leads (opensBrace expression) first
  | .member object _, named => by
      obtain ⟨first, rest, trees, leads⟩ := head_treesOf object named.2
      rw [treesOf, trees]
      exact ⟨first, _, rfl, leads⟩
  | .call function _ _, named => by
      obtain ⟨first, rest, trees, leads⟩ := head_treesOf function named.2.1
      rw [treesOf, trees]
      exact ⟨first, _, rfl, leads⟩
  | .name name, named => by
      have notConst : name ≠ "const" := ne_of_isVariable named (by decide)
      have notReturn : name ≠ "return" := ne_of_isVariable named (by decide)
      exact ⟨_, [], rfl, by simp [opensBrace, foundation], by simp, by simp [notConst],
        by simp [notReturn]⟩
  | .text _, _ | .template _, _ | .list _, _ | .object _ _, _ | .arrow _ _, _ | .function _ _, _
  | .await _, _ =>
      ⟨_, _, rfl, by simp [opensBrace, foundation], by simp, by simp [templateToken],
        by simp [templateToken]⟩
  | .code _, named => False.elim named

theorem bind_readPostfix_nil (waits : Bool) (operand? : Option Expression) :
    operand?.bind (readPostfix waits · []) = operand? := by
  cases operand? <;> rfl

/-- A tree that is neither in parentheses nor a keyword is an operand. -/
theorem readExpression_cons {tree : Tree} (notRound : ∀ rows, tree ≠ .group .round rows)
    (notAwait : tree ≠ .token (.word "await")) (functions waits : Bool) (behind : Row) :
    readExpression functions waits (tree :: behind) =
      (readOperand waits tree).bind (readPostfix waits · behind) := by
  rw [readExpression]
  · exact fun rows _ _ isRound => absurd isRound (notRound rows)
  · exact fun rows _ _ isRound => absurd isRound (notRound rows)
  · exact fun rows _ isRound => absurd isRound (notRound rows)
  · exact notAwait

theorem readExpression_singleton {tree : Tree} (notRound : ∀ rows, tree ≠ .group .round rows)
    (notAwait : tree ≠ .token (.word "await")) (functions waits : Bool) :
    readExpression functions waits [tree] = readOperand waits tree := by
  rw [readExpression_cons notRound notAwait, bind_readPostfix_nil]

/-- Members and calls go on behind some trees. -/
def GoesOn (trees : Row) : Prop :=
  ∀ (functions waits : Bool) (behind : Row), readExpression functions waits (trees ++ behind) =
    (readExpression functions waits trees).bind (readPostfix waits · behind)

theorem GoesOn.singleton {tree : Tree} (notRound : ∀ rows, tree ≠ .group .round rows)
    (notAwait : tree ≠ .token (.word "await")) : GoesOn [tree] := by
  intro functions waits behind
  rw [readExpression_singleton notRound notAwait]
  exact readExpression_cons notRound notAwait functions waits behind

/-- Where something is read as an operand, its members and calls go on. -/
theorem GoesOn.append {trees more : Row} {extend : Bool → Expression → Option Expression}
    (goesOn : GoesOn trees)
    (extends_ : ∀ waits operand behind, readPostfix waits operand (more ++ behind) =
      (extend waits operand).bind (readPostfix waits · behind)) :
    GoesOn (trees ++ more) ∧ ∀ functions waits, readExpression functions waits (trees ++ more) =
      (readExpression functions waits trees).bind (extend waits) := by
  have found : ∀ functions waits, readExpression functions waits (trees ++ more) =
      (readExpression functions waits trees).bind (extend waits) := by
    intro functions waits
    rw [goesOn]
    congr 1
    funext operand
    have whole := extends_ waits operand []
    rw [List.append_nil] at whole
    rw [whole, bind_readPostfix_nil]
  refine ⟨fun functions waits behind => ?_, found⟩
  rw [List.append_assoc, goesOn, found, Option.bind_assoc]
  simp only [extends_]

theorem readPostfix_member (property : String) (waits : Bool) (operand : Expression)
    (behind : Row) :
    readPostfix waits operand ([.token .dot, .token (.word property)] ++ behind) =
      (some (.member operand property)).bind (readPostfix waits · behind) := rfl

theorem readPostfix_call {types : List String}
    (named : ∀ type ∈ types, isTypeName type.toList = true) (rows : List Row) (waits : Bool)
    (operand : Expression) (behind : Row) :
    readPostfix waits operand (treesOfTypes types ++ [.group .round rows] ++ behind) =
      ((readItems waits rows).map (.call operand types)).bind (readPostfix waits · behind) := by
  cases types with
  | nil =>
      show readPostfix waits operand (.group .round rows :: behind) = _
      rw [readPostfix]
      cases readItems waits rows <;> rfl
  | cons type rest =>
      have ofTypes := readTypes_map (List.cons_ne_nil type rest) named
      show readPostfix waits operand
        (.group .angle ((type :: rest).map rowOfType) :: .group .round rows :: behind) = _
      rw [readPostfix, ofTypes]
      cases readItems waits rows <;> rfl

theorem goesOn_treesOf : ∀ (expression : Expression), isOperand expression = true →
    Everywhere IsNamed expression → GoesOn (treesOf expression)
  | .member object property, operand, named =>
      ((goesOn_treesOf object operand named.2).append (readPostfix_member property)).1
  | .call function types arguments, operand, named =>
      ((goesOn_treesOf function operand named.2.1).append
        (readPostfix_call named.1 (rowsOfItems arguments))).1
  | .name name, _, named => by
      have notAwait : name ≠ "await" := ne_of_isVariable named (by decide)
      exact .singleton (by simp) (by simp [notAwait])
  | .text _, _, _ | .template _, _, _ | .list _, _, _ | .object _ _, _, _ =>
      .singleton (by simp) (by simp [templateToken])
  | .code _, _, named => False.elim named

/-- Where no operand stands in front, a keyword or the parameters of a function do. -/
theorem treesOf_of_not_operand : ∀ (expression : Expression), isOperand expression = false →
    (∃ rest, treesOf expression = .token (.word "await") :: rest) ∨
      ∃ parameters rest, treesOf expression = .group .round parameters :: .token .arrow :: rest
  | .member object property, notOperand => by
      rw [treesOf]
      obtain ⟨rest, trees⟩ | ⟨parameters, rest, trees⟩ := treesOf_of_not_operand object notOperand
      · exact .inl ⟨_, by rw [trees, List.cons_append]⟩
      · exact .inr ⟨_, _, by rw [trees, List.cons_append, List.cons_append]⟩
  | .call function types arguments, notOperand => by
      rw [treesOf]
      obtain ⟨rest, trees⟩ | ⟨parameters, rest, trees⟩ := treesOf_of_not_operand function notOperand
      · exact .inl ⟨_, by rw [trees, List.cons_append]⟩
      · exact .inr ⟨_, _, by rw [trees, List.cons_append, List.cons_append]⟩
  | .await _, _ => .inl ⟨_, rfl⟩
  | .arrow _ _, _ => .inr ⟨_, _, rfl⟩
  | .function _ _, _ => .inr ⟨_, _, rfl⟩
  | .name _, notOperand | .text _, notOperand | .template _, notOperand | .list _, notOperand
  | .object _ _, notOperand | .code _, notOperand => nomatch notOperand

/-- Behind parameters and an arrow, there is a function. -/
theorem function_of_read {parameters : List Row} {rest : Row} {functions waits : Bool}
    {found : Expression}
    (isRead : readExpression functions waits (.group .round parameters :: .token .arrow :: rest) =
      some found) :
    functions = true ∧ ((∃ binders body, found = .function binders body) ∨
      ∃ binders result, found = .arrow binders result) := by
  -- The reader tells the two kinds of braces and all other results apart, whatever the rest is.
  rw [readExpression.eq_def] at isRead
  split at isRead
  case h_1 =>
    obtain ⟨allowed, isRead⟩ := Option.ite_none_right_eq_some.1 isRead
    obtain ⟨binders, -, isRead⟩ := Option.bind_eq_some_iff.1 isRead
    obtain ⟨body, -, rfl⟩ := Option.map_eq_some_iff.1 isRead
    exact ⟨(Bool.and_eq_true_iff.1 allowed).1, .inl ⟨binders, body, rfl⟩⟩
  case h_2 =>
    obtain ⟨allowed, isRead⟩ := Option.ite_none_right_eq_some.1 isRead
    obtain ⟨binders, -, rfl⟩ := Option.map_eq_some_iff.1 isRead
    rw [Bool.and_eq_true, Bool.and_eq_true] at allowed
    exact ⟨allowed.1.1, .inl ⟨binders, [], rfl⟩⟩
  case h_3 =>
    obtain ⟨allowed, isRead⟩ := Option.ite_none_right_eq_some.1 isRead
    obtain ⟨binders, -, isRead⟩ := Option.bind_eq_some_iff.1 isRead
    obtain ⟨result, -, rfl⟩ := Option.map_eq_some_iff.1 isRead
    exact ⟨allowed, .inr ⟨binders, result, rfl⟩⟩
  case h_4 isAwait => cases isAwait
  case h_5 notFunction _ same =>
    obtain ⟨isRound, isArrow⟩ := List.cons.inj same
    exact absurd isArrow.symm (notFunction _ _ isRound.symm)
  case h_6 isEmpty => cases isEmpty

/-- What is read where no operand stands in front is no member and no call. -/
theorem ne_of_not_operand {expression found : Expression} {functions waits : Bool}
    (notOperand : isOperand expression = false)
    (isRead : readExpression functions waits (treesOf expression) = some found) :
    (∀ object property, found ≠ .member object property) ∧
      ∀ function types arguments, found ≠ .call function types arguments := by
  obtain ⟨rest, trees⟩ | ⟨parameters, rest, trees⟩ := treesOf_of_not_operand expression notOperand
  · rw [trees, readExpression] at isRead
    obtain ⟨-, isRead⟩ := Option.ite_none_right_eq_some.1 isRead
    obtain ⟨promise, -, rfl⟩ := Option.map_eq_some_iff.1 isRead
    exact ⟨nofun, nofun⟩
  · rw [trees] at isRead
    obtain ⟨-, ⟨binders, body, rfl⟩ | ⟨binders, result, rfl⟩⟩ := function_of_read isRead
    · exact ⟨nofun, nofun⟩
    · exact ⟨nofun, nofun⟩

theorem isUnary_of_isOperand {expression : Expression} (operand : isOperand expression = true) :
    isUnary expression = true := by
  cases expression <;> first | rfl | cases operand

/-! ## Exactly the legible expressions are read back -/

section Readers

variable {functions waits : Bool}

theorem read_member_iff {object : Expression} {property : String}
    (named : Everywhere IsNamed object) :
    readExpression functions waits (treesOf (.member object property)) =
        some (.member (unstyled object) property) ↔
      isOperand object = true ∧
        readExpression functions waits (treesOf object) = some (unstyled object) := by
  cases operand : isOperand object with
  | false =>
      refine ⟨fun isRead => ?_, fun both => nomatch both.1⟩
      have notOperand : isOperand (.member object property) = false := operand
      exact absurd rfl ((ne_of_not_operand notOperand isRead).1 _ _)
  | true =>
      have extended := ((goesOn_treesOf object operand named).append
        (readPostfix_member property)).2 functions waits
      rw [treesOf, extended, Option.bind_eq_some_iff]
      simp

theorem read_call_iff {function : Expression} {types : List String} {arguments : List Expression}
    (types_named : ∀ type ∈ types, isTypeName type.toList = true)
    (named : Everywhere IsNamed function) :
    readExpression functions waits (treesOf (.call function types arguments)) =
        some (.call (unstyled function) types (unstyledItems arguments)) ↔
      isOperand function = true ∧
        readExpression functions waits (treesOf function) = some (unstyled function) ∧
        readItems waits (rowsOfItems arguments) = some (unstyledItems arguments) := by
  cases operand : isOperand function with
  | false =>
      refine ⟨fun isRead => ?_, fun both => nomatch both.1⟩
      have notOperand : isOperand (.call function types arguments) = false := operand
      exact absurd rfl ((ne_of_not_operand notOperand isRead).2 _ _ _)
  | true =>
      have extended := ((goesOn_treesOf function operand named).append
        (readPostfix_call types_named (rowsOfItems arguments))).2 functions waits
      rw [treesOf, extended, Option.bind_eq_some_iff]
      simp [Option.map_eq_some_iff]

theorem read_arrow_iff {parameters : List Binder} {result : Expression}
    (binders : ∀ parameter ∈ parameters, IsNamedBinder parameter)
    (named : Everywhere IsNamed result) :
    readExpression functions waits (treesOf (.arrow parameters result)) =
        some (.arrow parameters (unstyled result)) ↔
      functions = true ∧ opensBrace result = false ∧
        readExpression true false (treesOf result) = some (unstyled result) := by
  obtain ⟨first, rest, trees, leads⟩ := head_treesOf result named
  have whole : treesOf (.arrow parameters result) =
    .group .round (parameters.map rowOfBinder) :: .token .arrow :: treesOf result := rfl
  rw [whole]
  cases functions with
  | false =>
      refine ⟨fun isRead => ?_, fun all => nomatch all.1⟩
      exact absurd (function_of_read isRead).1 Bool.false_ne_true
  | true =>
      cases brace : opensBrace result with
      | true =>
          obtain ⟨rows, rfl⟩ := leads.brace.2 brace
          refine ⟨fun isRead => ?_, fun all => nomatch all.2.1⟩
          rw [trees, readExpression] at isRead
          obtain ⟨-, isRead⟩ := Option.ite_none_right_eq_some.1 isRead
          obtain ⟨_, -, isArrow⟩ := Option.map_eq_some_iff.1 isRead
          cases isArrow
      | false =>
          rw [readExpression, if_pos rfl, readBinders_map binders]
          · simp
          · intro body behind starts
            exact leads.notBlock body (List.cons.inj (trees.symm.trans starts)).1
          · intro body behind starts
            have isBrace := leads.brace.1 ⟨body, (List.cons.inj (trees.symm.trans starts)).1⟩
            exact absurd (brace.symm.trans isBrace) Bool.false_ne_true

theorem read_function_iff {parameters : List Binder} {body : List Statement}
    (binders : ∀ parameter ∈ parameters, IsNamedBinder parameter) :
    readExpression functions waits (treesOf (.function parameters body)) =
        some (.function parameters (unstyledStatements body)) ↔
      functions = true ∧
        readStatements false (rowsOfStatements body) = some (unstyledStatements body) := by
  have whole : treesOf (.function parameters body) =
    [.group .round (parameters.map rowOfBinder), .token .arrow,
      bodyTree (rowsOfStatements body)] := rfl
  rw [whole]
  cases functions with
  | false =>
      refine ⟨fun isRead => ?_, fun both => nomatch both.1⟩
      exact absurd (function_of_read isRead).1 Bool.false_ne_true
  | true =>
      cases body with
      | nil => simp [rowsOfStatements, bodyTree, readExpression, readBinders_map binders,
          unstyledStatements, readStatements]
      | cons statement rest => simp [rowsOfStatements, bodyTree, readExpression,
          readBinders_map binders, Option.map_eq_some_iff]

theorem read_await_iff {promise : Expression} :
    readExpression functions waits (treesOf (.await promise)) = some (.await (unstyled promise)) ↔
      waits = true ∧ readExpression false true (treesOf promise) = some (unstyled promise) := by
  rw [treesOf, readExpression, Option.ite_none_right_eq_some, Option.map_eq_some_iff]
  simp

/-- What a list starts with and goes on with. -/
theorem exists_of_bind_cons {α β : Type} {wrap : α → β} {first? : Option α}
    {rest? : Option (List β)} {found : List β}
    (isFound : (first?.bind fun first => rest?.map (wrap first :: ·)) = some found) :
    ∃ first rest, first? = some first ∧ rest? = some rest ∧ found = wrap first :: rest := by
  obtain ⟨first, isFirst, later⟩ := Option.bind_eq_some_iff.1 isFound
  obtain ⟨rest, isRest, rfl⟩ := Option.map_eq_some_iff.1 later
  exact ⟨first, rest, isFirst, isRest, rfl⟩

/-- One more element is read exactly if it and all the others are. -/
theorem bind_cons_eq_some_iff {α β : Type} (wrap : α → β) (injective : Function.Injective wrap)
    (first? : Option α) (rest? : Option (List β)) (first : α) (rest : List β) :
    (first?.bind fun first => rest?.map (wrap first :: ·)) = some (wrap first :: rest) ↔
      first? = some first ∧ rest? = some rest := by
  constructor
  · intro whole
    obtain ⟨one, others, isFirst, isRest, same⟩ := exists_of_bind_cons whole
    obtain ⟨sameFirst, sameRest⟩ := List.cons.inj same
    rw [isFirst, isRest, injective sameFirst, sameRest]
    exact ⟨rfl, rfl⟩
  · rintro ⟨rfl, rfl⟩
    rfl

theorem readMembers_key {name : String} {value : Row} {rest : List Row} :
    readMembers waits ((.token (keyToken name) :: .token .colon :: value) :: rest) =
      (readExpression true waits value).bind (fun value =>
        (readMembers waits rest).map ((name, some value) :: ·)) := by
  rw [keyToken]
  split <;> rw [readMembers]

theorem readStatements_evaluate {value : Expression} {rest : List Row}
    (named : Everywhere IsNamed value) :
    readStatements waits (treesOf value :: rest) =
      if opensBrace value then none
      else (readExpression true waits (treesOf value)).bind (fun value =>
        (readStatements waits rest).map (.evaluate value :: ·)) := by
  obtain ⟨first, behind, trees, leads⟩ := head_treesOf value named
  rw [trees]
  cases brace : opensBrace value with
  | true =>
      obtain ⟨rows, rfl⟩ := leads.brace.2 brace
      rw [readStatements, if_pos rfl]
  | false =>
      rw [readStatements, if_neg Bool.false_ne_true]
      · exact fun _ _ starts => leads.notConst (List.cons.inj starts).1
      · exact fun _ starts => leads.notReturn (List.cons.inj starts).1
      · intro rows _ starts
        have isBrace := leads.brace.1 ⟨rows, (List.cons.inj starts).1⟩
        exact absurd (brace.symm.trans isBrace) Bool.false_ne_true

/-- The segments of texts without a carriage return are read as they stand. -/
theorem readParts_eq {filled : List (List Char × String)} {last : List Char}
    (noReturn : ∀ text, .plain text ∈ partsOf filled last → '\r' ∉ text.toList) :
    readParts filled last = partsOf filled last := by
  have ofText : ∀ text, (∀ part, .plain part ∈ Script.plainPart text → '\r' ∉ part.toList) →
      cooked text = text := by
    intro text plain
    cases text with
    | nil => rfl
    | cons first rest =>
        have noReturn := plain _ (List.mem_singleton.2 rfl)
        rw [String.toList_ofList] at noReturn
        exact cooked_of_not_mem noReturn
  induction filled with
  | nil => rw [readParts, List.map_nil, ofText last noReturn]
  | cons segment filled inductionHypothesis =>
      obtain ⟨front, code⟩ := segment
      rw [partsOf_cons] at noReturn
      have ofFront := ofText front fun part member =>
        noReturn part (List.mem_append_left _ member)
      have ofRest := inductionHypothesis fun text member =>
        noReturn text (List.mem_append_right _ (List.mem_cons_of_mem _ member))
      have whole : readParts ((front, code) :: filled) last =
        Script.plainPart (cooked front) ++ .substitution code :: readParts filled last :=
          partsOf_cons ..
      rw [whole, ofFront, ofRest, partsOf_cons]

/-- One more row is legible, and free of `await` where it has to be, exactly if its value is and all
the other rows are. -/
theorem legible_cons_iff {key keys legible unary free legibleRest freeRest : Prop} {waits : Bool}
    (ofKey : key) :
    ((legible ∧ (true = true ∨ unary) ∧ (waits = true ∨ free)) ∧
        keys ∧ legibleRest ∧ (waits = true ∨ freeRest)) ↔
      (key ∧ keys) ∧ (legible ∧ legibleRest) ∧ (waits = true ∨ free ∧ freeRest) := by
  rw [or_and_left]
  constructor
  · rintro ⟨⟨ofValue, -, waited⟩, ofKeys, ofRest, waitedRest⟩
    exact ⟨⟨ofKey, ofKeys⟩, ⟨ofValue, ofRest⟩, waited, waitedRest⟩
  · rintro ⟨⟨-, ofKeys⟩, ⟨ofValue, ofRest⟩, waited, waitedRest⟩
    exact ⟨⟨ofValue, .inl rfl, waited⟩, ofKeys, ofRest, waitedRest⟩

mutual

-- For all flags at once: behind `await`, an operand is read where no function may stand, and in an
-- arrow, a result where nothing may be waited for.

/-- An expression is read back from its trees exactly if all of it is legible; a function is not
read where something binds tighter, and no `await` where nothing may be waited for. -/
theorem readExpression_iff : ∀ (expression : Expression), Everywhere IsNamed expression →
    Everywhere IsTidy expression → ∀ (functions waits : Bool),
      readExpression functions waits (treesOf expression) = some (unstyled expression) ↔
        Everywhere IsLegible expression ∧ (functions = true ∨ isUnary expression = true) ∧
          (waits = true ∨ Everywhere IsAwaitFree expression)
  | .name name, named, _, functions, waits => by
      have notAwait : name ≠ "await" := ne_of_isVariable named (by decide)
      have isNamed : isVariable name.toList = true := named
      rw [treesOf, readExpression_singleton (by simp) (by simp [notAwait]), readOperand,
        if_pos isNamed]
      simp [unstyled, Everywhere, IsLegible, IsAwaitFree, isUnary]
  | .text value, _, _, functions, waits => by
      rw [treesOf, readExpression_singleton (by simp) (by simp), readOperand]
      simp [unstyled, Everywhere, IsLegible, IsAwaitFree, isUnary]
  | .template parts, named, tidy, functions, waits => by
      have isNamed : substitutesNames parts = true := named
      have isWhole := partsOf_segmentsOf tidy.1
      have isRead := readParts_eq (isWhole ▸ tidy.2)
      rw [treesOf, templateToken, readExpression_singleton (by simp) (by simp), readOperand,
        isRead, isWhole, if_pos isNamed]
      simp [unstyled, Everywhere, IsLegible, IsAwaitFree, isUnary]
  | .list items, named, tidy, functions, waits => by
      rw [treesOf, readExpression_singleton (by simp) (by simp), readOperand]
      simp [unstyled, Everywhere, IsLegible, IsAwaitFree, isUnary, Option.map_eq_some_iff,
        readItems_iff items named.2 tidy.2]
  | .object style members, named, tidy, functions, waits => by
      rw [treesOf, readExpression_singleton (by simp) (by simp), readOperand]
      simp [unstyled, Everywhere, IsLegible, IsAwaitFree, isUnary, Option.map_eq_some_iff,
        readMembers_iff members named.1 named.2 tidy.2, and_assoc]
  | .member object property, named, tidy, functions, waits => by
      have ofObject := readExpression_iff object named.2 tidy.2 functions waits
      rw [unstyled, read_member_iff named.2, ofObject, Everywhere, Everywhere]
      constructor
      · rintro ⟨operand, legible, -, waited⟩
        exact ⟨⟨operand, legible⟩, .inr rfl, waited.imp_right fun free => ⟨trivial, free⟩⟩
      · rintro ⟨⟨operand, legible⟩, -, waited⟩
        exact ⟨operand, legible, .inr (isUnary_of_isOperand operand), waited.imp_right And.right⟩
  | .call function types arguments, named, tidy, functions, waits => by
      have ofFunction := readExpression_iff function named.2.1 tidy.2.1 functions waits
      have ofArguments := readItems_iff arguments named.2.2 tidy.2.2 waits
      rw [unstyled, read_call_iff named.1 named.2.1, ofFunction, ofArguments, Everywhere,
        Everywhere]
      constructor
      · rintro ⟨operand, ⟨legible, -, waited⟩, legibleArguments, waitedArguments⟩
        refine ⟨⟨operand, legible, legibleArguments⟩, .inr rfl, ?_⟩
        exact (or_and_left.2 ⟨waited, waitedArguments⟩).imp_right fun free => ⟨trivial, free⟩
      · rintro ⟨⟨operand, legible, legibleArguments⟩, -, waited⟩
        obtain ⟨waited, waitedArguments⟩ := or_and_left.1 (waited.imp_right And.right)
        exact ⟨operand, ⟨legible, .inr (isUnary_of_isOperand operand), waited⟩,
          legibleArguments, waitedArguments⟩
  | .arrow parameters result, named, tidy, functions, waits => by
      have ofResult := readExpression_iff result named.2 tidy.2 true false
      rw [unstyled, read_arrow_iff named.1 named.2, ofResult, Everywhere, Everywhere]
      constructor
      · rintro ⟨allowed, noBrace, legible, -, waited⟩
        have free := waited.resolve_left Bool.false_ne_true
        exact ⟨⟨⟨noBrace, free⟩, legible⟩, .inl allowed, .inr ⟨trivial, free⟩⟩
      · rintro ⟨⟨⟨noBrace, free⟩, legible⟩, allowed, -⟩
        exact ⟨allowed.resolve_right Bool.false_ne_true, noBrace, legible, .inl rfl, .inr free⟩
  | .function parameters body, named, tidy, functions, waits => by
      have ofBody := readStatements_iff body named.1.2 named.2 tidy.2 false
      rw [unstyled, read_function_iff named.1.1, ofBody, Everywhere, Everywhere]
      constructor
      · rintro ⟨allowed, statements, legible, waited⟩
        have free := waited.resolve_left Bool.false_ne_true
        exact ⟨⟨⟨statements, free⟩, legible⟩, .inl allowed, .inr ⟨trivial, free⟩⟩
      · rintro ⟨⟨⟨statements, free⟩, legible⟩, allowed, -⟩
        exact ⟨allowed.resolve_right Bool.false_ne_true, statements, legible, .inr free⟩
  | .await promise, named, tidy, functions, waits => by
      have ofPromise := readExpression_iff promise named.2 tidy.2 false true
      rw [unstyled, read_await_iff, ofPromise, Everywhere, Everywhere]
      constructor
      · rintro ⟨allowed, legible, unary, -⟩
        exact ⟨⟨unary.resolve_left Bool.false_ne_true, legible⟩, .inr rfl, .inl allowed⟩
      · rintro ⟨⟨unary, legible⟩, -, waited⟩
        exact ⟨waited.resolve_right And.left, legible, .inr unary, .inl rfl⟩
  | .code _, named, _, _, _ => False.elim named

theorem readItems_iff : ∀ (items : List Expression), EverywhereInItems IsNamed items →
    EverywhereInItems IsTidy items → ∀ (waits : Bool),
      readItems waits (rowsOfItems items) = some (unstyledItems items) ↔
        EverywhereInItems IsLegible items ∧
          (waits = true ∨ EverywhereInItems IsAwaitFree items)
  | [], _, _, _ => by simp [rowsOfItems, readItems, unstyledItems, EverywhereInItems]
  | item :: rest, named, tidy, waits => by
      have ofItem := readExpression_iff item named.1 tidy.1 true waits
      have ofRest := readItems_iff rest named.2 tidy.2 waits
      have both := bind_cons_eq_some_iff (fun item : Expression => item) fun _ _ => id
      rw [rowsOfItems, readItems, unstyledItems, EverywhereInItems, EverywhereInItems, both,
        ofItem, ofRest, or_and_left]
      simp only [true_or, true_and]
      exact and_and_and_comm

theorem readMembers_iff : ∀ (members : List (String × Option Expression)),
    (∀ member ∈ members, IsNamedMember member) → EverywhereInMembers IsNamed members →
      EverywhereInMembers IsTidy members → ∀ (waits : Bool),
        readMembers waits (rowsOfMembers members) = some (unstyledMembers members) ↔
          (∀ member ∈ members, IsLegibleMember member) ∧
            EverywhereInMembers IsLegible members ∧
              (waits = true ∨ EverywhereInMembers IsAwaitFree members)
  | [], _, _, _, _ => by
      simp [rowsOfMembers, readMembers, unstyledMembers, EverywhereInMembers]
  | (name, none) :: rest, keys, named, tidy, waits => by
      rw [List.forall_mem_cons] at keys
      have isNamed : isVariable name.toList = true := keys.1
      have ofRest := readMembers_iff rest keys.2 named tidy waits
      rw [rowsOfMembers, unstyledMembers, EverywhereInMembers, EverywhereInMembers,
        List.forall_mem_cons, and_assoc, ← ofRest, IsLegibleMember, keyToken]
      cases isPlain : Script.isPlainName name.toList with
      | true => simp [readMembers, isNamed, Option.map_eq_some_iff]
      | false => simp [readMembers]
  | (name, some value) :: rest, keys, named, tidy, waits => by
      rw [List.forall_mem_cons] at keys
      have ofValue := readExpression_iff value named.1 tidy.1 true waits
      have ofRest := readMembers_iff rest keys.2 named.2 tidy.2 waits
      have both := bind_cons_eq_some_iff (fun value : Expression => (name, some value))
        fun _ _ same => Option.some.inj (Prod.mk.inj same).2
      rw [rowsOfMembers, readMembers_key, unstyledMembers, EverywhereInMembers,
        EverywhereInMembers, List.forall_mem_cons, both, ofValue, ofRest]
      exact legible_cons_iff trivial

theorem readStatements_iff : ∀ (body : List Statement),
    (∀ statement ∈ body, IsNamedStatement statement) → EverywhereInStatements IsNamed body →
      EverywhereInStatements IsTidy body → ∀ (waits : Bool),
        readStatements waits (rowsOfStatements body) = some (unstyledStatements body) ↔
          (∀ statement ∈ body, IsLegibleStatement statement) ∧
            EverywhereInStatements IsLegible body ∧
              (waits = true ∨ EverywhereInStatements IsAwaitFree body)
  | [], _, _, _, _ => by
      simp [rowsOfStatements, readStatements, unstyledStatements, EverywhereInStatements]
  | .constant name value :: rest, names, named, tidy, waits => by
      rw [List.forall_mem_cons] at names
      have isNamed : isVariable name.toList = true := names.1
      have ofValue := readExpression_iff value named.1 tidy.1 true waits
      have ofRest := readStatements_iff rest names.2 named.2 tidy.2 waits
      have both := bind_cons_eq_some_iff (Statement.constant name)
        fun _ _ same => (Statement.constant.inj same).2
      rw [rowsOfStatements, rowOfStatement, readStatements, if_pos isNamed, unstyledStatements,
        EverywhereInStatements, EverywhereInStatements, EverywhereInStatement,
        EverywhereInStatement, List.forall_mem_cons, unstyledStatement, both, ofValue, ofRest]
      exact legible_cons_iff trivial
  | .return value :: rest, names, named, tidy, waits => by
      rw [List.forall_mem_cons] at names
      have ofValue := readExpression_iff value named.1 tidy.1 true waits
      have ofRest := readStatements_iff rest names.2 named.2 tidy.2 waits
      have both := bind_cons_eq_some_iff Statement.return
        fun _ _ same => Statement.return.inj same
      rw [rowsOfStatements, rowOfStatement, readStatements, unstyledStatements,
        EverywhereInStatements, EverywhereInStatements, EverywhereInStatement,
        EverywhereInStatement, List.forall_mem_cons, unstyledStatement, both, ofValue, ofRest]
      exact legible_cons_iff trivial
  | .evaluate value :: rest, names, named, tidy, waits => by
      rw [List.forall_mem_cons] at names
      have ofValue := readExpression_iff value named.1 tidy.1 true waits
      have ofRest := readStatements_iff rest names.2 named.2 tidy.2 waits
      have both := bind_cons_eq_some_iff Statement.evaluate
        fun _ _ same => Statement.evaluate.inj same
      rw [rowsOfStatements, rowOfStatement, readStatements_evaluate named.1, unstyledStatements,
        EverywhereInStatements, EverywhereInStatements, EverywhereInStatement,
        EverywhereInStatement, List.forall_mem_cons, unstyledStatement, IsLegibleStatement]
      cases opensBrace value with
      | true => simp
      | false =>
          rw [if_neg Bool.false_ne_true, both, ofValue, ofRest]
          exact legible_cons_iff rfl

end

end Readers

end TypedClient.ScriptText
