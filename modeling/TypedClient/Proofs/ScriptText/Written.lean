import Mathlib.Data.List.Forall2
import TypedClient.Proofs.ScriptText.Scanning

/-!
Contract: the trees of an expression.

Owns:
- `treesOf`, the trees of the text of an expression;
- `Everywhere`, that something holds of an expression and of all the expressions in it;
- `IsCode`, that a text is scanned as trees of its own, and `IsWritten`, that all the names,
  literals and pieces of code in an expression are;
- that the text of an expression is scanned as its trees at every level of nesting.

Does not own: reading the trees.
-/

namespace TypedClient.ScriptText

open Script (Binder Expression Statement StaysApart renderItems renderMembers renderStatements)

/-! ## Trees -/

/-- The trees of a text that is taken as it is. -/
def treesOfText (text : String) : Row := (readTrees text).getD []

def keyToken (name : String) : Token :=
  if Script.isPlainName name.toList then .word name else .quoted name

def rowOfBinder (parameter : Binder) : Row :=
  treesOfText parameter.name ++ ((if parameter.isOptional then [.token .question] else []) ++
    match parameter.type with
    | some type => .token .colon :: treesOfText type
    | none => [])

/-- The parameters of a function, with the arrow behind them. -/
def treesOfParameters (parameters : List Binder) : Row :=
  [.group .round (parameters.map rowOfBinder), .token .arrow]

def rowOfType (type : String) : Row := [.token (.word type)]

def treesOfTypes : List String → Row
  | [] => []
  | types => [.group .angle (types.map rowOfType)]

mutual

def treesOf : Expression → Row
  | .name name => [.token (.word name)]
  | .code code => treesOfText code
  | .text value => [.token (.quoted value)]
  | .template parts => [.token (templateToken parts)]
  | .list items => [.group .square (rowsOfItems items)]
  | .object _ members => [.group .brace (rowsOfMembers members)]
  | .member object property => treesOf object ++ [.token .dot, .token (.word property)]
  | .call function types arguments =>
      treesOf function ++ (treesOfTypes types ++ [.group .round (rowsOfItems arguments)])
  | .arrow parameters result => treesOfParameters parameters ++ treesOf result
  | .function parameters body =>
      treesOfParameters parameters ++ [bodyTree (rowsOfStatements body)]
  | .await promise => .token (.word "await") :: treesOf promise

def rowsOfItems : List Expression → List Row
  | [] => []
  | item :: rest => treesOf item :: rowsOfItems rest

def rowsOfMembers : List (String × Option Expression) → List Row
  | [] => []
  | (name, none) :: rest => [.token (keyToken name)] :: rowsOfMembers rest
  | (name, some value) :: rest =>
      (.token (keyToken name) :: .token .colon :: treesOf value) :: rowsOfMembers rest

def rowOfStatement : Statement → Row
  | .constant name value =>
      .token (.word "const") :: .token (.word name) :: .token .equals :: treesOf value
  | .return value => .token (.word "return") :: treesOf value
  | .evaluate value => treesOf value

def rowsOfStatements : List Statement → List Row
  | [] => []
  | statement :: rest => rowOfStatement statement :: rowsOfStatements rest

end

/-! ## What holds of every part -/

mutual

/-- Something holds of an expression and of all the expressions in it. -/
def Everywhere (holds : Expression → Prop) : Expression → Prop
  | .list items => holds (.list items) ∧ EverywhereInItems holds items
  | .object style members => holds (.object style members) ∧ EverywhereInMembers holds members
  | .member object property => holds (.member object property) ∧ Everywhere holds object
  | .call function types arguments =>
      holds (.call function types arguments) ∧ Everywhere holds function ∧
        EverywhereInItems holds arguments
  | .arrow parameters result => holds (.arrow parameters result) ∧ Everywhere holds result
  | .function parameters body =>
      holds (.function parameters body) ∧ EverywhereInStatements holds body
  | .await promise => holds (.await promise) ∧ Everywhere holds promise
  | .name name => holds (.name name)
  | .text value => holds (.text value)
  | .template parts => holds (.template parts)
  | .code code => holds (.code code)

def EverywhereInItems (holds : Expression → Prop) : List Expression → Prop
  | [] => True
  | item :: rest => Everywhere holds item ∧ EverywhereInItems holds rest

def EverywhereInMembers (holds : Expression → Prop) : List (String × Option Expression) → Prop
  | [] => True
  | (_, none) :: rest => EverywhereInMembers holds rest
  | (_, some value) :: rest => Everywhere holds value ∧ EverywhereInMembers holds rest

def EverywhereInStatement (holds : Expression → Prop) : Statement → Prop
  | .constant _ value => Everywhere holds value
  | .return value => Everywhere holds value
  | .evaluate value => Everywhere holds value

def EverywhereInStatements (holds : Expression → Prop) : List Statement → Prop
  | [] => True
  | statement :: rest =>
      EverywhereInStatement holds statement ∧ EverywhereInStatements holds rest

end

section Everywhere

variable {first second holds : Expression → Prop}

mutual

/-- What follows from two facts about an expression itself follows everywhere. -/
theorem everywhere_of_both
    (both : ∀ expression, first expression → second expression → holds expression) :
    ∀ (expression : Expression), Everywhere first expression → Everywhere second expression →
      Everywhere holds expression
  | .name _, ofFirst, ofSecond | .text _, ofFirst, ofSecond | .template _, ofFirst, ofSecond
  | .code _, ofFirst, ofSecond => both _ ofFirst ofSecond
  | .list items, ofFirst, ofSecond =>
      ⟨both _ ofFirst.1 ofSecond.1, everywhereInItems_of_both both items ofFirst.2 ofSecond.2⟩
  | .object _ members, ofFirst, ofSecond =>
      ⟨both _ ofFirst.1 ofSecond.1, everywhereInMembers_of_both both members ofFirst.2 ofSecond.2⟩
  | .member object _, ofFirst, ofSecond =>
      ⟨both _ ofFirst.1 ofSecond.1, everywhere_of_both both object ofFirst.2 ofSecond.2⟩
  | .call function _ arguments, ofFirst, ofSecond =>
      ⟨both _ ofFirst.1 ofSecond.1, everywhere_of_both both function ofFirst.2.1 ofSecond.2.1,
        everywhereInItems_of_both both arguments ofFirst.2.2 ofSecond.2.2⟩
  | .arrow _ result, ofFirst, ofSecond =>
      ⟨both _ ofFirst.1 ofSecond.1, everywhere_of_both both result ofFirst.2 ofSecond.2⟩
  | .function _ body, ofFirst, ofSecond =>
      ⟨both _ ofFirst.1 ofSecond.1, everywhereInStatements_of_both both body ofFirst.2 ofSecond.2⟩
  | .await promise, ofFirst, ofSecond =>
      ⟨both _ ofFirst.1 ofSecond.1, everywhere_of_both both promise ofFirst.2 ofSecond.2⟩

theorem everywhereInItems_of_both
    (both : ∀ expression, first expression → second expression → holds expression) :
    ∀ (items : List Expression), EverywhereInItems first items →
      EverywhereInItems second items → EverywhereInItems holds items
  | [], _, _ => trivial
  | item :: rest, ofFirst, ofSecond =>
      ⟨everywhere_of_both both item ofFirst.1 ofSecond.1,
        everywhereInItems_of_both both rest ofFirst.2 ofSecond.2⟩

theorem everywhereInMembers_of_both
    (both : ∀ expression, first expression → second expression → holds expression) :
    ∀ (members : List (String × Option Expression)), EverywhereInMembers first members →
      EverywhereInMembers second members → EverywhereInMembers holds members
  | [], _, _ => trivial
  | (_, none) :: rest, ofFirst, ofSecond => everywhereInMembers_of_both both rest ofFirst ofSecond
  | (_, some value) :: rest, ofFirst, ofSecond =>
      ⟨everywhere_of_both both value ofFirst.1 ofSecond.1,
        everywhereInMembers_of_both both rest ofFirst.2 ofSecond.2⟩

theorem everywhereInStatements_of_both
    (both : ∀ expression, first expression → second expression → holds expression) :
    ∀ (body : List Statement), EverywhereInStatements first body →
      EverywhereInStatements second body → EverywhereInStatements holds body
  | [], _, _ => trivial
  | .constant _ value :: rest, ofFirst, ofSecond | .return value :: rest, ofFirst, ofSecond
  | .evaluate value :: rest, ofFirst, ofSecond =>
      ⟨everywhere_of_both both value ofFirst.1 ofSecond.1,
        everywhereInStatements_of_both both rest ofFirst.2 ofSecond.2⟩

end

end Everywhere

/-! ## What can be scanned -/

/-- A text that is scanned as trees of its own, of which there is one at least. -/
def IsCode (text : String) : Prop := WritesRow text (treesOfText text)

structure IsWrittenBinder (parameter : Binder) : Prop where
  name : IsCode parameter.name
  type : ∀ type ∈ parameter.type, IsCode type

def IsWrittenStatement : Statement → Prop
  | .constant name _ => isWord name.toList = true
  | .return _ => True
  | .evaluate _ => True

/-- What stands in an expression itself is written so that it can be scanned: names are words,
literals and keys are on one line, no substitution arises in a template, and code has trees of its
own. -/
def IsWritten : Expression → Prop
  | .name name => isWord name.toList = true
  | .text value => Script.OnOneLine value.toList
  | .template parts => StaysApart parts
  | .list _ => True
  | .object _ members => ∀ member ∈ members, Script.OnOneLine member.1.toList
  | .member _ property => isWord property.toList = true
  | .call _ types _ => ∀ type ∈ types, isWord type.toList = true
  | .arrow parameters _ => ∀ parameter ∈ parameters, IsWrittenBinder parameter
  | .function parameters body =>
      (∀ parameter ∈ parameters, IsWrittenBinder parameter) ∧
        ∀ statement ∈ body, IsWrittenStatement statement
  | .await _ => True
  | .code code => IsCode code

/-! ## Scanning what was written -/

theorem WritesRow.treesOfText {text : String} {row : Row} (written : WritesRow text row) :
    treesOfText text = row := by
  rw [ScriptText.treesOfText, written.writes.readTrees]
  rfl

theorem WritesRow.isCode {text : String} {row : Row} (written : WritesRow text row) :
    IsCode text := by
  rw [IsCode, written.treesOfText]
  exact written

theorem WritesRow.word {word : String} (isWord : isWord word.toList = true) :
    WritesRow word [.token (.word word)] :=
  ⟨.word isWord, List.cons_ne_nil _ _⟩

theorem Exact.writesRow {text : String} {row : Row} (exact : Exact text row)
    (nonempty : row ≠ []) : WritesRow text row :=
  ⟨exact.writes, nonempty⟩

theorem IsCode.word {word : String} (isWord : isWord word.toList = true) : IsCode word :=
  (WritesRow.word isWord).isCode

theorem treesOfText_word {word : String} (isWord : isWord word.toList = true) :
    treesOfText word = [.token (.word word)] :=
  (WritesRow.word isWord).treesOfText

theorem writes_key {name : String} (onOneLine : Script.OnOneLine name.toList) :
    WritesRow (Script.key name) [.token (keyToken name)] := by
  rw [Script.key, keyToken]
  split
  · exact .word (isWord_of_isPlainName ‹_›)
  · exact (Exact.literal onOneLine).writesRow (List.cons_ne_nil _ _)

theorem writes_binder {parameter : Binder} (written : IsWrittenBinder parameter) :
    WritesRow parameter.render (rowOfBinder parameter) := by
  obtain ⟨name, type, isOptional⟩ := parameter
  obtain ⟨ofName, ofType⟩ := written
  refine ⟨?_, List.append_ne_nil_of_left_ne_nil ofName.nonempty _⟩
  have mark : Exact "?" [.token .question] := fun _ _ _ => rfl
  have colon : Exact ": " [.token .colon] := fun _ _ _ => rfl
  cases type with
  | none =>
      cases isOptional with
      | false => simpa [Binder.render, rowOfBinder] using ofName.writes
      | true =>
          simpa [Binder.render, rowOfBinder] using
            (ofName.writes.append_exact (.of_head rfl) mark).writes
  | some type =>
      have typed : Writes (": " ++ type) (.token .colon :: treesOfText type) :=
        colon.append_writes (ofType type rfl).writes
      have opens : Opens (": " ++ type) := .append rfl type
      cases isOptional with
      | false => simpa [Binder.render, rowOfBinder] using ofName.writes.append opens typed
      | true =>
          simpa [Binder.render, rowOfBinder] using
            (ofName.writes.append_exact (.of_head rfl) mark).append_writes typed

theorem writes_parameters {parameters : List Binder}
    (written : ∀ parameter ∈ parameters, IsWrittenBinder parameter) :
    Exact (Script.renderParameters parameters ++ " => ") (treesOfParameters parameters) := by
  have rows : List.Forall₂ WritesRow (parameters.map Binder.render)
      (parameters.map rowOfBinder) := by
    rw [List.forall₂_map_left_iff, List.forall₂_map_right_iff, List.forall₂_same]
    exact fun parameter member => writes_binder (written parameter member)
  have arrow : Exact " => " [.token .arrow] := fun _ _ _ => rfl
  exact (Exact.arguments rows).append arrow

theorem writes_types {types : List String} (named : ∀ type ∈ types, isWord type.toList = true) :
    Exact (Script.renderTypes types) (treesOfTypes types) := by
  cases types with
  | nil => exact .empty
  | cons type rest =>
      have written : List.Forall₂ WritesRow (type :: rest) ((type :: rest).map rowOfType) := by
        rw [List.forall₂_map_right_iff, List.forall₂_same]
        exact fun type member => .word (named type member)
      exact Exact.types written

theorem opens_types (types : List String) (arguments : String) :
    Opens (Script.renderTypes types ++ ("(" ++ arguments)) := by
  cases types with
  | nil =>
      rw [Script.renderTypes, String.empty_append]
      exact .append rfl arguments
  | cons type rest =>
      rw [Script.renderTypes, String.append_assoc, String.append_assoc]
      exact .append rfl _
      simp

theorem WritesRow.indented {text : String} {row : Row} (written : WritesRow text row)
    (level : Nat) : WritesRow (Script.indentation level ++ text) row :=
  ⟨(Exact.indentation level).append_writes written.writes, written.nonempty⟩

/-- Members on a line each. -/
theorem writes_memberLines {texts : List String} {rows : List Row}
    (written : List.Forall₂ WritesRow texts rows) (level : Nat) :
    Exact ("\x7b\n" ++ String.join (texts.map (fun text =>
      Script.indentation (level + 1) ++ text ++ ",\n")) ++ Script.indentation level ++ "\x7d")
      [.group .brace rows] := by
  have indented : List.Forall₂ WritesRow (texts.map (Script.indentation (level + 1) ++ ·)) rows :=
    List.forall₂_map_left_iff.2 (written.imp fun _ _ row => row.indented (level + 1))
  have whole := Exact.memberLines indented level
  rwa [List.map_map, ← String.append_assoc] at whole

mutual

/-- The text of an expression is scanned as its trees. -/
theorem writes_expression : ∀ (expression : Expression), Everywhere IsWritten expression →
    ∀ level, WritesRow (expression.render level) (treesOf expression)
  | .name name, isWord, level => .word isWord
  | .text value, onOneLine, level => (Exact.literal onOneLine).writesRow (List.cons_ne_nil _ _)
  | .template parts, apart, level => (Exact.template apart).writesRow (List.cons_ne_nil _ _)
  | .list items, written, level =>
      (Exact.list (writes_items items written.2 level)).writesRow (List.cons_ne_nil _ _)
  | .object style [], _, level => by
      have braces : Exact "\x7b\x7d" [.group .brace []] := fun _ _ _ => rfl
      rw [Expression.render, treesOf, rowsOfMembers]
      exact braces.writesRow (List.cons_ne_nil _ _)
  | .object .inline (member :: rest), written, level =>
      (Exact.members (writes_members (member :: rest) written.1 written.2 level)).writesRow
        (List.cons_ne_nil _ _)
  | .object .lines (member :: rest), written, level =>
      (writes_memberLines (writes_members (member :: rest) written.1 written.2 (level + 1))
        level).writesRow (List.cons_ne_nil _ _)
  | .member object property, written, level => by
      have ofObject := writes_expression object written.2 level
      have dot : Exact "." [.token .dot] := fun _ _ _ => rfl
      have ofProperty : Writes property [.token (.word property)] := .word written.1
      have whole := (ofObject.writes.append_exact (.of_head rfl) dot).append_writes ofProperty
      rw [Expression.render, treesOf]
      rw [List.append_assoc] at whole
      exact ⟨whole, List.append_ne_nil_of_left_ne_nil ofObject.nonempty _⟩
  | .call function types arguments, written, level => by
      have ofFunction := writes_expression function written.2.1 level
      have ofArguments := Exact.arguments (writes_items arguments written.2.2 level)
      have behind := (writes_types written.1).append ofArguments
      have opens := opens_types types (", ".intercalate (renderItems level arguments) ++ ")")
      rw [String.append_assoc] at behind
      have whole := ofFunction.writes.append_exact opens behind
      rw [Expression.render, treesOf]
      simp only [← String.append_assoc] at whole ⊢
      exact whole.writesRow (List.append_ne_nil_of_left_ne_nil ofFunction.nonempty _)
  | .arrow parameters result, written, level => by
      have ofResult := writes_expression result written.2 level
      rw [Expression.render, treesOf]
      exact ⟨(writes_parameters written.1).append_writes ofResult.writes,
        List.append_ne_nil_of_right_ne_nil _ ofResult.nonempty⟩
  | .function parameters body, written, level => by
      obtain ⟨texts, rendered, rows⟩ :=
        writes_statements body written.1.2 written.2 (level + 1)
      have whole := (writes_parameters written.1.1).append (Exact.statements rows level)
      have arrow : " => \x7b\n" = " => " ++ "\x7b\n" := rfl
      rw [Expression.render, treesOf, rendered, arrow]
      simp only [← String.append_assoc] at whole ⊢
      exact whole.writesRow (List.cons_ne_nil _ _)
  | .await promise, written, level => by
      have ofPromise := writes_expression promise written.2 level
      have keyword : Exact "await " [.token (.word "await")] := fun _ _ _ => rfl
      rw [Expression.render, treesOf]
      exact ⟨keyword.append_writes ofPromise.writes, List.cons_ne_nil _ _⟩
  | .code code, isCode, _ => isCode

theorem writes_items : ∀ (items : List Expression), EverywhereInItems IsWritten items →
    ∀ level, List.Forall₂ WritesRow (renderItems level items) (rowsOfItems items)
  | [], _, _ => .nil
  | item :: rest, written, level =>
      .cons (writes_expression item written.1 level) (writes_items rest written.2 level)

theorem writes_members : ∀ (members : List (String × Option Expression)),
    (∀ member ∈ members, Script.OnOneLine member.1.toList) →
      EverywhereInMembers IsWritten members → ∀ level,
        List.Forall₂ WritesRow (renderMembers level members) (rowsOfMembers members)
  | [], _, _, _ => .nil
  | (name, none) :: rest, keys, written, level => by
      rw [List.forall_mem_cons] at keys
      exact .cons (writes_key keys.1) (writes_members rest keys.2 written level)
  | (name, some value) :: rest, keys, written, level => by
      rw [List.forall_mem_cons] at keys
      have ofKey := writes_key keys.1
      have colon : Exact ": " [.token .colon] := fun _ _ _ => rfl
      have ofValue := writes_expression value written.1 level
      have whole := (ofKey.writes.append_exact (.of_head rfl) colon).append_writes ofValue.writes
      exact .cons ⟨whole, List.cons_ne_nil _ _⟩ (writes_members rest keys.2 written.2 level)

/-- A statement is a row with a semicolon behind it. -/
theorem writes_statement : ∀ (statement : Statement), IsWrittenStatement statement →
    EverywhereInStatement IsWritten statement → ∀ level,
      ∃ text, statement.render level = text ++ ";\n" ∧ WritesRow text (rowOfStatement statement)
  | .constant name value, isWord, written, level => by
      have keyword : Exact "const " [.token (.word "const")] := fun _ _ _ => rfl
      have equals : Exact " = " [.token .equals] := fun _ _ _ => rfl
      have ofName : Writes name [.token (.word name)] := .word isWord
      have ofValue := writes_expression value written level
      have whole := (keyword.append_writes ofName).append (.append rfl _)
        (equals.append_writes ofValue.writes)
      have row : WritesRow _ (rowOfStatement (.constant name value)) :=
        ⟨whole, List.cons_ne_nil _ _⟩
      refine ⟨_, ?_, row.indented level⟩
      simp only [Statement.render, String.append_assoc]
  | .return value, _, written, level => by
      have keyword : Exact "return " [.token (.word "return")] := fun _ _ _ => rfl
      have ofValue := writes_expression value written level
      have row : WritesRow _ (rowOfStatement (.return value)) :=
        ⟨keyword.append_writes ofValue.writes, List.cons_ne_nil _ _⟩
      refine ⟨_, ?_, row.indented level⟩
      simp only [Statement.render, String.append_assoc]
  | .evaluate value, _, written, level =>
      ⟨_, rfl, (writes_expression value written level).indented level⟩

theorem writes_statements : ∀ (body : List Statement),
    (∀ statement ∈ body, IsWrittenStatement statement) → EverywhereInStatements IsWritten body →
      ∀ level, ∃ texts : List String,
        renderStatements level body = texts.map (· ++ ";\n") ∧
          List.Forall₂ WritesRow texts (rowsOfStatements body)
  | [], _, _, _ => ⟨[], rfl, .nil⟩
  | statement :: rest, words, written, level => by
      rw [List.forall_mem_cons] at words
      obtain ⟨text, rendered, row⟩ := writes_statement statement words.1 written.1 level
      obtain ⟨texts, others, rows⟩ := writes_statements rest words.2 written.2 level
      refine ⟨text :: texts, ?_, .cons row rows⟩
      rw [renderStatements, rendered, others, List.map_cons]

end

end TypedClient.ScriptText
