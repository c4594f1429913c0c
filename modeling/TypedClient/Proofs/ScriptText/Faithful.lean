import TypedClient.Proofs.ScriptText.Legible

/-!
Contract: the texts from which expressions are read back.

Owns:
- that the templates of whatever is read are tidy;
- that an expression is read back from its text, at every level of nesting and up to the layout of
  its objects, exactly if it is legible and its templates are tidy, so that two such expressions
  with one text differ in layout at most;
- an `await` in front of a member and a carriage return in a template, which are read as something
  else, and an arrow that waits, which is not read at all.

Does not own: which expressions are generated.
-/

namespace TypedClient.ScriptText

open Script (Binder Expression ObjectStyle Statement TemplatePart)

/-! ## What is read is tidy -/

/-- Where only names are substituted, no substitution ends early. -/
theorem tidy_partsOf {filled : List (List Char × String)} {last : List Char}
    (names : substitutesNames (partsOf filled last) = true) :
    Script.Tidy (partsOf filled last) := by
  induction filled with
  | nil =>
      show Script.Tidy (Script.plainPart last)
      cases last with
      | nil => exact .nil
      | cons first rest => exact .last (by simp)
  | cons segment filled inductionHypothesis =>
      obtain ⟨front, code⟩ := segment
      rw [partsOf_cons, substitutesNames, List.all_append, List.all_cons, Bool.and_eq_true,
        Bool.and_eq_true] at names
      have simple : '}' ∉ code.toList := fun member =>
        absurd (isWordPart_of_isWord (isWord_of_isVariable names.2.1) _ member) (by decide)
      have later : Script.Tidy (.substitution code :: partsOf filled last) :=
        .substitution simple (inductionHypothesis names.2.2)
      rw [partsOf_cons]
      cases front with
      | nil => exact later
      | cons first rest => exact .plain (by simp) later

/-- What is read as a text of a template holds no carriage return. -/
theorem not_mem_of_readParts {filled : List (List Char × String)} {last : List Char}
    {text : String} (isPart : .plain text ∈ readParts filled last) : '\r' ∉ text.toList := by
  have ofText : ∀ front, .plain text ∈ Script.plainPart (cooked front) → '\r' ∉ text.toList := by
    intro front member
    rw [Script.plainPart] at member
    split at member
    · cases member
    · obtain rfl := TemplatePart.plain.inj (List.mem_singleton.1 member)
      rw [String.toList_ofList]
      exact not_mem_cooked front
  induction filled with
  | nil => exact ofText last isPart
  | cons segment filled inductionHypothesis =>
      obtain ⟨front, code⟩ := segment
      have whole : readParts ((front, code) :: filled) last =
        Script.plainPart (cooked front) ++ .substitution code :: readParts filled last :=
          partsOf_cons ..
      rw [whole, List.mem_append, List.mem_cons] at isPart
      obtain inFront | isSubstitution | later := isPart
      · exact ofText front inFront
      · cases isSubstitution
      · exact inductionHypothesis later

/-- All templates in what is read are tidy. -/
theorem tidy_of_read :
    (∀ functions waits trees found, readExpression functions waits trees = some found →
      Everywhere IsTidy found) ∧
    (∀ waits operand trees found, Everywhere IsTidy operand →
      readPostfix waits operand trees = some found → Everywhere IsTidy found) ∧
    (∀ waits rows found, readItems waits rows = some found → EverywhereInItems IsTidy found) ∧
    (∀ waits tree found, readOperand waits tree = some found → Everywhere IsTidy found) ∧
    (∀ waits rows found, readMembers waits rows = some found →
      EverywhereInMembers IsTidy found) ∧
    (∀ waits rows found, readStatements waits rows = some found →
      EverywhereInStatements IsTidy found) := by
  apply readExpression.mutual_induct
  -- Operands: names, literals, templates and what stands in brackets.
  · intro waits word isNamed found isRead
    rw [readOperand, if_pos isNamed] at isRead
    obtain rfl := Option.some.inj isRead
    trivial
  · intro waits word notNamed found isRead
    rw [readOperand, if_neg notNamed] at isRead
    cases isRead
  · intro waits value found isRead
    rw [readOperand] at isRead
    obtain rfl := Option.some.inj isRead
    trivial
  · intro waits filled last names found isRead
    rw [readOperand, if_pos names] at isRead
    obtain rfl := Option.some.inj isRead
    exact ⟨tidy_partsOf names, fun _ => not_mem_of_readParts⟩
  · intro waits filled last notNames found isRead
    rw [readOperand, if_neg notNames] at isRead
    cases isRead
  · intro waits row ofRow found isRead
    rw [readOperand] at isRead
    exact ofRow found isRead
  · intro waits rows ofItems found isRead
    rw [readOperand] at isRead
    obtain ⟨items, isItems, rfl⟩ := Option.map_eq_some_iff.1 isRead
    exact ⟨trivial, ofItems items isItems⟩
  · intro waits rows ofMembers found isRead
    rw [readOperand] at isRead
    obtain ⟨members, isMembers, rfl⟩ := Option.map_eq_some_iff.1 isRead
    exact ⟨trivial, ofMembers members isMembers⟩
  · intro tree waits notWord notQuoted notTemplate notRound notSquare notBrace found isRead
    rw [readOperand] at isRead
    · cases isRead
    all_goals assumption
  -- Items.
  · intro waits found isRead
    obtain rfl := Option.some.inj isRead
    trivial
  · intro waits row rest ofRow ofRest found isRead
    rw [readItems] at isRead
    obtain ⟨item, items, isItem, isItems, rfl⟩ := exists_of_bind_cons isRead
    exact ⟨ofRow item isItem, ofRest items isItems⟩
  -- Members.
  · intro waits found isRead
    obtain rfl := Option.some.inj isRead
    trivial
  · intro waits name rest isNamed ofRest found isRead
    rw [readMembers, if_pos isNamed] at isRead
    obtain ⟨members, isMembers, rfl⟩ := Option.map_eq_some_iff.1 isRead
    exact ofRest members isMembers
  · intro waits name rest notNamed found isRead
    rw [readMembers, if_neg notNamed] at isRead
    cases isRead
  · intro waits name value rest ofValue ofRest found isRead
    rw [readMembers] at isRead
    obtain ⟨read, members, isValue, isMembers, rfl⟩ := exists_of_bind_cons isRead
    exact ⟨ofValue read isValue, ofRest members isMembers⟩
  · intro waits name value rest ofValue ofRest found isRead
    rw [readMembers] at isRead
    obtain ⟨read, members, isValue, isMembers, rfl⟩ := exists_of_bind_cons isRead
    exact ⟨ofValue read isValue, ofRest members isMembers⟩
  · intro rows waits notEmpty notShorthand notWord notQuoted found isRead
    rw [readMembers] at isRead
    · cases isRead
    all_goals assumption
  -- Statements.
  · intro waits found isRead
    obtain rfl := Option.some.inj isRead
    trivial
  · intro waits name value rest isNamed ofValue ofRest found isRead
    rw [readStatements, if_pos isNamed] at isRead
    obtain ⟨read, body, isValue, isBody, rfl⟩ := exists_of_bind_cons isRead
    exact ⟨ofValue read isValue, ofRest body isBody⟩
  · intro waits name value rest notNamed found isRead
    rw [readStatements, if_neg notNamed] at isRead
    cases isRead
  · intro waits value rest ofValue ofRest found isRead
    rw [readStatements] at isRead
    obtain ⟨read, body, isValue, isBody, rfl⟩ := exists_of_bind_cons isRead
    exact ⟨ofValue read isValue, ofRest body isBody⟩
  · intro waits rows behind rest found isRead
    rw [readStatements] at isRead
    cases isRead
  · intro waits value rest notConst notReturn notBrace ofValue ofRest found isRead
    rw [readStatements] at isRead
    · obtain ⟨read, body, isValue, isBody, rfl⟩ := exists_of_bind_cons isRead
      exact ⟨ofValue read isValue, ofRest body isBody⟩
    all_goals assumption
  -- Expressions.
  · intro functions waits parameters body behind allowed ofBody found isRead
    rw [readExpression, if_pos allowed] at isRead
    obtain ⟨binders, -, isRead⟩ := Option.bind_eq_some_iff.1 isRead
    obtain ⟨statements, isBody, rfl⟩ := Option.map_eq_some_iff.1 isRead
    exact ⟨trivial, ofBody statements isBody⟩
  · intro functions waits parameters body behind notAllowed found isRead
    rw [readExpression, if_neg notAllowed] at isRead
    cases isRead
  · intro functions waits parameters body behind allowed found isRead
    rw [readExpression, if_pos allowed] at isRead
    obtain ⟨binders, -, rfl⟩ := Option.map_eq_some_iff.1 isRead
    exact ⟨trivial, trivial⟩
  · intro functions waits parameters body behind notAllowed found isRead
    rw [readExpression, if_neg notAllowed] at isRead
    cases isRead
  · intro waits parameters rest notBlock notBrace ofRest found isRead
    rw [readExpression, if_pos rfl] at isRead
    · obtain ⟨binders, -, isRead⟩ := Option.bind_eq_some_iff.1 isRead
      obtain ⟨result, isResult, rfl⟩ := Option.map_eq_some_iff.1 isRead
      exact ⟨trivial, ofRest result isResult⟩
    all_goals assumption
  · intro functions waits parameters rest notBlock notBrace notAllowed found isRead
    rw [readExpression, if_neg notAllowed] at isRead
    · cases isRead
    all_goals assumption
  · intro functions rest ofRest found isRead
    rw [readExpression, if_pos rfl] at isRead
    obtain ⟨promise, isPromise, rfl⟩ := Option.map_eq_some_iff.1 isRead
    exact ⟨trivial, ofRest promise isPromise⟩
  · intro functions waits rest notAllowed found isRead
    rw [readExpression, if_neg notAllowed] at isRead
    cases isRead
  · intro functions waits tree rest notBlock notBrace notArrow notAwait ofTree ofRest found isRead
    rw [readExpression] at isRead
    · obtain ⟨operand, isOperand, isRead⟩ := Option.bind_eq_some_iff.1 isRead
      exact ofRest operand found (ofTree operand isOperand) isRead
    all_goals assumption
  · intro functions waits found isRead
    cases isRead
  -- Members and calls.
  · intro waits operand found tidy isRead
    obtain rfl := Option.some.inj isRead
    exact tidy
  · intro waits operand name rest ofRest found tidy isRead
    rw [readPostfix] at isRead
    exact ofRest found ⟨trivial, tidy⟩ isRead
  · intro waits operand types rows rest ofRows ofRest found tidy isRead
    rw [readPostfix] at isRead
    obtain ⟨names, -, isRead⟩ := Option.bind_eq_some_iff.1 isRead
    obtain ⟨arguments, areItems, isRead⟩ := Option.bind_eq_some_iff.1 isRead
    exact ofRest names arguments found ⟨trivial, tidy, ofRows arguments areItems⟩ isRead
  · intro waits operand rows rest ofRows ofRest found tidy isRead
    rw [readPostfix] at isRead
    obtain ⟨arguments, areItems, isRead⟩ := Option.bind_eq_some_iff.1 isRead
    exact ofRest arguments found ⟨trivial, tidy, ofRows arguments areItems⟩ isRead
  · intro trees waits operand notEmpty notMember notTyped notCall found tidy isRead
    rw [readPostfix] at isRead
    · cases isRead
    all_goals assumption

/-! ## The layout of objects -/

mutual

theorem tidy_of_unstyled : ∀ (expression : Expression),
    Everywhere IsTidy (unstyled expression) → Everywhere IsTidy expression
  | .name _, _ | .text _, _ | .code _, _ => trivial
  | .template _, tidy => tidy
  | .list items, tidy => ⟨trivial, tidyItems_of_unstyled items tidy.2⟩
  | .object _ members, tidy => ⟨trivial, tidyMembers_of_unstyled members tidy.2⟩
  | .member object _, tidy => ⟨trivial, tidy_of_unstyled object tidy.2⟩
  | .call function _ arguments, tidy =>
      ⟨trivial, tidy_of_unstyled function tidy.2.1, tidyItems_of_unstyled arguments tidy.2.2⟩
  | .arrow _ result, tidy => ⟨trivial, tidy_of_unstyled result tidy.2⟩
  | .function _ body, tidy => ⟨trivial, tidyStatements_of_unstyled body tidy.2⟩
  | .await promise, tidy => ⟨trivial, tidy_of_unstyled promise tidy.2⟩

theorem tidyItems_of_unstyled : ∀ (items : List Expression),
    EverywhereInItems IsTidy (unstyledItems items) → EverywhereInItems IsTidy items
  | [], _ => trivial
  | item :: rest, tidy => ⟨tidy_of_unstyled item tidy.1, tidyItems_of_unstyled rest tidy.2⟩

theorem tidyMembers_of_unstyled : ∀ (members : List (String × Option Expression)),
    EverywhereInMembers IsTidy (unstyledMembers members) → EverywhereInMembers IsTidy members
  | [], _ => trivial
  | (_, none) :: rest, tidy => tidyMembers_of_unstyled rest tidy
  | (_, some value) :: rest, tidy =>
      ⟨tidy_of_unstyled value tidy.1, tidyMembers_of_unstyled rest tidy.2⟩

theorem tidyStatements_of_unstyled : ∀ (body : List Statement),
    EverywhereInStatements IsTidy (unstyledStatements body) → EverywhereInStatements IsTidy body
  | [], _ => trivial
  | .constant _ value :: rest, tidy | .return value :: rest, tidy | .evaluate value :: rest, tidy =>
      ⟨tidy_of_unstyled value tidy.1, tidyStatements_of_unstyled rest tidy.2⟩

end

/-! ## Texts -/

/-- The grammar reads all of an expression for what it is, and its templates have one spelling. -/
structure IsReadable (expression : Expression) : Prop where
  legible : Everywhere IsLegible expression
  tidy : Everywhere IsTidy expression

section Texts

variable {expression other : Expression}

/-- Names are words, and the texts of tidy templates stay apart. -/
theorem isWritten_of_named (named : IsNamed expression) (tidy : IsTidy expression) :
    IsWritten expression := by
  have ofBinder : ∀ {parameter : Binder}, IsNamedBinder parameter → IsWrittenBinder parameter :=
    fun ofParameter => ⟨.word (isWord_of_isVariable ofParameter.name),
      fun type isType => .word (isWord_of_isTypeName (ofParameter.type type isType))⟩
  cases expression with
  | name name => exact isWord_of_isVariable named
  | text value => exact named
  | template parts => exact tidy.1.staysApart
  | list items => trivial
  | object style members =>
      rintro ⟨name, value⟩ member
      have ofMember := named _ member
      cases value with
      | none => exact onOneLine_of_isWord (isWord_of_isVariable ofMember)
      | some value => exact ofMember
  | member object property => exact named
  | call function types arguments =>
      exact fun type member => isWord_of_isTypeName (named type member)
  | arrow parameters result => exact fun parameter member => ofBinder (named parameter member)
  | function parameters body =>
      refine ⟨fun parameter member => ofBinder (named.1 parameter member), ?_⟩
      intro statement member
      have ofStatement := named.2 statement member
      cases statement with
      | constant name value => exact isWord_of_isVariable ofStatement
      | «return» value => trivial
      | evaluate value => trivial
  | await promise => trivial
  | code code => exact False.elim named

theorem read_render (named : Everywhere IsNamed expression) (tidy : Everywhere IsTidy expression)
    (level : Nat) :
    read (expression.render level) = readExpression true true (treesOf expression) := by
  have written := everywhere_of_both (fun _ => isWritten_of_named) expression named tidy
  rw [read, (writes_expression expression written level).writes.readTrees, Option.bind_some]

theorem read_render_iff (named : Everywhere IsNamed expression) (level : Nat) :
    read (expression.render level) = some (unstyled expression) ↔ IsReadable expression := by
  constructor
  · intro isRead
    obtain ⟨trees, -, found⟩ := Option.bind_eq_some_iff.1 isRead
    have tidy := tidy_of_unstyled expression (tidy_of_read.1 _ _ _ _ found)
    rw [read_render named tidy] at isRead
    exact ⟨((readExpression_iff expression named tidy true true).1 isRead).1, tidy⟩
  · intro readable
    rw [read_render named readable.tidy]
    exact (readExpression_iff expression named readable.tidy true true).2
      ⟨readable.legible, .inl rfl, .inl rfl⟩

/-- The text of an expression, at any level of nesting, is read as the expression itself, up to the
layout of its objects, exactly if it is readable. Two readable expressions with one text differ in
this layout at most. -/
theorem expression_reads_back_iff (named : Everywhere IsNamed expression)
    (otherNamed : Everywhere IsNamed other) (level otherLevel : Nat) :
    (read (expression.render level) = some (unstyled expression) ↔ IsReadable expression) ∧
      (IsReadable expression → IsReadable other →
        expression.render level = other.render otherLevel →
          unstyled expression = unstyled other) := by
  refine ⟨read_render_iff named level, fun readable otherReadable sameText => ?_⟩
  have isRead := (read_render_iff named level).2 readable
  rw [sameText, (read_render_iff otherNamed otherLevel).2 otherReadable] at isRead
  exact (Option.some.inj isRead).symm

end Texts

/-- A request whose parameters are laid out in some way. -/
def userRequest (style : ObjectStyle) : Expression :=
  .await (.call (.member (.name "axiosInstance") "get") ["User"]
    [.template [.plain "/users/", .substitution "id"],
      .object .lines [("params", some (.object style [])), ("signal", none)]])

theorem named_userRequest (style : ObjectStyle) : Everywhere IsNamed (userRequest style) := by
  have isClient : isVariable "axiosInstance".toList = true := by decide
  have isMethod : isWord "get".toList = true := by decide
  have areTypes : ∀ type ∈ ["User"], isTypeName type.toList = true := by decide
  have substitutes : substitutesNames [.plain "/users/", .substitution "id"] = true := by decide
  have onOneLine : Script.OnOneLine "params".toList := by decide
  have isSignal : isVariable "signal".toList = true := by decide
  have keys : ∀ member ∈ [("params", some (.object style [])), ("signal", none)],
      IsNamedMember member := by
    simpa using ⟨onOneLine, isSignal⟩
  have noKeys : IsNamed (.object style []) := fun _ member => nomatch member
  exact ⟨trivial, areTypes, ⟨isMethod, isClient⟩, substitutes, ⟨keys, ⟨noKeys, trivial⟩, trivial⟩,
    trivial⟩

theorem readable_userRequest (style : ObjectStyle) : IsReadable (userRequest style) := by
  have isSignal : Script.isPlainName "signal".toList = true := by decide
  have keys : ∀ member ∈ [("params", some (.object style [])), ("signal", none)],
      IsLegibleMember member := by
    simpa using ⟨trivial, isSignal⟩
  have noKeys : IsLegible (.object style []) := fun _ member => nomatch member
  have tidy : IsTidy (.template [.plain "/users/", .substitution "id"]) :=
    ⟨.plain (by decide) (.substitution (by decide) .nil), by simp⟩
  exact ⟨⟨rfl, rfl, ⟨rfl, trivial⟩, trivial, ⟨keys, ⟨noKeys, trivial⟩, trivial⟩, trivial⟩,
    ⟨trivial, trivial, ⟨trivial, trivial⟩, tidy, ⟨trivial, ⟨trivial, trivial⟩, trivial⟩, trivial⟩⟩

theorem userRequest_reads_back :
    read ((userRequest .lines).render 1) = some (unstyled (userRequest .lines)) ∧
      (userRequest .lines).render 1 = (userRequest .inline).render 1 ∧
      unstyled (userRequest .lines) = unstyled (userRequest .inline) := by
  have sameText : (userRequest .lines).render 1 = (userRequest .inline).render 1 := by
    simp only [userRequest, Expression.render, Script.renderItems, Script.renderMembers]
  have both := expression_reads_back_iff (named_userRequest .lines) (named_userRequest .inline) 1 1
  have readable := readable_userRequest .lines
  exact ⟨both.1.2 readable, sameText, both.2 readable (readable_userRequest .inline) sameText⟩

/-- Nothing is put in parentheses, so that the member of what was waited for has the text of a wait
for a member, and is read as this; with parentheses, it would be read as what it is. Two texts of a
template run together. What an arrow waits for cannot be read at all, and a carriage return in a
template is read as a line feed. -/
theorem different_trees_print_alike :
    let awaited : Expression := .member (.await (.name "response")) "data"
    let member : Expression := .await (.member (.name "response") "data")
    let apart : Expression := .template [.plain "user", .plain "s"]
    let together : Expression := .template [.plain "users"]
    let waiting : Expression := .arrow [] (.await (.name "response"))
    let returning : Expression := .template [.plain "a\rb"]
    (Everywhere IsNamed awaited ∧ awaited.render 0 = "await response.data" ∧
      member.render 0 = awaited.render 0 ∧ read (awaited.render 0) = some member ∧
      unstyled awaited ≠ unstyled member ∧ read "(await response).data" = some awaited) ∧
    (Everywhere IsNamed apart ∧ apart.render 0 = together.render 0 ∧
      read (apart.render 0) = some together ∧ unstyled apart ≠ unstyled together) ∧
    (Everywhere IsNamed waiting ∧ waiting.render 0 = "() => await response" ∧
      read (waiting.render 0) = none) ∧
    Everywhere IsNamed returning ∧
      read (returning.render 0) = some (.template [.plain "a\nb"]) := by
  intro awaited member apart together waiting returning
  have isVariable : isVariable "response".toList = true := by decide
  have isProperty : isWord "data".toList = true := by decide
  have sameText : member.render 0 = awaited.render 0 := by
    simp only [member, awaited, Expression.render, String.append_assoc]
  have namedMember : Everywhere IsNamed member := ⟨trivial, isProperty, isVariable⟩
  have readMember : read (member.render 0) = some (unstyled member) :=
    (read_render_iff namedMember 0).2 ⟨⟨rfl, rfl, trivial⟩, trivial, trivial, trivial⟩
  have sameTemplate : apart.render 0 = together.render 0 := by decide
  have tidyTogether : IsTidy together := ⟨.last (by decide), by simp⟩
  have namedTogether : Everywhere IsNamed together := rfl
  have readTogether : read (together.render 0) = some (unstyled together) :=
    (read_render_iff namedTogether 0).2 ⟨trivial, tidyTogether⟩
  have trees : readTrees "(await response).data" =
      some [.group .round [[.token (.word "await"), .token (.word "response")]], .token .dot,
        .token (.word "data")] := rfl
  have waitingText : waiting.render 0 = "() => await response" := by decide
  have waitingTrees : readTrees "() => await response" =
      some [.group .round [], .token .arrow, .token (.word "await"), .token (.word "response")] :=
    rfl
  have returningText : returning.render 0 = "\x60a\rb\x60" := by decide
  have returningTrees : readTrees "\x60a\rb\x60" =
      some [.token (.template [] ['a', '\r', 'b'])] := rfl
  refine ⟨⟨⟨isProperty, trivial, isVariable⟩, rfl, sameText, ?_, nofun, ?_⟩,
    ⟨rfl, sameTemplate, ?_, ?_⟩, ⟨⟨nofun, trivial, isVariable⟩, waitingText, ?_⟩, rfl, ?_⟩
  · rw [← sameText]
    exact readMember
  · rw [read, trees]
    rfl
  · rw [sameTemplate]
    exact readTogether
  · simp [apart, together, unstyled]
  · rw [waitingText, read, waitingTrees]
    rfl
  · rw [returningText, read, returningTrees]
    rfl

end TypedClient.ScriptText
