import TypedClient.Proofs.TypeText.Reading
import TypedClient.Proofs.TypeText.Spelling

/-!
Contract: the texts of the types that generated code writes by hand.

Owns:
- `Denotes`, that a text is the text of a type;
- one rule for each form that the type of an argument has: a word, the type of an argument of a
  function, and an object with a member for each of several arguments.

Does not own: the texts of shapes.
-/

namespace TypedClient.TypeText

theorem isWord_toString (number : Nat) : IsWord (toString number).toList := by
  apply isWord_of_isName
  refine ⟨?_, Script.inName_toString number⟩
  rw [Nat.toString_eq_repr, Nat.toList_repr]
  exact Nat.toDigits_ne_nil

/-! ## What follows an operand -/

theorem Layout.operand?_extend_singleton (layout : Layout) (type : TypeExpression) :
    (layout.extend [[type]]).operand? = some type := by
  rcases List.eq_nil_or_concat layout with rfl | ⟨earlier, factors, rfl⟩
  · rfl
  · rw [List.concat_eq_append, extend_concat]
    simp [operand?, extend]

/-- What is read behind an operand changes this operand alone. -/
theorem State.change_read (change : TypeExpression → TypeExpression) (type : TypeExpression)
    (frame : Frame) (outer : List Frame) :
    State.change change (frame.read [[type]] :: outer) =
      some ⟨.operator, frame.read [[change type]] :: outer⟩ := by
  obtain ⟨slot, layout⟩ := frame
  rcases List.eq_nil_or_concat layout with rfl | ⟨earlier, factors, rfl⟩
  · rfl
  · rw [List.concat_eq_append, State.change, Frame.read, Frame.read, Layout.extend_concat,
      Layout.extend_concat, Layout.extend, Layout.extend, Layout.onOperand_concat]

/-- The type of the argument of a function at an index. -/
theorem Reads.parameter (function index : String) :
    Reads [.word "Parameters", .openAngle, .word "typeof", .word function, .closeAngle,
        .openBracket, .word index, .closeBracket]
      [[.element (.application "Parameters" [.typeOf function]) index]] where
  isComplete := .singleton (by simp [TypeExpression.IsFlat, TypeExpression.leaves])
  run := by
    intro frame outer
    have opened : State.step ⟨.operator, frame.read [[.word "Parameters"]] :: outer⟩ .openAngle =
        some ⟨.operand,
          { slot := .argument "Parameters" [] } :: frame.read [[.word "Parameters"]] :: outer⟩ := by
      rw [State.step, State.stepOperator, Frame.read, Layout.operand?_extend_singleton]
    have applied : State.run ⟨.operand,
          { slot := .argument "Parameters" [] } :: frame.read [[.word "Parameters"]] :: outer⟩
        [.word "typeof", .word function, .closeAngle] =
          some ⟨.operator, frame.read [[.application "Parameters" [.typeOf function]]] :: outer⟩ :=
      State.change_read (fun _ => .application "Parameters" [.typeOf function])
        (.word "Parameters") frame outer
    have indexed : State.run ⟨.operator,
          frame.read [[.application "Parameters" [.typeOf function]]] :: outer⟩
        [.openBracket, .word index, .closeBracket] = _ :=
      State.change_read (.element · index) (.application "Parameters" [.typeOf function]) frame
        outer
    change (State.step ⟨.operator, frame.read [[.word "Parameters"]] :: outer⟩ .openAngle).bind
      (State.run · ([.word "typeof", .word function, .closeAngle] ++
        [.openBracket, .word index, .closeBracket])) = _
    rw [opened, Option.bind_some, State.run_append, applied, Option.bind_some, indexed]

/-! ## Texts of types -/

/-- A text is the text of a type. -/
def Denotes (text : String) (type : TypeExpression) : Prop :=
  ∃ tokens layout, Writes text tokens ∧ (∀ word, .word word ∈ tokens → IsWord word.toList) ∧
    Reads tokens layout ∧ layout.closed = type

/-- The type of a text; none if the text is no type. -/
def readText (text : String) : Option TypeExpression := (scan text).bind readType

theorem scan_of_isWord {word : String} (isWord : IsWord word.toList) :
    scan word = some [.word word] := by
  apply (Writes.word word).spelled.scan
  intro other member
  rw [List.mem_singleton, Token.word.injEq] at member
  rwa [member]

namespace Denotes

variable {text : String} {type : TypeExpression}

theorem readText (denotes : Denotes text type) : TypeText.readText text = some type := by
  obtain ⟨tokens, layout, writes, words, reads, rfl⟩ := denotes
  rw [TypeText.readText, scan, writes.spelled.scan words, Option.bind_some, reads.readType]

theorem word (isWord : IsWord text.toList) : Denotes text (.word text) := by
  refine ⟨[.word text], [[.word text]], .word text, ?_, .word text, ?_⟩
  · intro word member
    rw [List.mem_singleton, Token.word.injEq] at member
    rwa [member]
  · exact Layout.closed_singleton (by simp)

theorem parameter {function : String} (isWord : IsWord function.toList) (index : Nat) :
    Denotes ("Parameters<typeof " ++ function ++ ">[" ++ toString index ++ "]")
      (.element (.application "Parameters" [.typeOf function]) (toString index)) := by
  have applied : Exact ("Parameters" ++ "<") [.word "Parameters", .openAngle] :=
    .word _ (.of_head rfl) (.of_marks rfl rfl)
  have typeOf : Exact ("typeof" ++ " ") [.word "typeof"] :=
    .word _ (.of_head rfl) (.of_marks rfl rfl)
  have ofFunction : Exact (function ++ ">[") [.word function, .closeAngle, .openBracket] :=
    .word _ (.of_head rfl) (.of_marks rfl rfl)
  have ofIndex : Exact (toString index ++ "]") [.word (toString index), .closeBracket] :=
    .word _ (.of_head rfl) (.of_marks rfl rfl)
  have whole := ((applied.append typeOf).append ofFunction).append ofIndex
  have sameText : "Parameters" ++ "<" ++ ("typeof" ++ " ") ++ (function ++ ">[") ++
      (toString index ++ "]") =
        "Parameters<typeof " ++ function ++ ">[" ++ toString index ++ "]" := by
    simp only [← String.append_assoc]
    rfl
  rw [sameText] at whole
  refine ⟨_, _, whole.writes, ?_, .parameter function (toString index), ?_⟩
  · intro word member
    have found : word = "Parameters" ∨ word = "typeof" ∨ word = function ∨
        word = toString index := by simpa using member
    rcases found with rfl | rfl | rfl | rfl
    · exact isWord_of_isPlainName (by decide)
    · exact isWord_of_isPlainName (by decide)
    · exact isWord
    · exact isWord_toString index
  · exact Layout.closed_singleton (by simp [TypeExpression.IsFlat, TypeExpression.leaves])

/-- The members of an object between semicolons. -/
theorem object {α : Type} {items : List α} {nameOf textOf : α → String}
    {typeOf : α → TypeExpression} (nonempty : items ≠ [])
    (keys : ∀ item ∈ items, IsWord (nameOf item).toList)
    (types : ∀ item ∈ items, Denotes (textOf item) (typeOf item)) :
    Denotes ("\x7b " ++
      "; ".intercalate (items.map (fun item => nameOf item ++ ": " ++ textOf item)) ++ " \x7d")
      (.object (items.map (fun item => (.property (nameOf item) false, typeOf item)))) := by
  choose! tokensOf layoutOf writes words reads denoted using types
  have ofMember : ∀ item ∈ items, Writes (nameOf item ++ ": " ++ textOf item)
      (.word (nameOf item) :: .colon :: tokensOf item) := by
    intro item member
    have ofKey : Exact (nameOf item ++ ": ") [.word (nameOf item), .colon] :=
      .word _ (.of_head rfl) (.of_marks rfl rfl)
    exact ofKey.append_writes (writes item member)
  have inside := Writes.intercalate (.of_marks rfl rfl : Exact "; " [.semicolon]) (.of_head rfl)
    nonempty ofMember
  have opened : Exact "\x7b " [.openBrace] := .of_marks rfl rfl
  have whole := (opened.append_writes inside).append_exact (.of_head rfl)
    (.of_marks rfl rfl : Exact " \x7d" [.closeBrace])
  have readsKey : ∀ name earlier frames, State.run ⟨.members earlier, frames⟩
      [.word name, .colon] = some (State.stepMember earlier (.property name false) frames) :=
    fun _ _ _ => rfl
  have readsMember : ∀ item ∈ items, ReadsMember (.word (nameOf item) :: .colon :: tokensOf item)
      (.property (nameOf item) false, typeOf item) := by
    intro item member
    rw [← denoted item member]
    exact .of_key (readsKey (nameOf item)) (reads item member)
  refine ⟨_, _, whole.writes, ?_, .object_separated (Or.inl rfl) readsMember, ?_⟩
  · intro word member
    rw [List.mem_append, List.mem_append] at member
    have inMembers := (member.resolve_right (by simp)).resolve_left (by simp)
    obtain isSemicolon | ⟨part, isPart, inPart⟩ := Text.mem_intercalate inMembers
    · cases isSemicolon
    · obtain ⟨item, isItem, rfl⟩ := List.mem_map.1 isPart
      rcases List.mem_cons.1 inPart with isKey | behind
      · cases isKey
        exact keys item isItem
      · exact words item isItem word (by simpa using behind)
  · exact Layout.closed_singleton (by simp)

end Denotes

end TypedClient.TypeText
