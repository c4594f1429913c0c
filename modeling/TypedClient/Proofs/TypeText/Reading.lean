import Mathlib.Data.List.Induction
import TypedClient.Proofs.TypeText.Layout
import TypedClient.Proofs.TypeText.Token

/-!
Contract: reading a type expression from its tokens.

Owns:
- `State.step`, what one token does: `[]` applies to the last operand alone, a bar ends an
  alternative, and what stands in parentheses is one operand;
- `readType`, the type of a row of tokens;
- `Reads`, that some tokens are read as a layout wherever an operand may stand, with one rule for
  each way in which tokens are put together.

Does not own: which tokens a shape is written with.
-/

namespace TypedClient.TypeText

/-- What the operands in a bracket are for, with what was read of the same bracket before. -/
inductive Slot where
  | whole
  | group
  | tuple (earlier : List TypeExpression)
  | argument (name : String) (earlier : List TypeExpression)
  | member (earlier : List (MemberKey × TypeExpression)) (key : MemberKey)

/-- An open bracket: the last alternative of its layout still grows. -/
structure Frame where
  slot : Slot
  layout : Layout := [[]]

/-- What is read next. -/
inductive Focus where
  | operand
  /-- What stands behind an operand. -/
  | operator
  /-- What stands behind an operand and an opening bracket. -/
  | bracket
  | element (index : String)
  | members (earlier : List (MemberKey × TypeExpression))
  | key (earlier : List (MemberKey × TypeExpression)) (name : String) (isOptional : Bool)
  | signature (earlier : List (MemberKey × TypeExpression)) (seen : List Token)

/-- Where the reader is, with the brackets that are open, the innermost first. -/
structure State where
  focus : Focus
  frames : List Frame

def Frame.read (frame : Frame) (layout : Layout) : Frame :=
  { frame with layout := frame.layout.extend layout }

namespace State

/-- An operand read in the innermost bracket. -/
def put (type : TypeExpression) : List Frame → Option State
  | frame :: outer => some ⟨.operator, frame.read [[type]] :: outer⟩
  | [] => none

/-- The last operand changed. -/
def change (change : TypeExpression → TypeExpression) : List Frame → Option State
  | frame :: outer =>
      some ⟨.operator, { frame with layout := frame.layout.onOperand change } :: outer⟩
  | [] => none

def stepOperand (frames : List Frame) : Token → Option State
  | .word text => put (.word text) frames
  | .quoted value => put (.quoted value) frames
  | .openGroup => some ⟨.operand, { slot := .group } :: frames⟩
  | .openBracket => some ⟨.operand, { slot := .tuple [] } :: frames⟩
  | .openBrace => some ⟨.members [], frames⟩
  | .closeBracket =>
      match frames with
      | ⟨.tuple [], [[]]⟩ :: outer => put (.tuple []) outer
      | _ => none
  | _ => none

/-- The end of what a bracket holds, or of one item of it. -/
def stepSlot (outer : List Frame) (type : TypeExpression) : Slot → Token → Option State
  | .group, .closeGroup => put type outer
  | .tuple earlier, .comma => some ⟨.operand, { slot := .tuple (earlier ++ [type]) } :: outer⟩
  | .tuple earlier, .closeBracket => put (.tuple (earlier ++ [type])) outer
  | .argument name earlier, .comma =>
      some ⟨.operand, { slot := .argument name (earlier ++ [type]) } :: outer⟩
  | .argument name earlier, .closeAngle =>
      change (fun _ => .application name (earlier ++ [type])) outer
  | .member earlier key, .semicolon => some ⟨.members (earlier ++ [(key, type)]), outer⟩
  | .member earlier key, .comma => some ⟨.members (earlier ++ [(key, type)]), outer⟩
  | .member earlier key, .closeBrace => put (.object (earlier ++ [(key, type)])) outer
  | _, _ => none

def stepOperator (frame : Frame) (outer : List Frame) : Token → Option State
  | .bar => some ⟨.operand, { frame with layout := frame.layout ++ [[]] } :: outer⟩
  | .ampersand => some ⟨.operand, frame :: outer⟩
  | .openBracket => some ⟨.bracket, frame :: outer⟩
  | .openAngle =>
      match frame.layout.operand? with
      | some (.word name) => some ⟨.operand, { slot := .argument name [] } :: frame :: outer⟩
      | _ => none
  | .word value =>
      match frame.layout.operand? with
      | some (.word "typeof") => change (fun _ => .typeOf value) (frame :: outer)
      | _ => none
  | token => stepSlot outer frame.layout.closed frame.slot token

def stepMembers (earlier : List (MemberKey × TypeExpression)) (frames : List Frame) :
    Token → Option State
  | .word name => some ⟨.key earlier name false, frames⟩
  | .quoted name => some ⟨.key earlier name false, frames⟩
  | .openBracket => some ⟨.signature earlier [], frames⟩
  | .closeBrace => put (.object earlier) frames
  | _ => none

/-- The member of an object whose key has just been read. -/
def stepMember (earlier : List (MemberKey × TypeExpression)) (key : MemberKey)
    (frames : List Frame) : State :=
  ⟨.operand, { slot := .member earlier key } :: frames⟩

def stepSignature (earlier : List (MemberKey × TypeExpression)) (frames : List Frame) :
    List Token → Token → Option State
  | [], .word name => some ⟨.signature earlier [.word name], frames⟩
  | [.word name], .colon => some ⟨.signature earlier [.word name, .colon], frames⟩
  | [.word name, .colon], .word keyType =>
      some ⟨.signature earlier [.word name, .colon, .word keyType], frames⟩
  | [.word name, .colon, .word keyType], .closeBracket =>
      some ⟨.signature earlier [.word name, .colon, .word keyType, .closeBracket], frames⟩
  | [.word _, .colon, .word keyType, .closeBracket], .colon =>
      some (stepMember earlier (.others keyType) frames)
  | _, _ => none

def step : State → Token → Option State
  | ⟨.operand, frames⟩, token => stepOperand frames token
  | ⟨.operator, frame :: outer⟩, token => stepOperator frame outer token
  | ⟨.bracket, frames⟩, .closeBracket => change .array frames
  | ⟨.bracket, frames⟩, .word index => some ⟨.element index, frames⟩
  | ⟨.element index, frames⟩, .closeBracket => change (.element · index) frames
  | ⟨.members earlier, frames⟩, token => stepMembers earlier frames token
  | ⟨.key earlier name false, frames⟩, .question => some ⟨.key earlier name true, frames⟩
  | ⟨.key earlier name isOptional, frames⟩, .colon =>
      some (stepMember earlier (.property name isOptional) frames)
  | ⟨.signature earlier seen, frames⟩, token => stepSignature earlier frames seen token
  | _, _ => none

def run (state : State) (tokens : List Token) : Option State := tokens.foldlM step state

def finish : State → Option TypeExpression
  | ⟨.operator, [⟨.whole, layout⟩]⟩ => some layout.closed
  | _ => none

end State

/-- The type that a row of tokens is. -/
def readType (tokens : List Token) : Option TypeExpression :=
  (State.run ⟨.operand, [{ slot := .whole }]⟩ tokens).bind State.finish

/-- Wherever an operand may stand, some tokens are read as the operands of a layout. -/
structure Reads (tokens : List Token) (layout : Layout) : Prop where
  isComplete : layout.IsComplete
  run : ∀ (frame : Frame) (outer : List Frame),
    State.run ⟨.operand, frame :: outer⟩ tokens = some ⟨.operator, frame.read layout :: outer⟩

namespace State

variable {state next : State} {token : Token} {tokens rest : List Token}

@[simp] theorem run_nil (state : State) : run state [] = some state := rfl

@[simp] theorem run_cons (state : State) (token : Token) (rest : List Token) :
    run state (token :: rest) = (step state token).bind (run · rest) := rfl

theorem run_append (state : State) (first second : List Token) :
    run state (first ++ second) = (run state first).bind (run · second) :=
  List.foldlM_append

end State

namespace Reads

open State

variable {tokens first second : List Token} {layout more : Layout}

theorem readType (reads : Reads tokens layout) :
    TypeText.readType tokens = some layout.closed := by
  rw [TypeText.readType, reads.run, Option.bind_some, Frame.read,
    Layout.extend_nil_singleton reads.isComplete.nonempty]
  rfl

theorem word (text : String) : Reads [.word text] [[.word text]] where
  isComplete := .singleton (by simp)
  run := fun _ _ => rfl

theorem quoted (value : String) : Reads [.quoted value] [[.quoted value]] where
  isComplete := .singleton (by simp)
  run := fun _ _ => rfl

/-- What stands in parentheses is one operand. -/
theorem group (reads : Reads tokens layout) :
    Reads (.openGroup :: tokens ++ [.closeGroup]) [[layout.closed]] where
  isComplete := .singleton reads.isComplete.isFlat_closed
  run := by
    intro frame outer
    have opened : step ⟨.operand, frame :: outer⟩ .openGroup =
        some ⟨.operand, { slot := .group } :: frame :: outer⟩ := rfl
    rw [List.cons_append, run_cons, opened, Option.bind_some, run_append, reads.run, Frame.read,
      Layout.extend_nil_singleton reads.isComplete.nonempty]
    rfl

/-- Brackets behind some operands apply to the last one. -/
theorem array (reads : Reads tokens layout) :
    Reads (tokens ++ [.openBracket, .closeBracket]) (layout.onOperand .array) where
  isComplete := reads.isComplete.onOperand (fun _ flat => flat)
  run := by
    intro frame outer
    rw [run_append, reads.run, Frame.read, Frame.read,
      ← Layout.extend_onOperand _ _ reads.isComplete]
    rfl

/-- A bar lies between alternatives. -/
theorem bar (ofFirst : Reads first layout) (ofSecond : Reads second more) :
    Reads (first ++ .bar :: second) (layout ++ more) where
  isComplete := ofFirst.isComplete.append ofSecond.isComplete
  run := by
    intro frame outer
    have atBar : step ⟨.operator, frame.read layout :: outer⟩ .bar =
        some ⟨.operand, { frame with layout := frame.layout.extend layout ++ [[]] } :: outer⟩ := rfl
    rw [run_append, ofFirst.run, Option.bind_some, run_cons, atBar, Option.bind_some,
      ofSecond.run, Frame.read, Layout.extend_bar _ ofSecond.isComplete.nonempty, Frame.read,
      Layout.extend_append _ _ ofFirst.isComplete.nonempty]

/-- An ampersand lies between factors of one alternative. -/
theorem ampersand (ofFirst : Reads first layout) (ofSecond : Reads second more) :
    Reads (first ++ .ampersand :: second) (layout.extend more) where
  isComplete := ofFirst.isComplete.extend ofSecond.isComplete
  run := by
    intro frame outer
    have atAmpersand : step ⟨.operator, frame.read layout :: outer⟩ .ampersand =
        some ⟨.operand, frame.read layout :: outer⟩ := rfl
    rw [run_append, ofFirst.run, Option.bind_some, run_cons, atAmpersand, Option.bind_some,
      ofSecond.run, Frame.read, Frame.read,
      Layout.extend_assoc _ _ ofFirst.isComplete.nonempty]
    rfl

/-! ## Rows of operands -/

variable {α : Type} {items : List α} {tokensOf : α → List Token} {layoutOf : α → Layout}

theorem intercalate_cons_map (separator : Token) (item : α) (nonempty : items ≠ []) :
    [separator].intercalate ((item :: items).map tokensOf) =
      tokensOf item ++ separator :: [separator].intercalate (items.map tokensOf) := by
  obtain ⟨next, rest, rfl⟩ := List.exists_cons_of_ne_nil nonempty
  rw [List.map_cons, List.map_cons, List.intercalate_cons_cons]
  simp

theorem bars (nonempty : items ≠ [])
    (ofItems : ∀ item ∈ items, Reads (tokensOf item) (layoutOf item)) :
    Reads ([.bar].intercalate (items.map tokensOf)) (items.flatMap layoutOf) := by
  induction items, nonempty using List.recNeNil with
  | singleton item => simpa using ofItems
  | cons item rest several inductionHypothesis =>
      rw [List.forall_mem_cons] at ofItems
      rw [intercalate_cons_map _ _ several, List.flatMap_cons]
      exact ofItems.1.bar (inductionHypothesis ofItems.2)

theorem ampersands (nonempty : items ≠ [])
    (ofItems : ∀ item ∈ items, Reads (tokensOf item) (layoutOf item)) :
    Reads ([.ampersand].intercalate (items.map tokensOf))
      ((items.map layoutOf).foldr Layout.extend []) := by
  induction items, nonempty using List.recNeNil with
  | singleton item => simpa [Layout.extend_nil] using ofItems
  | cons item rest several inductionHypothesis =>
      rw [List.forall_mem_cons] at ofItems
      rw [intercalate_cons_map _ _ several, List.map_cons, List.foldr_cons]
      exact ofItems.1.ampersand (inductionHypothesis ofItems.2)

/-! ## Tuples -/

theorem run_items (nonempty : items ≠ [])
    (ofItems : ∀ item ∈ items, Reads (tokensOf item) (layoutOf item))
    (earlier : List TypeExpression) (outer : List Frame) :
    (State.run ⟨.operand, { slot := .tuple earlier } :: outer⟩
        ([.comma].intercalate (items.map tokensOf) ++ [.closeBracket])) =
      put (.tuple (earlier ++ items.map (fun item => (layoutOf item).closed))) outer := by
  have readsItem : ∀ item ∈ items, ∀ earlier : List TypeExpression,
      State.run ⟨.operand, { slot := .tuple earlier } :: outer⟩ (tokensOf item) =
        some ⟨.operator, ⟨.tuple earlier, layoutOf item⟩ :: outer⟩ := by
    intro item member earlier
    rw [(ofItems item member).run, Frame.read,
      Layout.extend_nil_singleton (ofItems item member).isComplete.nonempty]
  clear ofItems
  induction items, nonempty using List.recNeNil generalizing earlier with
  | singleton item =>
      rw [List.map_singleton, List.intercalate_singleton, run_append,
        readsItem item List.mem_cons_self, Option.bind_some]
      exact Option.bind_fun_some _
  | cons item rest several inductionHypothesis =>
      rw [List.forall_mem_cons] at readsItem
      have next := inductionHypothesis (earlier ++ [(layoutOf item).closed]) readsItem.2
      rw [List.append_assoc] at next
      rw [intercalate_cons_map _ _ several, List.append_assoc, run_append, readsItem.1,
        Option.bind_some, List.cons_append, run_cons]
      exact next

theorem tuple (ofItems : ∀ item ∈ items, Reads (tokensOf item) (layoutOf item)) :
    Reads (.openBracket :: [.comma].intercalate (items.map tokensOf) ++ [.closeBracket])
      [[.tuple (items.map (fun item => (layoutOf item).closed))]] where
  isComplete := .singleton (by simp)
  run := by
    intro frame outer
    cases isEmpty : items.isEmpty with
    | true =>
        rw [List.isEmpty_iff.1 isEmpty]
        rfl
    | false => exact run_items (by simpa using isEmpty) ofItems [] (frame :: outer)

end Reads

/-! ## Objects -/

/-- Behind an opening brace or a separator, some tokens are read as a member. -/
def ReadsMember (tokens : List Token) (member : MemberKey × TypeExpression) : Prop :=
  ∃ layout, member.2 = layout.closed ∧
    ∀ (earlier : List (MemberKey × TypeExpression)) (frames : List Frame),
      State.run ⟨.members earlier, frames⟩ tokens =
        some ⟨.operator, ⟨.member earlier member.1, layout⟩ :: frames⟩

namespace ReadsMember

open State

variable {tokens : List Token} {layout : Layout} {α : Type} {items : List α}
  {tokensOf : α → List Token} {memberOf : α → MemberKey × TypeExpression}

/-- A member is read once its key is. -/
theorem of_key {ofKey : List Token} {key : MemberKey}
    (readsKey : ∀ earlier frames,
      State.run ⟨.members earlier, frames⟩ ofKey = some (stepMember earlier key frames))
    (reads : Reads tokens layout) : ReadsMember (ofKey ++ tokens) (key, layout.closed) := by
  refine ⟨layout, rfl, fun earlier frames => ?_⟩
  rw [run_append, readsKey, Option.bind_some, stepMember, reads.run, Frame.read,
    Layout.extend_nil_singleton reads.isComplete.nonempty]

variable {member : MemberKey × TypeExpression}

theorem run_ended (reads : ReadsMember tokens member) {separator : Token}
    (ends : separator = .semicolon ∨ separator = .comma)
    (earlier : List (MemberKey × TypeExpression)) (frames : List Frame) :
    State.run ⟨.members earlier, frames⟩ (tokens ++ [separator]) =
      some ⟨.members (earlier ++ [member]), frames⟩ := by
  obtain ⟨key, type⟩ := member
  obtain ⟨layout, rfl, readsAll⟩ := reads
  rw [run_append, readsAll]
  rcases ends with rfl | rfl <;> rfl

theorem run_closed (reads : ReadsMember tokens member)
    (earlier : List (MemberKey × TypeExpression)) (frames : List Frame) :
    State.run ⟨.members earlier, frames⟩ (tokens ++ [.closeBrace]) =
      put (.object (earlier ++ [member])) frames := by
  obtain ⟨key, type⟩ := member
  obtain ⟨layout, rfl, readsAll⟩ := reads
  rw [run_append, readsAll]
  exact Option.bind_fun_some _

/-- Members that each end with a semicolon. -/
theorem run_terminated (ofItems : ∀ item ∈ items, ReadsMember (tokensOf item) (memberOf item))
    (earlier : List (MemberKey × TypeExpression)) (frames : List Frame) :
    State.run ⟨.members earlier, frames⟩
        (items.flatMap (fun item => tokensOf item ++ [.semicolon])) =
      some ⟨.members (earlier ++ items.map memberOf), frames⟩ := by
  induction items generalizing earlier with
  | nil => simp
  | cons item rest inductionHypothesis =>
      rw [List.forall_mem_cons] at ofItems
      rw [List.flatMap_cons, run_append, ofItems.1.run_ended (Or.inl rfl), Option.bind_some,
        inductionHypothesis ofItems.2, List.append_assoc]
      rfl

/-- Members between semicolons, or between commas. -/
theorem run_separated {separator : Token} (ends : separator = .semicolon ∨ separator = .comma)
    (nonempty : items ≠ [])
    (ofItems : ∀ item ∈ items, ReadsMember (tokensOf item) (memberOf item))
    (earlier : List (MemberKey × TypeExpression)) (frames : List Frame) :
    State.run ⟨.members earlier, frames⟩
        ([separator].intercalate (items.map tokensOf) ++ [.closeBrace]) =
      put (.object (earlier ++ items.map memberOf)) frames := by
  induction items, nonempty using List.recNeNil generalizing earlier with
  | singleton item =>
      rw [List.map_singleton, List.intercalate_singleton]
      exact (ofItems item List.mem_cons_self).run_closed earlier frames
  | cons item rest several inductionHypothesis =>
      rw [List.forall_mem_cons] at ofItems
      have next := inductionHypothesis ofItems.2 (earlier ++ [memberOf item])
      rw [List.append_assoc] at next
      rw [Reads.intercalate_cons_map _ _ several, List.append_cons (tokensOf item),
        List.append_assoc (tokensOf item ++ [separator]), run_append,
        ofItems.1.run_ended ends, Option.bind_some]
      exact next

end ReadsMember

namespace Reads

open State

variable {α : Type} {items : List α} {tokensOf : α → List Token}
  {memberOf : α → MemberKey × TypeExpression}

theorem object_terminated (ofItems : ∀ item ∈ items, ReadsMember (tokensOf item) (memberOf item)) :
    Reads (.openBrace :: items.flatMap (fun item => tokensOf item ++ [.semicolon]) ++ [.closeBrace])
      [[.object (items.map memberOf)]] where
  isComplete := .singleton (by simp)
  run := by
    intro frame outer
    have opened : step ⟨.operand, frame :: outer⟩ .openBrace =
        some ⟨.members [], frame :: outer⟩ := rfl
    rw [List.cons_append, run_cons, opened, Option.bind_some, run_append,
      ReadsMember.run_terminated ofItems]
    rfl

theorem object_separated {separator : Token}
    (ends : separator = .semicolon ∨ separator = .comma)
    (ofItems : ∀ item ∈ items, ReadsMember (tokensOf item) (memberOf item)) :
    Reads (.openBrace :: [separator].intercalate (items.map tokensOf) ++ [.closeBrace])
      [[.object (items.map memberOf)]] where
  isComplete := .singleton (by simp)
  run := by
    intro frame outer
    cases isEmpty : items.isEmpty with
    | true =>
        rw [List.isEmpty_iff.1 isEmpty]
        rfl
    | false =>
        exact ReadsMember.run_separated ends (by simpa using isEmpty) ofItems [] (frame :: outer)

end Reads

end TypedClient.TypeText
