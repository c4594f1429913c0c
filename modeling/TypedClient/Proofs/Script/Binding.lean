import TypedClient.Proofs.Script.Request
import TypedClient.Proofs.TypeText.Denotation

/-!
Contract: the values that generated functions pass on.

Owns:
- `Pattern`, a parameter as it is read: a name, or the fields that it takes out of a record;
- `bindAll`, the variables that parameters make of the values a function is called with;
- `Function.passesOn`, what a function is called with when what another one handed on is called.

Does not own: which functions are generated.
-/

namespace TypedClient.Script

open TypeText (Token IsWord Writes Exact Opens scan)

/-- A parameter as it is read. -/
inductive Pattern where
  | plain (name : String)
  | fields (names : List String)

def readFields : List Token → Option (List String)
  | [.word name, .closeBrace] => some [name]
  | .word name :: .comma :: rest => (readFields rest).map (name :: ·)
  | _ => none

def Pattern.read : List Token → Option Pattern
  | [.word name] => some (.plain name)
  | .openBrace :: rest => (readFields rest).map .fields
  | _ => none

def Binder.pattern? (parameter : Binder) : Option Pattern :=
  (scan parameter.name).bind Pattern.read

/-! ## Calls -/

section Calls

variable {α : Type}

/-- Bindings with their values, the innermost first. -/
abbrev Bindings (α : Type) := List (String × Value α)

def Bindings.read (bound : Bindings α) : Expression → Option (Value α)
  | .name name => bound.lookup name
  | _ => none

/-- The variables that a pattern makes of a value; a field that is missing is undefined. -/
def Pattern.bind : Pattern → Value α → Option (Bindings α)
  | .plain name, value => some [(name, value)]
  | .fields names, .record members =>
      some (names.map (fun name => (name, (members.lookup name).getD .undefined)))
  | .fields _, _ => none

/-- The variables that parameters make of some values: one that is missing is undefined, and those
too many are ignored. -/
def bindAll : List Binder → List (Value α) → Option (Bindings α)
  | [], _ => some []
  | parameter :: rest, values => do
      let here ← (← parameter.pattern?).bind (values.headD .undefined)
      return here ++ (← bindAll rest values.tail)

/-- The first so many of some values, filled up with undefined ones. -/
def supplied : Nat → List (Value α) → List (Value α)
  | 0, _ => []
  | count + 1, values => values.headD .undefined :: supplied count values.tail

/-- The variables of a function that an expression calls when it is called itself: the expression is
the name of the function, or an arrow around a call of it. No variable may hide the function. -/
def Expression.passes (around : Bindings α) (callee : Function) (values : List (Value α)) :
    Expression → Option (Bindings α)
  | .name called =>
      if called = callee.name ∧ called ∉ around.map Prod.fst then bindAll callee.parameters values
      else none
  | .arrow parameters (.call (.name called) _ arguments) => do
      let inside ← bindAll parameters values
      let bound := inside ++ around
      if called = callee.name ∧ called ∉ bound.map Prod.fst ∧ (inside.map Prod.fst).Nodup then
        bindAll callee.parameters (← arguments.mapM (Bindings.read bound))
      else none
  | _ => none

/-- What a function hands to a receiver under a key, with the variables around it. No name may be
bound twice, and none may hide the receiver; an asynchronous function would not return what the
receiver does. -/
def Function.handsTo (function : Function) (receiver key : String) (values : List (Value α)) :
    Option (Expression × Bindings α) := do
  let bound ← bindAll function.parameters values
  if function.isAsync = false ∧ (bound.map Prod.fst).Nodup ∧ receiver ∉ bound.map Prod.fst then
    match function.body with
    | [.return (.call (.name called) _ [.object _ members])] =>
        if called = receiver then ((members.lookup key).join).map (·, bound) else none
    | _ => none
  else none

/-- The variables of a function when a receiver calls what it was handed under a key by another
function: this one was called with `values`, and the receiver calls with `handed`. -/
def Function.passesOn (function : Function) (receiver key : String) (values : List (Value α))
    (callee : Function) (handed : List (Value α)) : Option (Bindings α) := do
  let (expression, bound) ← function.handsTo receiver key values
  expression.passes bound callee handed

end Calls

/-! ## Reading parameters -/

theorem pattern?_of_isWord {parameter : Binder} (isWord : IsWord parameter.name.toList) :
    parameter.pattern? = some (.plain parameter.name) := by
  rw [Binder.pattern?, TypeText.scan_of_isWord isWord]
  rfl

theorem readFields_intercalate {names : List String} (nonempty : names ≠ []) :
    readFields ([Token.comma].intercalate (names.map (fun name => [.word name])) ++
      [.closeBrace]) = some names := by
  induction names, nonempty using List.recNeNil with
  | singleton name => rfl
  | cons name rest several inductionHypothesis =>
      rw [TypeText.Reads.intercalate_cons_map _ _ several, List.append_assoc,
        List.singleton_append, List.cons_append, readFields, inductionHypothesis]
      simp

/-- A pattern between braces is read as its fields. -/
theorem pattern?_of_fields {names : List String} (nonempty : names ≠ [])
    (words : ∀ name ∈ names, IsWord name.toList) {parameter : Binder}
    (written : parameter.name = "\x7b " ++ ", ".intercalate names ++ " \x7d") :
    parameter.pattern? = some (.fields names) := by
  have inside := Writes.intercalate (.of_marks rfl rfl : Exact ", " [.comma]) (.of_head rfl)
    nonempty (fun name _ => Writes.word name)
  have opened : Exact "\x7b " [.openBrace] := .of_marks rfl rfl
  have whole := (opened.append_writes inside).append_exact (.of_head rfl)
    (.of_marks rfl rfl : Exact " \x7d" [.closeBrace])
  rw [List.map_id'] at whole
  have scanned := whole.writes.spelled.scan (fun word member => by
    rw [List.mem_append, List.mem_append] at member
    have inNames := (member.resolve_right (by simp)).resolve_left (by simp)
    obtain isComma | ⟨part, isPart, inPart⟩ := Text.mem_intercalate inNames
    · cases isComma
    · obtain ⟨name, isName, rfl⟩ := List.mem_map.1 isPart
      rw [List.mem_singleton, Token.word.injEq] at inPart
      exact inPart ▸ words name isName)
  rw [Binder.pattern?, written, scan, scanned, Option.bind_some, List.append_assoc,
    List.singleton_append, Pattern.read, readFields_intercalate nonempty]
  rfl

/-! ## Binding -/

section Binding

variable {α : Type} {parameters : List Binder} {values : List (Value α)}

@[simp] theorem length_supplied (count : Nat) (values : List (Value α)) :
    (supplied count values).length = count := by
  induction count generalizing values with
  | zero => rfl
  | succ count inductionHypothesis => rw [supplied, List.length_cons, inductionHypothesis]

/-- The values behind do not count where there are enough. -/
theorem supplied_append (values more : List (Value α)) :
    supplied values.length (values ++ more) = values := by
  induction values with
  | nil => rfl
  | cons value rest inductionHypothesis =>
      exact congrArg (value :: ·) inductionHypothesis

theorem supplied_add_one (count : Nat) (values : List (Value α)) :
    supplied (count + 1) values =
      supplied count values ++ [(values.drop count).headD .undefined] := by
  induction count generalizing values with
  | zero => rfl
  | succ count inductionHypothesis =>
      rw [supplied, inductionHypothesis, List.drop_tail, supplied, List.cons_append]

/-- Parameters that are names take one value each. -/
theorem bindAll_supplied (words : ∀ parameter ∈ parameters, IsWord parameter.name.toList)
    (values : List (Value α)) :
    bindAll parameters values =
      some ((parameters.map Binder.name).zip (supplied parameters.length values)) := by
  induction parameters generalizing values with
  | nil => rfl
  | cons parameter others inductionHypothesis =>
      rw [List.forall_mem_cons] at words
      rw [bindAll, pattern?_of_isWord words.1, inductionHypothesis words.2]
      rfl

theorem bindAll_of_words (words : ∀ parameter ∈ parameters, IsWord parameter.name.toList)
    (sameLength : values.length = parameters.length) (more : List (Value α)) :
    bindAll parameters (values ++ more) = some ((parameters.map Binder.name).zip values) := by
  rw [bindAll_supplied words, ← sameLength, supplied_append]

/-- The fields of a record are bound to what they are in it. -/
theorem Pattern.bind_fields {members : List (String × Value α)} {names : List String}
    (sameLength : values.length = names.length)
    (fields : ∀ entry ∈ names.zip values, members.lookup entry.1 = some entry.2) :
    (Pattern.fields names).bind (.record members) = some (names.zip values) := by
  rw [bind, Option.some_inj]
  induction names generalizing values with
  | nil => rfl
  | cons name rest inductionHypothesis =>
      obtain ⟨value, later, rfl⟩ := List.exists_cons_of_length_eq_add_one sameLength
      rw [List.zip_cons_cons, List.forall_mem_cons] at fields
      rw [List.map_cons, fields.1, inductionHypothesis (Nat.succ.inj sameLength) fields.2]
      rfl

/-- Names that are bound to some values are read as these. -/
theorem mapM_read {bound : Bindings α} {names : List String}
    (sameLength : values.length = names.length)
    (readable : ∀ entry ∈ names.zip values, bound.lookup entry.1 = some entry.2) :
    (names.map Expression.name).mapM (Bindings.read bound) = some values := by
  induction names generalizing values with
  | nil =>
      rw [List.eq_nil_of_length_eq_zero sameLength]
      rfl
  | cons name rest inductionHypothesis =>
      obtain ⟨value, later, rfl⟩ := List.exists_cons_of_length_eq_add_one sameLength
      rw [List.zip_cons_cons, List.forall_mem_cons] at readable
      rw [List.map_cons, List.mapM_cons, Bindings.read, readable.1,
        inductionHypothesis (Nat.succ.inj sameLength) readable.2]
      rfl

end Binding

end TypedClient.Script
