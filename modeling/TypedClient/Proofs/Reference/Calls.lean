import TypedClient.Proofs.Reference.Walk

/-!
Contract: what a resolver answers, whatever else it is asked before and afterwards.

Owns:
- `Resolver.answerAll`, the answers to calls that are made one after the other;
- `Resolver.settled`, what a state that knows all symbols would answer to a call;
- that every answer is the one of the last state, and that components asked about, or mentioned in an
  answer, have different symbols.

Does not own: what the shapes mean.
-/

namespace TypedClient

namespace Resolver

/-- What a resolver is asked for: the shape of a schema, or the symbol of a component. -/
inductive Call where
  | resolve (schema : Schema)
  | symbolFor (component : String)

inductive Answer where
  | shape (shape : Shape)
  | symbol (symbol : String)

/-- The components whose symbols the answer to a call holds. -/
def Call.components (document : Document) : Call → List String
  | .resolve schema => (document.expand [] schema).symbols
  | .symbolFor component => [component]

/-- The answer to a call, and the state afterwards. -/
def answer (resolver : Resolver) : Call → Answer × Resolver
  | .resolve schema =>
      let (shape, after) := resolver.resolve schema
      (.shape shape, after)
  | .symbolFor component =>
      let named := resolver.withSymbol component
      (.symbol (named.symbolOf component), named)

/-- The answers to calls that are made one after the other, and the state at the end. -/
def answerAll (resolver : Resolver) : List Call → List Answer × Resolver
  | [] => ([], resolver)
  | call :: rest =>
      let (first, after) := resolver.answer call
      let (later, final) := after.answerAll rest
      (first :: later, final)

/-- The answer to a call under the symbols known by now. -/
def settled (resolver : Resolver) : Call → Answer
  | .resolve schema => .shape (resolver.shapeOf [] schema)
  | .symbolFor component => .symbol (resolver.symbolOf component)

variable {resolver later : Resolver} {call : Call} {calls : List Call} {component : String}

/-! ## One call -/

theorem answer_extends (resolver : Resolver) (call : Call) :
    resolver.Extends (resolver.answer call).2 := by
  cases call with
  | resolve schema => exact afterResolving_extends resolver [] schema
  | symbolFor component => exact withSymbol_extends resolver component

theorem Consistent.answer (consistent : resolver.Consistent) (call : Call) :
    (resolver.answer call).2.Consistent := by
  cases call with
  | resolve schema => exact consistent.afterResolving_nil schema
  | symbolFor component => exact consistent.withSymbol component

theorem mem_keys_answer (named : component ∈ call.components resolver.document) :
    component ∈ (resolver.answer call).2.symbols.keys := by
  cases call with
  | resolve schema => exact mem_keys_absorbAll (Document.cycle_mem_notices_iff.2 named)
  | symbolFor other =>
      rw [List.mem_singleton.1 named]
      exact mem_keys_withSymbol resolver other

/-- An answer stays right, whatever becomes known afterwards. -/
theorem Extends.settled_eq (extended : (resolver.answer call).2.Extends later) :
    later.settled call = (resolver.answer call).1 := by
  cases call with
  | resolve schema => exact congrArg Answer.shape extended.shapeOf_eq
  | symbolFor component =>
      exact congrArg Answer.symbol (extended.symbolOf_eq (mem_keys_withSymbol resolver component))

/-! ## Calls one after the other -/

theorem answerAll_extends (resolver : Resolver) (calls : List Call) :
    resolver.Extends (resolver.answerAll calls).2 := by
  induction calls generalizing resolver with
  | nil => exact Extends.refl resolver
  | cons call rest inductionHypothesis =>
      exact (answer_extends resolver call).trans (inductionHypothesis _)

theorem Consistent.answerAll (consistent : resolver.Consistent) (calls : List Call) :
    (resolver.answerAll calls).2.Consistent := by
  induction calls generalizing resolver with
  | nil => exact consistent
  | cons call rest inductionHypothesis => exact inductionHypothesis (consistent.answer call)

theorem mem_keys_answerAll (isCall : call ∈ calls)
    (named : component ∈ call.components resolver.document) :
    component ∈ (resolver.answerAll calls).2.symbols.keys := by
  induction calls generalizing resolver with
  | nil => exact absurd isCall List.not_mem_nil
  | cons first rest inductionHypothesis =>
      rcases List.mem_cons.1 isCall with rfl | inRest
      · exact (answerAll_extends (resolver.answer call).2 rest).mem_keys (mem_keys_answer named)
      · rw [← (answer_extends resolver first).document] at named
        exact inductionHypothesis inRest named

/-- Every answer is the one that the last state would give. -/
theorem answerAll_eq_map_settled (resolver : Resolver) (calls : List Call) :
    (resolver.answerAll calls).1 = calls.map (resolver.answerAll calls).2.settled := by
  induction calls generalizing resolver with
  | nil => rfl
  | cons call rest inductionHypothesis =>
      have extended := answerAll_extends (resolver.answer call).2 rest
      rw [List.map_cons]
      exact congrArg₂ List.cons extended.settled_eq.symm (inductionHypothesis _)

/-- **Equal calls have equal answers**, wherever in a row of calls they are made. One choice of symbols
stands behind all answers: it is what is answered about components, and it is in the shapes that are
answered for schemas; and it gives different symbols to the components that answers mention. -/
theorem calls_answered_alike (document : Document) (qualifier : String) (calls : List Call) :
    let answers := (answerAll { document, qualifier } calls).1
    let symbolOf := (answerAll { document, qualifier } calls).2.symbolOf
    answers.length = calls.length ∧
    (∀ first second : Nat, calls[first]? = calls[second]? → answers[first]? = answers[second]?) ∧
    (∀ (position : Nat) (component : String), calls[position]? = some (.symbolFor component) →
      answers[position]? = some (.symbol (symbolOf component))) ∧
    (∀ (position : Nat) (schema : Schema), calls[position]? = some (.resolve schema) →
      answers[position]? = some (.shape ((document.expand [] schema).rename symbolOf))) ∧
    ∀ call ∈ calls, ∀ other ∈ calls, ∀ component ∈ call.components document,
      ∀ otherComponent ∈ other.components document,
        symbolOf component = symbolOf otherComponent → component = otherComponent := by
  intro answers symbolOf
  have settles : answers = calls.map (answerAll { document, qualifier } calls).2.settled :=
    answerAll_eq_map_settled _ calls
  have sameDocument := (answerAll_extends { document, qualifier } calls).document
  refine ⟨by rw [settles, List.length_map], ?_, ?_, ?_, ?_⟩
  · intro first second same
    rw [settles, List.getElem?_map, List.getElem?_map, same]
  · intro position component isCall
    rw [settles, List.getElem?_map, isCall]
    rfl
  · intro position schema isCall
    rw [settles, List.getElem?_map, isCall, Option.map_some, settled, shapeOf, sameDocument]
  · intro call isCall other isOther component named otherComponent otherNamed
    exact ((Consistent.initial document qualifier).answerAll calls).symbolOf_injective
      (mem_keys_answerAll isCall named) (mem_keys_answerAll isOther otherNamed)

/-- A document with two components that are trees and whose names are spelled alike as types. -/
def treesDocument : Document where
  components := { schemas := [
    ("tree-node", .object [("next", .reference "#/components/schemas/tree-node")] [] .closed),
    ("TreeNode", .array (.reference "#/components/schemas/TreeNode"))] }

/-- Resolve both trees, and then ask for their symbols and resolve the first one again. -/
def treeCalls : List Call :=
  [.resolve (.reference "#/components/schemas/tree-node"),
    .resolve (.reference "#/components/schemas/TreeNode"),
    .symbolFor "tree-node", .symbolFor "TreeNode",
    .resolve (.reference "#/components/schemas/tree-node")]

/-- The first tree has the same shape again, and the two trees have different symbols. -/
theorem trees_answered_alike :
    let run := answerAll { document := treesDocument, qualifier := "" } treeCalls
    treeCalls[0]? = treeCalls[4]? ∧ run.1[0]? = run.1[4]? ∧
      treeCalls[3]? = some (.symbolFor "TreeNode") ∧
      run.1[3]? = some (.symbol (run.2.symbolOf "TreeNode")) ∧
      run.2.symbolOf "TreeNode" = "TreeNode2" := by
  obtain ⟨_, alike, symbols, _, _⟩ := calls_answered_alike treesDocument "" treeCalls
  exact ⟨rfl, alike 0 4 rfl, rfl, symbols 3 "TreeNode" rfl, by decide +kernel⟩

end Resolver

end TypedClient
