import Mathlib.Data.List.Nodup
import TypedClient.Model
import TypedClient.Proofs.Reference.FreshNames

/-!
Contract: every endpoint gets a name of its own.

Owns:
- that a number behind a camel name is a number behind the names made from it;
- that different stems of types mean different request functions and different hooks;
- `Placed` and `PlacedAfter`, what naming one endpoint and a list of endpoints does.

Does not own: the declared names in the shapes of endpoints.
-/

namespace TypedClient

theorem Text.uppercase_of_isDigit {character : Char} (isDigit : character.isDigit = true) :
    uppercase character = [character] := by
  have upTo9 : character.toNat ≤ 57 := (Char.isDigit_iff_toNat.1 isDigit).2
  have notLower : ¬ ('a'.val ≤ character.val ∧ character.val ≤ 'z'.val) := by
    rintro ⟨fromA, _⟩
    rw [UInt32.le_iff_toNat_le] at fromA
    have from97 : 97 ≤ character.toNat := fromA
    omega
  have kept : character.toUpper = character := dif_neg notLower
  rw [uppercase_of_ascii (by omega), kept]

theorem Text.capitalized_toString (number : Nat) :
    capitalized (toString number).toList = (toString number).toList := by
  cases written : (toString number).toList with
  | nil => rfl
  | cons first rest =>
      have isDigit : first.isDigit = true :=
        Script.isDigit_of_mem_toString (written ▸ List.mem_cons_self)
      rw [capitalized, uppercase_of_isDigit isDigit, List.singleton_append]

namespace Naming

theorem capital_numbered (name : String) (number : Nat) :
    capital (numbered name number) = numbered (capital name) number := by
  apply String.toList_injective
  unfold capital numbered
  rw [String.toList_append, String.toList_append, String.toList_ofList, String.toList_ofList]
  cases name.toList with
  | nil =>
      rw [List.nil_append, Text.capitalized, List.nil_append]
      exact Text.capitalized_toString number
  | cons first rest => rw [List.cons_append, Text.capitalized, Text.capitalized, List.append_assoc]

/-- A number behind a camel name stands behind the stem of the types. -/
theorem typeName_numbered (method camelName : String) (number : Nat) :
    typeName method (numbered camelName number) = numbered (typeName method camelName) number := by
  rw [typeName, typeName, capital_numbered]
  unfold numbered
  exact String.append_assoc.symm

theorem typeName_eq (method camelName : String) :
    typeName method camelName = "I" ++ functionName method camelName := by
  rw [typeName, functionName, String.append_assoc]

theorem typeName_eq_of_functionName_eq {method other camelName otherName : String}
    (same : functionName method camelName = functionName other otherName) :
    typeName method camelName = typeName other otherName := by
  rw [typeName_eq, typeName_eq, same]

/-- The hooks of different request functions are different. -/
theorem functionName_eq_of_hookName_eq {method other : Method} {camelName otherName : String}
    (same : hookName (functionName method.key camelName) =
      hookName (functionName other.key otherName)) :
    functionName method.key camelName = functionName other.key otherName := by
  have characters := congrArg String.toList same
  apply String.toList_injective
  simp only [hookName, functionName, capital, String.toList_append, String.toList_ofList]
    at characters ⊢
  have capitals := List.append_cancel_left characters
  -- The keys of two methods differ in their first or second character, in both cases.
  cases method <;> cases other <;>
    simp [Method.key, Text.capitalized, Text.uppercase] at capitals ⊢ <;>
    exact capitals

end Naming

namespace Model

variable {earlier merged placed : List Endpoint} {taken : List String}
  {extracted unique : Endpoint}

/-- An endpoint is named, given the stems that are taken: it is left as it is if its own is free,
else its camel name gets the least number from two on that makes the stem free. -/
def Placed (taken : List String) (extracted unique : Endpoint) : Prop :=
  (extracted.typeName ∉ taken ∧ unique = extracted) ∨
  (extracted.typeName ∈ taken ∧ ∃ number, 2 ≤ number ∧
    unique = extracted.withName (numbered extracted.camelName number) ∧
    unique.typeName ∉ taken ∧
    ∀ smaller, 2 ≤ smaller → smaller < number →
      (extracted.withName (numbered extracted.camelName smaller)).typeName ∈ taken)

/-- Some endpoints are named one after the other, after those that are there already. -/
inductive PlacedAfter : List Endpoint → List Endpoint → List Endpoint → Prop
  | nil {earlier : List Endpoint} : PlacedAfter earlier [] []
  | cons {earlier rest placed : List Endpoint} {extracted unique : Endpoint}
      (first : Placed (earlier.map Endpoint.typeName) extracted unique)
      (later : PlacedAfter (earlier ++ [unique]) rest placed) :
      PlacedAfter earlier (extracted :: rest) (unique :: placed)

theorem Placed.congr {other : List String} (placed : Placed taken extracted unique)
    (same : ∀ name, name ∈ taken ↔ name ∈ other) : Placed other extracted unique := by
  unfold Placed at placed ⊢
  simpa only [same] using placed

theorem Placed.not_mem (placed : Placed taken extracted unique) : unique.typeName ∉ taken := by
  rcases placed with ⟨free, rfl⟩ | ⟨_, number, _, _, free, _⟩
  · exact free
  · exact free

/-- Only the camel name of an endpoint changes, and with it the stem of its types. -/
theorem Placed.eq_with (placed : Placed taken extracted unique) :
    ∃ camelName typeName, unique = { extracted with camelName, typeName } := by
  rcases placed with ⟨_, rfl⟩ | ⟨_, number, _, rfl, _⟩
  · exact ⟨unique.camelName, unique.typeName, rfl⟩
  · exact ⟨_, _, rfl⟩

theorem Placed.typeName_eq (placed : Placed taken extracted unique)
    (derived : extracted.typeName = Naming.typeName extracted.method.key extracted.camelName) :
    unique.typeName = Naming.typeName unique.method.key unique.camelName := by
  rcases placed with ⟨_, rfl⟩ | ⟨_, number, _, rfl, _⟩
  · exact derived
  · rfl

/-- An endpoint always gets a free name. -/
theorem placed_uniqueEndpoint (taken : List String) (endpoint : Endpoint) :
    Placed taken endpoint (uniqueEndpoint taken endpoint) := by
  by_cases isTaken : endpoint.typeName ∈ taken
  · have distinct : Function.Injective
        (fun number => Naming.typeName endpoint.method.key (numbered endpoint.camelName number)) := by
      intro first second same
      simp only [Naming.typeName_numbered] at same
      exact numbered_injective _ same
    obtain ⟨number, found⟩ := exists_leastNumber taken _ distinct
    obtain ⟨from2, free, least⟩ := leastNumber?_spec found
    have renamed : uniqueEndpoint taken endpoint =
        endpoint.withName (numbered endpoint.camelName number) := by
      rw [uniqueEndpoint, if_pos (by simpa using isTaken), found]
    refine Or.inr ⟨isTaken, number, from2, renamed, ?_, ?_⟩
    · rw [renamed]
      simpa [Endpoint.withName] using free
    · intro smaller isFrom2 below
      simpa [Endpoint.withName] using least smaller isFrom2 below
  · refine Or.inl ⟨isTaken, ?_⟩
    rw [uniqueEndpoint, if_neg (by simpa using isTaken)]

theorem PlacedAfter.append {first second firstPlaced secondPlaced : List Endpoint}
    (ofFirst : PlacedAfter earlier first firstPlaced)
    (ofSecond : PlacedAfter (earlier ++ firstPlaced) second secondPlaced) :
    PlacedAfter earlier (first ++ second) (firstPlaced ++ secondPlaced) := by
  induction ofFirst with
  | nil =>
      rw [List.append_nil] at ofSecond
      exact ofSecond
  | cons placed _ inductionHypothesis =>
      rw [List.append_cons] at ofSecond
      exact PlacedAfter.cons placed (inductionHypothesis ofSecond)

/-- No two endpoints have the same stem of types. -/
theorem PlacedAfter.nodup {extracted : List Endpoint}
    (placedAfter : PlacedAfter earlier extracted placed)
    (distinct : (earlier.map Endpoint.typeName).Nodup) :
    ((earlier ++ placed).map Endpoint.typeName).Nodup := by
  induction placedAfter with
  | nil => rwa [List.append_nil]
  | cons first _ inductionHypothesis =>
      rw [List.append_cons]
      apply inductionHypothesis
      rw [List.map_append, List.map_singleton, ← List.concat_eq_append]
      exact distinct.concat first.not_mem

theorem PlacedAfter.forall₂ {extracted : List Endpoint}
    (placedAfter : PlacedAfter earlier extracted placed) :
    List.Forall₂ (fun before after => ∃ names, Placed names before after) extracted placed := by
  induction placedAfter with
  | nil => exact List.Forall₂.nil
  | cons first _ inductionHypothesis =>
      exact List.Forall₂.cons ⟨_, first⟩ inductionHypothesis

end Model

end TypedClient
