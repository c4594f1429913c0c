import Mathlib.Data.List.Nodup
import TypedClient.Model
import TypedClient.Proofs.Reference.Symbols

/-!
Contract: the symbols of a document among those of other documents.

Owns:
- that the new symbols of a document differ from each other and from all symbols that are taken,
  even when one symbol is renamed to another one that is renamed itself;
- that a new symbol is the old one with digits behind it.

Does not own: which symbols are taken.
-/

namespace TypedClient.Model

variable {taken symbols : List String} {symbol other : String}

theorem newSymbol_cons_self (free : String) (later : Ordered String) :
    newSymbol ((symbol, free) :: later) symbol = free := by
  simp [newSymbol, Ordered.lookup?]

theorem newSymbol_cons_of_ne {free : String} {later : Ordered String} (different : other ≠ symbol) :
    newSymbol ((symbol, free) :: later) other = newSymbol later other := by
  simp [newSymbol, Ordered.lookup?, different.symm]

theorem newSymbol_of_not_mem {renames : Ordered String} (kept : symbol ∉ renames.keys) :
    newSymbol renames symbol = symbol := by
  rw [newSymbol, Ordered.lookup?_eq_none_iff.2 kept, Option.getD_none]

theorem mem_of_mem_keys_allocate (member : symbol ∈ (allocate taken symbols).keys) :
    symbol ∈ symbols := by
  induction symbols generalizing taken with
  | nil => cases member
  | cons first rest inductionHypothesis =>
      rw [allocate] at member
      split at member
      · exact List.mem_cons_of_mem _ (inductionHypothesis member)
      · rw [Ordered.keys, List.map_cons] at member
        rcases List.mem_cons.1 member with rfl | later
        · exact List.mem_cons_self
        · exact List.mem_cons_of_mem _ (inductionHypothesis later)

theorem map_newSymbol_allocate_cons {first : String} {rest : List String}
    (distinct : (first :: rest).Nodup) :
    (first :: rest).map (newSymbol (allocate taken (first :: rest))) =
      fresh taken first :: rest.map (newSymbol (allocate (fresh taken first :: taken) rest)) := by
  obtain ⟨notLater, _⟩ := List.nodup_cons.1 distinct
  rw [allocate, List.map_cons]
  split
  · rename_i kept
    have notRenamed : first ∉ (allocate (fresh taken first :: taken) rest).keys :=
      fun member => notLater (mem_of_mem_keys_allocate member)
    rw [newSymbol_of_not_mem notRenamed, kept]
  · rw [newSymbol_cons_self]
    congr 1
    apply List.map_congr_left
    intro later member
    apply newSymbol_cons_of_ne
    rintro rfl
    exact notLater member

theorem withDigits_of_mem_allocate :
    ∀ entry ∈ allocate taken symbols, WithDigits entry.1 entry.2 := by
  induction symbols generalizing taken with
  | nil => exact fun _ member => absurd member List.not_mem_nil
  | cons first rest inductionHypothesis =>
      rw [allocate]
      split
      · exact inductionHypothesis
      · exact List.forall_mem_cons.2 ⟨withDigits_fresh taken first, inductionHypothesis⟩

/-- A new symbol is the old one with digits behind it. -/
theorem withDigits_newSymbol (taken symbols : List String) (symbol : String) :
    WithDigits symbol (newSymbol (allocate taken symbols) symbol) := by
  unfold newSymbol
  cases found : (allocate taken symbols).lookup? symbol with
  | none => exact WithDigits.refl symbol
  | some free => exact withDigits_of_mem_allocate (symbol, free) (Ordered.mem_of_lookup? found)

/-- The new symbols of a document are new, and no two of its declarations share one. -/
theorem allocate_spec (distinct : symbols.Nodup) :
    (symbols.map (newSymbol (allocate taken symbols))).Nodup ∧
      ∀ symbol ∈ symbols.map (newSymbol (allocate taken symbols)), symbol ∉ taken := by
  induction symbols generalizing taken with
  | nil => exact ⟨List.nodup_nil, by simp⟩
  | cons first rest inductionHypothesis =>
      rw [map_newSymbol_allocate_cons distinct]
      obtain ⟨restDistinct, restFree⟩ :=
        @inductionHypothesis (fresh taken first :: taken) (List.nodup_cons.1 distinct).2
      refine ⟨List.nodup_cons.2 ⟨?_, restDistinct⟩, ?_⟩
      · intro member
        exact restFree _ member List.mem_cons_self
      · intro symbol member isTaken
        rcases List.mem_cons.1 member with rfl | later
        · exact fresh_not_mem taken first isTaken
        · exact restFree symbol later (List.mem_cons_of_mem _ isTaken)

end TypedClient.Model
