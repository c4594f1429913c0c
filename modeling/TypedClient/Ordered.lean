/-!
Contract: maps that keep the order in which their keys first appeared.

Owns:
- `Ordered`, a list of key–value pairs read as a map;
- looking a key up, and insertion that replaces in place or appends;
- the map a list of pairs denotes when keys repeat: first position, last value.

Does not own: what the keys and values mean.
-/

namespace TypedClient

/-- A map written as its pairs, in the order in which the keys first appeared. -/
abbrev Ordered (α : Type) := List (String × α)

namespace Ordered

variable {α β : Type}

/-- The value of the first pair that carries `key`. -/
def lookup? (entries : Ordered α) (key : String) : Option α :=
  (entries.find? (fun entry => entry.1 = key)).map Prod.snd

def keys (entries : Ordered α) : List String :=
  entries.map Prod.fst

/-- A known key keeps its place and takes the new value; a new key goes to the end. -/
def insert (entries : Ordered α) (key : String) (value : α) : Ordered α :=
  match entries with
  | [] => [(key, value)]
  | entry :: rest =>
      if entry.1 = key then (key, value) :: rest else entry :: insert rest key value

/-- The map of a list of pairs: a repeated key keeps its first place and its last value. -/
def ofList (pairs : List (String × α)) : Ordered α :=
  pairs.foldl (fun entries pair => insert entries pair.1 pair.2) []

/-- The same keys with each value replaced by its image. -/
def mapValues (image : α → β) (entries : Ordered α) : Ordered β :=
  entries.map (fun entry => (entry.1, image entry.2))

@[simp] theorem lookup?_nil (key : String) : lookup? ([] : Ordered α) key = none := rfl

theorem lookup?_cons (entry : String × α) (rest : Ordered α) (key : String) :
    lookup? (entry :: rest) key = if entry.1 = key then some entry.2 else lookup? rest key := by
  by_cases same : entry.1 = key <;> simp [lookup?, same]

theorem lookup?_eq_none_iff {entries : Ordered α} {key : String} :
    lookup? entries key = none ↔ key ∉ keys entries := by
  induction entries with
  | nil => simp [keys]
  | cons entry rest inductionHypothesis =>
      by_cases same : entry.1 = key
      · simp [lookup?_cons, keys, same]
      · have other : ¬ key = entry.1 := fun equal => same equal.symm
        simp only [lookup?_cons, same, ↓reduceIte, inductionHypothesis]
        simp [keys, other]

theorem mem_keys_of_lookup? {entries : Ordered α} {key : String} {value : α}
    (found : lookup? entries key = some value) : key ∈ keys entries := by
  by_cases member : key ∈ keys entries
  · exact member
  · rw [lookup?_eq_none_iff.2 member] at found
    cases found

/-- What was just inserted is what is found. -/
theorem lookup?_insert_self (entries : Ordered α) (key : String) (value : α) :
    lookup? (insert entries key value) key = some value := by
  induction entries with
  | nil => simp [insert, lookup?_cons]
  | cons entry rest inductionHypothesis =>
      by_cases same : entry.1 = key <;>
        simp [insert, same, lookup?_cons, inductionHypothesis]

/-- Insertion leaves every other key as it was. -/
theorem lookup?_insert_of_ne (entries : Ordered α) {key other : String} (value : α)
    (different : key ≠ other) :
    lookup? (insert entries key value) other = lookup? entries other := by
  induction entries with
  | nil => simp [insert, lookup?_cons, different]
  | cons entry rest inductionHypothesis =>
      by_cases same : entry.1 = key
      · have distinct : entry.1 ≠ other := fun equal => different (same ▸ equal)
        simp [insert, same, lookup?_cons, different]
      · simp [insert, same, lookup?_cons, inductionHypothesis]

@[simp] theorem keys_mapValues (image : α → β) (entries : Ordered α) :
    keys (mapValues image entries) = keys entries := by
  simp [keys, mapValues]

end Ordered

end TypedClient
