/-!
Contract: names that are not taken yet.

Owns:
- `fresh`, a name itself if it is free, else the name with the least number from two on that makes
  it free.

Does not own: which names are taken.
-/

namespace TypedClient

/-- A name with a number behind it. -/
def numbered (base : String) (number : Nat) : String := base ++ toString number

/-- The least number from two on with which a name passes a test, among as many numbers as the
bound says. -/
def leastNumber? (isFree : String → Bool) (base : String) (bound : Nat) : Option Nat :=
  (List.range' 2 bound).find? (fun number => isFree (numbered base number))

/-- The name itself if it is free, else with the least number from two on. One number more than
there are names is enough. -/
def fresh (taken : List String) (base : String) : String :=
  if taken.contains base then
    match leastNumber? (fun name => !taken.contains name) base (taken.length + 1) with
    | some number => numbered base number
    | none => base
  else base

end TypedClient
