import TypedClient.Json.Basic

/-!
Contract: records inside a tree that is looked at as a whole.

Owns:
- `knownMembers?`, the members of a record that carry a known name, from its object form or from
  the list of its fields;
- the readings of a member: a text, a flag, a list of texts, and a member that may be null.

Does not own: which names are known, or which of them have to be there.
-/

namespace TypedClient.Json

variable {α : Type}

/-- The members with a known name. An object may hold other members, and none of the known ones
twice; a list holds the fields in the order of their names, at least `fewest` of them. -/
def knownMembers? (names : List String) (fewest : Nat) : Json → Option (Ordered Json)
  | .object members =>
      let known := members.filter (fun member => names.contains member.1)
      if (Ordered.keys known).Nodup then some known else none
  | .array items =>
      if fewest ≤ items.length ∧ items.length ≤ names.length then some (names.zip items) else none
  | _ => none

def text? : Json → Option String
  | .string text => some text
  | _ => none

/-- True or false. -/
def flag? : Json → Option Bool
  | .boolean flag => some flag
  | _ => none

def list? (item? : Json → Option α) : Json → Option (List α)
  | .array items => items.mapM item?
  | _ => none

/-- An object, read member by member; a repeated key keeps its first place and its last value. -/
def mapping? (member? : Json → Option α) : Json → Option (Ordered α)
  | .object members =>
      (members.mapM (fun member => (member? member.2).map (Prod.mk member.1))).map Ordered.ofList
  | _ => none

/-- A value, or null for its absence. -/
def optional? (value? : Json → Option α) : Json → Option (Option α)
  | .null => some none
  | other => (value? other).map some

/-- A member that may be missing, and may be null. -/
def maybe? (members : Ordered Json) (name : String) (value? : Json → Option α) :
    Option (Option α) :=
  match members.lookup? name with
  | none => some none
  | some member => optional? value? member

/-- A member that may be missing but not null. -/
def orElse? (members : Ordered Json) (name : String) (value? : Json → Option α) (missing : α) :
    Option α :=
  match members.lookup? name with
  | none => some missing
  | some member => value? member

end TypedClient.Json
