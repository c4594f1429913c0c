import TypedClient.Json.Reader

/-!
Contract: values of other types read from JSON.

Owns:
- `Decoder`, one way to read a value from text and the same value from a tree;
- decoders for texts, flags, values that may be null, lists, maps and records;
- the check of a decoded value, and the choice between alternatives, which looks at a whole tree.

Does not own: any particular record. A failure inside a text has the place that reading reached;
a failure inside a tree, or one that looks at a whole value, has a place only if something
encloses it.
-/

namespace TypedClient.Json

/-- How to read a value from the next part of a text, and from a tree without repeated keys. -/
structure Decoder (α : Type) where
  fromText : Reader α
  fromTree : Json → Except Fault α

namespace Decoder

variable {α β : Type}

def value : Decoder Json where
  fromText := collapse <$> Reader.tree
  fromTree := .ok

def text : Decoder String where
  fromText := Reader.placed do
    match ← Reader.peekPart with
    | none => Reader.failAhead .endInValue
    | some '"' =>
        Reader.eat
        Reader.string
    | some _ => Reader.wrongType "a string"
  fromTree
    | .string text => .ok text
    | other => .error (.wrongType (found other) "a string")

/-- True or false. -/
def flag : Decoder Bool where
  fromText := Reader.placed do
    match ← Reader.peekPart with
    | none => Reader.failAhead .endInValue
    | some 't' =>
        Reader.eat
        Reader.word ['r', 'u', 'e']
        return true
    | some 'f' =>
        Reader.eat
        Reader.word ['a', 'l', 's', 'e']
        return false
    | some _ => Reader.wrongType "a boolean"
  fromTree
    | .boolean flag => .ok flag
    | other => .error (.wrongType (found other) "a boolean")

/-- A value, or null for its absence. -/
def optional (decoder : Decoder α) : Decoder (Option α) where
  fromText := do
    match ← Reader.peekPart with
    | some 'n' =>
        Reader.eat
        Reader.word ['u', 'l', 'l']
        return none
    | _ => some <$> decoder.fromText
  fromTree
    | .null => .ok none
    | other => some <$> decoder.fromTree other

def map (image : α → β) (decoder : Decoder α) : Decoder β where
  fromText := image <$> decoder.fromText
  fromTree tree := image <$> decoder.fromTree tree

/-- A value that passes a check. -/
def checked (check : α → Except Fault β) (decoder : Decoder α) : Decoder β where
  fromText := do
    match check (← decoder.fromText) with
    | .ok result => return result
    | .error fault => Reader.failUnplaced fault
  fromTree tree := decoder.fromTree tree >>= check

/-- A value that one of several alternatives accepts. -/
def alternatives (choice : String) (read? : Json → Option α) : Decoder α where
  fromText := do
    match read? (← Reader.tree) with
    | some result => return result
    | none => Reader.failUnplaced (.noAlternative choice)
  fromTree tree :=
    match read? tree with
    | some result => .ok result
    | none => .error (.noAlternative choice)

/-- The values of a list. -/
def list (decoder : Decoder α) : Decoder (List α) where
  fromText := Reader.placed do
    match ← Reader.peekPart with
    | none => Reader.failAhead .endInValue
    | some '[' =>
        List.reverse <$> Reader.foldList (fun items => do
          return (← decoder.fromText) :: items) []
    | some _ => Reader.wrongType "a sequence"
  fromTree
    | .array items => items.mapM decoder.fromTree
    | other => .error (.wrongType (found other) "a sequence")

/-- The members of an object. -/
def mapping (decoder : Decoder α) : Decoder (Ordered α) where
  fromText := Reader.placed do
    match ← Reader.peekPart with
    | none => Reader.failAhead .endInValue
    | some '{' =>
        (fun members => Ordered.ofList members.reverse) <$>
          Reader.foldObject (fun members name => do
            Reader.colon
            return (name, ← decoder.fromText) :: members) []
    | some _ => Reader.wrongType "a map"
  fromTree
    | .object members =>
        members.mapM (fun member => do return (member.1, ← decoder.fromTree member.2))
    | other => .error (.wrongType (found other) "a map")

/-- One field of a record: how to read what it sets. -/
structure Field (α : Type) where
  name : String
  /-- Whether the list form of the record may end before this field. -/
  mayBeMissing : Bool
  update : Decoder (α → α)

/-- A field that is set to what a decoder reads, and that a list may end before. -/
def Field.of (name : String) (decoder : Decoder β) (set : β → α → α) : Field α :=
  ⟨name, true, decoder.map set⟩

/-- A field that is set to what a decoder reads, and that a list may not end before. -/
def Field.needed (name : String) (decoder : Decoder β) (set : β → α → α) : Field α :=
  ⟨name, false, decoder.map set⟩

/-- The failure for a list that ends before a field it needs. -/
def tooShort (title : String) (fields : List (Field α)) (length : Nat) : Fault :=
  .wrongLength length
    (title ++ " with " ++ toString fields.length ++
      if fields.length = 1 then " element" else " elements")

/-- Read the fields of a record from the elements of a list, in their order. -/
def fieldsFromText (short : Nat → Fault) (first : Bool) (position : Nat) (record : α) :
    List (Field α) → Reader α
  | [] => return record
  | field :: rest => do
      if ← Reader.hasElement first then
        let update ← field.update.fromText
        fieldsFromText short false (position + 1) (update record) rest
      else if field.mayBeMissing then
        fieldsFromText short first (position + 1) record rest
      else Reader.failUnplaced (short position)

/-- Read the fields of a record from the items of a list, in their order. `length` counts all
items of the list. -/
def fieldsFromTree (short : Nat → Fault) (length position : Nat) (record : α) :
    List (Field α) → List Json → Except Fault α
  | [], [] => .ok record
  | [], _ :: _ => .error (.wrongLength length "fewer elements in array")
  | field :: rest, item :: items => do
      let update ← field.update.fromTree item
      fieldsFromTree short length (position + 1) (update record) rest items
  | field :: rest, [] =>
      if field.mayBeMissing then fieldsFromTree short length (position + 1) record rest []
      else .error (short position)

/-- A record, written as an object or as the list of its fields. Members that are no fields are
passed over; a field that is repeated is refused as soon as its name was read. -/
def record (title : String) (blank : α) (fields : List (Field α)) : Decoder α where
  fromText := Reader.placed do
    match ← Reader.peekPart with
    | none => Reader.failAhead .endInValue
    | some '[' =>
        Reader.closedBy
          (Reader.nested (fieldsFromText (tooShort title fields) true 0 blank fields))
          Reader.endList
    | some '{' =>
        (fun state => state.2) <$>
          Reader.foldObject (fun (state : List String × α) name => do
            match fields.find? (fun field => field.name = name) with
            | some field =>
                if name ∈ state.1 then Reader.failUnplaced (.repeatedField name)
                else
                  Reader.colon
                  let update ← field.update.fromText
                  return (name :: state.1, update state.2)
            | none =>
                Reader.colon
                Reader.skipValue
                return state) ([], blank)
    | some _ => Reader.wrongType title
  fromTree
    | .array items => fieldsFromTree (tooShort title fields) items.length 0 blank fields items
    | .object members =>
        members.foldlM (fun current member =>
          match fields.find? (fun field => field.name = member.1) with
          | some field => do
              let update ← field.update.fromTree member.2
              return update current
          | none => .ok current) blank
    | other => .error (.wrongType (found other) title)

/-- Read a value from a whole text. -/
def decode (decoder : Decoder α) (text : String) : Except Failure α :=
  Reader.run decoder.fromText text

end Decoder

end TypedClient.Json
