import TypedClient.Json.Decoder
import TypedClient.Json.Members
import TypedClient.Schema.Basic

/-!
Contract: how a schema is written.

Owns:
- `Keywords`, the keywords of a schema object, each absent or decoded;
- `Keywords.schema`, the schema that the keywords together stand for;
- `Schema.ofJson?`, the schema of a tree, and its decoder.

Does not own: keywords without influence on the type, which are passed over.
-/

namespace TypedClient.Schema

/-- The value of the keyword for the type: one name, or a list of names. -/
inductive TypeNames where
  | single (name : String)
  | several (names : List String)
deriving DecidableEq, Repr

/-- The keyword for the type, decoded. -/
def TypeNames.ofJson? : Json → Option TypeNames
  | .string name => some (.single name)
  | .array items => (items.mapM Json.text?).map .several
  | _ => none

/-- The keywords of a schema object. -/
structure Keywords where
  pointer : Option String := none
  type : Option TypeNames := none
  properties : Option (List (String × Schema)) := none
  required : List String := []
  items : Option Schema := none
  literals : Option (List Json) := none
  constant : Option Json := none
  oneOf : Option (List Schema) := none
  anyOf : Option (List Schema) := none
  allOf : Option (List Schema) := none
  additional : Option Additional := none
  nullable : Option Bool := none

/-- A keyword that says something about the type. -/
inductive Keyword where
  | pointer
  | type
  | properties
  | required
  | items
  | literals
  | constant
  | oneOf
  | anyOf
  | allOf
  | additional
  | nullable
deriving DecidableEq, Repr

/-- The keywords with their names, in the order in which a list gives their values. -/
def Keyword.names : List (String × Keyword) :=
  [("$ref", .pointer), ("type", .type), ("properties", .properties), ("required", .required),
    ("items", .items), ("enum", .literals), ("const", .constant), ("oneOf", .oneOf),
    ("anyOf", .anyOf), ("allOf", .allOf), ("additionalProperties", .additional),
    ("nullable", .nullable)]

def Keyword.ofName? (name : String) : Option Keyword :=
  Ordered.lookup? Keyword.names name

namespace Keywords

def objectSchema (keywords : Keywords) : Schema :=
  .object (keywords.properties.getD []) keywords.required (keywords.additional.getD .closed)

/-- What the keywords say about values whose type is not the matter of a single name. -/
def untypedSchema (keywords : Keywords) : Schema :=
  match keywords.oneOf.or keywords.anyOf, keywords.allOf with
  | some members, _ => .union members
  | none, some parts => .intersection parts
  | none, none => .unknown

def literals? (keywords : Keywords) : Option (List Json) :=
  keywords.literals.or (keywords.constant.map (fun value => [value]))

def schemaOfType (keywords : Keywords) (name : String) : Schema :=
  if name = "array" then .array (keywords.items.getD .unknown)
  else if name = "object" then keywords.objectSchema
  else
    match keywords.literals?, Primitive.ofName? name with
    | some values, _ => .enumeration values
    | none, some kind => .primitive kind
    | none, none => keywords.untypedSchema

/-- The schema when no type is named: properties make it an object. -/
def schemaWithoutType (keywords : Keywords) : Schema :=
  if keywords.properties.isSome || keywords.additional.isSome then keywords.objectSchema
  else
    match keywords.literals? with
    | some values => .enumeration values
    | none => keywords.untypedSchema

/-- The schema for one name of a list of type names: null stands for itself alone. -/
def schemaOfAlternative (keywords : Keywords) (name : String) : Schema :=
  if name = "null" then .primitive .null else keywords.schemaOfType name

/-- The schema of the keywords, apart from whether it is widened by null. A reference wins over
everything beside it. -/
def baseSchema (keywords : Keywords) : Schema :=
  match keywords.pointer with
  | some pointer => .reference pointer
  | none =>
      match keywords.type with
      | none | some (.several []) => keywords.schemaWithoutType
      | some (.single name) => keywords.schemaOfType name
      | some (.several [name]) => keywords.schemaOfAlternative name
      | some (.several names) => .union (names.map keywords.schemaOfAlternative)

def schema (keywords : Keywords) : Schema :=
  if keywords.nullable = some true then keywords.baseSchema.orNull else keywords.baseSchema

end Keywords

mutual

/-- The schema of a tree: an object of keywords, the list of all keyword values, or a flag that
admits everything or nothing. -/
def ofJson? : Json → Option Schema
  | .boolean true => some .unknown
  | .boolean false => some (.enumeration [])
  | .object members =>
      if (members.filterMap (fun member => Keyword.ofName? member.1)).Nodup then
        (keywordsOfMembers? {} members).map Keywords.schema
      else none
  | .array items =>
      (keywordsOfItems? {} (Keyword.names.map Prod.snd) items).map Keywords.schema
  | _ => none

/-- The keywords of a list with one item for each of them, added to those already known. -/
def keywordsOfItems? (keywords : Keywords) : List Keyword → List Json → Option Keywords
  | [], [] => some keywords
  | keyword :: later, item :: rest => do
      let extended ← withKeyword? keywords keyword item
      keywordsOfItems? extended later rest
  | _, _ => none

/-- The keywords among the members of an object, added to those already known. -/
def keywordsOfMembers? (keywords : Keywords) : List (String × Json) → Option Keywords
  | [] => some keywords
  | (name, value) :: rest =>
      match Keyword.ofName? name with
      | some keyword => do
          let extended ← withKeyword? keywords keyword value
          keywordsOfMembers? extended rest
      | none => keywordsOfMembers? keywords rest

/-- The keywords with one more. Null stands for the absence of every keyword but the list of
required names. -/
def withKeyword? (keywords : Keywords) (keyword : Keyword) (value : Json) : Option Keywords :=
  match keyword with
  | .pointer => (Json.optional? Json.text? value).map ({ keywords with pointer := · })
  | .type => (Json.optional? TypeNames.ofJson? value).map ({ keywords with type := · })
  | .properties => (properties? value).map ({ keywords with properties := · })
  | .required => (Json.list? Json.text? value).map ({ keywords with required := · })
  | .items => (items? value).map ({ keywords with items := · })
  | .literals =>
      (Json.optional? (Json.list? (some ∘ Json.collapse)) value).map
        ({ keywords with literals := · })
  | .constant => (Json.optional? (some ∘ Json.collapse) value).map ({ keywords with constant := · })
  | .oneOf => (members? value).map ({ keywords with oneOf := · })
  | .anyOf => (members? value).map ({ keywords with anyOf := · })
  | .allOf => (members? value).map ({ keywords with allOf := · })
  | .additional => (additional? value).map ({ keywords with additional := · })
  | .nullable => (Json.optional? Json.flag? value).map ({ keywords with nullable := · })

/-- The schema of the items, or null for none. -/
def items? : Json → Option (Option Schema)
  | .null => some none
  | other => (ofJson? other).map some

/-- The schema of further properties, a flag, or null for none. -/
def additional? : Json → Option (Option Additional)
  | .null => some none
  | .boolean true => some (some .anything)
  | .boolean false => some (some .closed)
  | other => (ofJson? other).map (some ∘ .schema)

/-- A list of schemas, or null for none. -/
def members? : Json → Option (Option (List Schema))
  | .null => some none
  | .array items => (schemasOfItems? items).map some
  | _ => none

/-- A map of schemas, or null for none. A repeated name keeps its first place and its last
schema. -/
def properties? : Json → Option (Option (List (String × Schema)))
  | .null => some none
  | .object members => (schemasOfMembers? members).map (some ∘ Ordered.ofList)
  | _ => none

def schemasOfItems? : List Json → Option (List Schema)
  | [] => some []
  | item :: rest => do
      let schema ← ofJson? item
      let schemas ← schemasOfItems? rest
      return schema :: schemas

def schemasOfMembers? : List (String × Json) → Option (List (String × Schema))
  | [] => some []
  | (name, value) :: rest => do
      let schema ← ofJson? value
      let schemas ← schemasOfMembers? rest
      return (name, schema) :: schemas

end

/-- Reading a schema looks at the whole tree. -/
def decoder : Json.Decoder Schema :=
  .alternatives "RawSchemaRepr" ofJson?

end TypedClient.Schema
