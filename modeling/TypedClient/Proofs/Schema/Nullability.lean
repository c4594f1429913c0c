import TypedClient.Proofs.Schema.KeywordOrder

/-!
Contract: the two ways to say that a value may be null.

Owns:
- `Schema.alternatives`, what a schema admits one of, and that widening by null adds null at its end
  unless it is there;
- that a flag beside a type and null in a list of types make the same schema;
- that the flag widens what the other keywords stand for, in any order of them.

Does not own: what null means for the types of the generated code.
-/

namespace TypedClient.Schema

/-! ## Widening by null -/

/-- The schemas of which a value has to match one: the members of a union, else the schema alone. -/
def alternatives : Schema → List Schema
  | .union members => members
  | other => [other]

/-- Null at the end of the alternatives, unless it is among them. -/
theorem orNull_eq (schema : Schema) :
    schema.orNull = if schema.alternatives.any isNull then schema
      else .union (schema.alternatives ++ [.primitive .null]) := by
  cases schema with
  | union members =>
      rw [orNull, alternatives]
  | primitive kind => cases kind <;> rfl
  | _ => rfl

theorem mem_alternatives_iff {schema : Schema} :
    schema.alternatives.any isNull = true ↔ .primitive .null ∈ schema.alternatives := by
  simp [isNull_iff]

theorem orNull_of_mem {schema : Schema} (admits : .primitive .null ∈ schema.alternatives) :
    schema.orNull = schema := by
  rw [orNull_eq, if_pos (mem_alternatives_iff.2 admits)]

theorem orNull_of_not_mem {schema : Schema} (lacks : .primitive .null ∉ schema.alternatives) :
    schema.orNull = .union (schema.alternatives ++ [.primitive .null]) := by
  rw [orNull_eq, if_neg (fun admits => lacks (mem_alternatives_iff.1 admits))]

theorem mem_alternatives_orNull (schema : Schema) :
    .primitive .null ∈ schema.orNull.alternatives := by
  by_cases admits : .primitive .null ∈ schema.alternatives
  · rwa [orNull_of_mem admits]
  · rw [orNull_of_not_mem admits, alternatives]
    simp

theorem orNull_orNull (schema : Schema) : schema.orNull.orNull = schema.orNull :=
  orNull_of_mem (mem_alternatives_orNull schema)

theorem orNull_of_single {schema : Schema} (single : schema.alternatives = [schema])
    (notNull : schema ≠ .primitive .null) : schema.orNull = .union [schema, .primitive .null] := by
  have lacks : .primitive .null ∉ schema.alternatives := by
    rw [single, List.mem_singleton]
    exact notNull.symm
  rw [orNull_of_not_mem lacks, single]
  rfl

/-! ## Types beside null -/

/-- The types of which a value may be null instead. -/
def nullableTypes : List String := ["array", "object", "string", "number", "integer", "boolean"]

namespace Keywords

variable {name : String}

theorem orNull_schemaOfType_of_primitive (keywords : Keywords) {kind : Primitive}
    (isKind : Primitive.ofName? name = some kind) (notNull : kind ≠ .null) :
    (keywords.schemaOfType name).orNull =
      .union [keywords.schemaOfType name, .primitive .null] := by
  have notArray : name ≠ "array" := by
    rintro rfl
    cases isKind
  have notObject : name ≠ "object" := by
    rintro rfl
    cases isKind
  rw [schemaOfType, if_neg notArray, if_neg notObject, isKind]
  cases keywords.literals? with
  | some values => rfl
  | none => exact orNull_of_single rfl (by simpa using notNull)

/-- The schema of a type is a single alternative other than null, whatever else is said. -/
theorem orNull_schemaOfType (keywords : Keywords) (isType : name ∈ nullableTypes) :
    (keywords.schemaOfType name).orNull =
      .union [keywords.schemaOfType name, .primitive .null] := by
  simp only [nullableTypes, List.mem_cons, List.not_mem_nil, or_false] at isType
  rcases isType with rfl | rfl | rfl | rfl | rfl | rfl
  · rfl
  · rfl
  · exact keywords.orNull_schemaOfType_of_primitive rfl (by decide)
  · exact keywords.orNull_schemaOfType_of_primitive rfl (by decide)
  · exact keywords.orNull_schemaOfType_of_primitive rfl (by decide)
  · exact keywords.orNull_schemaOfType_of_primitive rfl (by decide)

theorem schemaOfAlternative_of_isType (keywords : Keywords) (isType : name ∈ nullableTypes) :
    keywords.schemaOfAlternative name = keywords.schemaOfType name := by
  refine if_neg ?_
  rintro rfl
  exact absurd isType (by decide)

/-- The keywords with a type, which replaces theirs. -/
def typed (keywords : Keywords) (names : TypeNames) : Keywords := keywords.set .type (some names)

/-- The keywords with the flag for null. -/
def flagged (keywords : Keywords) : Keywords := keywords.set .nullable (some true)

/-- The flag widens what the keywords stand for. -/
theorem schema_flagged (keywords : Keywords) : keywords.flagged.schema = keywords.schema.orNull := by
  have always : keywords.flagged.schema = keywords.baseSchema.orNull := if_pos rfl
  rw [always, schema]
  split
  · exact (orNull_orNull _).symm
  · rfl

variable {keywords : Keywords}

theorem schema_single (noPointer : keywords.pointer = none) (unflagged : keywords.nullable = none)
    (name : String) : (keywords.typed (.single name)).schema = keywords.schemaOfType name := by
  have sameFlag : (keywords.typed (.single name)).nullable = none := unflagged
  have samePointer : (keywords.typed (.single name)).pointer = none := noPointer
  rw [schema, sameFlag, if_neg nofun, baseSchema, samePointer]
  rfl

/-- A type beside null is an alternative beside null, with the flag and without it. -/
theorem schema_besideNull (noPointer : keywords.pointer = none) (isType : name ∈ nullableTypes) :
    (keywords.typed (.several [name, "null"])).schema =
      .union [keywords.schemaOfType name, .primitive .null] := by
  have samePointer : (keywords.typed (.several [name, "null"])).pointer = none := noPointer
  have base : (keywords.typed (.several [name, "null"])).baseSchema =
      .union [keywords.schemaOfType name, .primitive .null] := by
    rw [baseSchema, samePointer]
    change Schema.union [keywords.schemaOfAlternative name, .primitive .null] = _
    rw [keywords.schemaOfAlternative_of_isType isType]
  rw [schema, base]
  split
  · exact orNull_of_mem (by simp [alternatives])
  · rfl

end Keywords

/-! ## Objects -/

section Objects

variable {members : List (String × Json)}

theorem not_mem_keywordsIn (missing : "nullable" ∉ Ordered.keys members) :
    .nullable ∉ keywordsIn members := by
  intro given
  obtain ⟨member, isMember, known⟩ := List.mem_filterMap.1 given
  have named : member.1 = "nullable" := by
    simpa [Keyword.names] using Keyword.mem_names_of_ofName? known
  exact missing (named ▸ List.mem_map_of_mem isMember)

/-- The flag in front of the members of an object. -/
theorem keywordsOf?_flagged (missing : .nullable ∉ keywordsIn members) :
    keywordsOf? (("nullable", .boolean true) :: members) =
      (keywordsOf? members).map Keywords.flagged := by
  have known : Keyword.ofName? "nullable" = some .nullable := rfl
  exact (keywordsOf?_cons known rfl members).trans (if_neg missing)

/-- A type in front of the members of an object. -/
theorem keywordsOf?_typed {tree : Json} {names : TypeNames}
    (reads : TypeNames.ofJson? tree = some names) (members : List (String × Json)) :
    keywordsOf? (("type", tree) :: members) =
      if .type ∈ keywordsIn members then none else (keywordsOf? members).map (·.typed names) := by
  have known : Keyword.ofName? "type" = some .type := rfl
  have readsKeyword : Keyword.type.read? tree = some (some names) := by
    change Json.optional? TypeNames.ofJson? tree = some (some names)
    cases tree with
    | null => cases reads
    | _ => exact congrArg (Option.map some) reads
  exact keywordsOf?_cons known readsKeyword members

theorem ofJson?_flagged (missing : .nullable ∉ keywordsIn members) :
    ofJson? (.object (("nullable", .boolean true) :: members)) =
      (ofJson? (.object members)).map orNull := by
  rw [ofJson?_object, ofJson?_object, keywordsOf?_flagged missing, Option.map_map, Option.map_map]
  exact congrArg (Option.map · _) (funext Keywords.schema_flagged)

/-- The flag behind a type widens as well as in front of it. -/
theorem ofJson?_flaggedType (missing : .nullable ∉ keywordsIn members) (tree : Json) :
    ofJson? (.object (("type", tree) :: ("nullable", .boolean true) :: members)) =
      (ofJson? (.object (("type", tree) :: members))).map orNull := by
  have known : Keyword.ofName? "type" = some .type := rfl
  have stillMissing : .nullable ∉ keywordsIn (("type", tree) :: members) := by
    rw [keywordsIn_cons_of_known known, List.mem_cons, not_or]
    exact ⟨nofun, missing⟩
  rw [ofJson?_perm (List.Perm.swap _ _ _), ofJson?_flagged stillMissing]

theorem ofJson?_typed {tree : Json} {names : TypeNames}
    (reads : TypeNames.ofJson? tree = some names) (members : List (String × Json)) :
    ofJson? (.object (("type", tree) :: members)) =
      if .type ∈ keywordsIn members then none
      else (keywordsOf? members).map (fun keywords => (keywords.typed names).schema) := by
  rw [ofJson?_object, keywordsOf?_typed reads]
  split
  · rfl
  · exact Option.map_map ..

/-- Members without a reference and without the flag say neither. -/
theorem absent_of_read (noReference : ∀ pointer, ("$ref", Json.string pointer) ∉ members)
    (missing : .nullable ∉ keywordsIn members) {keywords : Keywords}
    (read : keywordsOf? members = some keywords) :
    keywords.pointer = none ∧ keywords.nullable = none := by
  have unflagged := @set_of_missing .nullable members missing none rfl keywords read
  rw [keywordsOf?, Option.ite_none_right_eq_some] at read
  exact ⟨pointer_eq_none noReference rfl read.2, congrArg Keywords.nullable unflagged.symm⟩

variable {name : String}

/-- The schema of a type alone. -/
theorem ofJson?_single (noReference : ∀ pointer, ("$ref", Json.string pointer) ∉ members)
    (missing : .nullable ∉ keywordsIn members) (name : String) :
    ofJson? (.object (("type", .string name) :: members)) =
      if .type ∈ keywordsIn members then none
      else (keywordsOf? members).map (·.schemaOfType name) := by
  have singleName : TypeNames.ofJson? (.string name) = some (.single name) := rfl
  rw [ofJson?_typed singleName]
  congr 1
  refine Option.map_congr (fun keywords read => ?_)
  obtain ⟨noPointer, unflagged⟩ := absent_of_read noReference missing read
  exact Keywords.schema_single noPointer unflagged name

/-- The schema of a type beside null in a list of types. -/
theorem ofJson?_besideNull (isType : name ∈ nullableTypes)
    (noReference : ∀ pointer, ("$ref", Json.string pointer) ∉ members)
    (missing : .nullable ∉ keywordsIn members) :
    ofJson? (.object (("type", .array [.string name, .string "null"]) :: members)) =
      (ofJson? (.object (("type", .string name) :: members))).map
        (fun single => .union [single, .primitive .null]) := by
  have severalNames : TypeNames.ofJson? (.array [.string name, .string "null"]) =
      some (.several [name, "null"]) := rfl
  rw [ofJson?_typed severalNames, ofJson?_single noReference missing]
  split
  · rfl
  · rw [Option.map_map]
    refine Option.map_congr (fun keywords read => ?_)
    exact Keywords.schema_besideNull (absent_of_read noReference missing read).1 isType

/-- The flag beside a type makes null an alternative beside its schema. -/
theorem map_orNull_single (isType : name ∈ nullableTypes)
    (noReference : ∀ pointer, ("$ref", Json.string pointer) ∉ members)
    (missing : .nullable ∉ keywordsIn members) :
    (ofJson? (.object (("type", .string name) :: members))).map orNull =
      (ofJson? (.object (("type", .string name) :: members))).map
        (fun single => .union [single, .primitive .null]) := by
  rw [ofJson?_single noReference missing]
  split
  · rfl
  · rw [Option.map_map, Option.map_map]
    exact Option.map_congr (fun keywords _ => keywords.orNull_schemaOfType isType)

end Objects

/-- **The two ways to say that a value may be null agree.** In a schema without a reference, a type
with the flag for null and the type beside null in a list of types both stand for the schema of the
type with null as a further alternative, and the flag adds nothing to the list. In any schema, the
flag widens what the other keywords stand for by null. The order in which the keywords are given
does not matter. Widening keeps the alternatives in their order, adds null behind them unless it is
among them, and changes nothing when it is done again. -/
theorem nullability_spellings_agree :
    (∀ (name : String) (others : List (String × Json)), name ∈ nullableTypes →
      (∀ pointer, ("$ref", Json.string pointer) ∉ others) → "nullable" ∉ Ordered.keys others →
      let alone : String × Json := ("type", .string name)
      let besideNull : String × Json := ("type", .array [.string name, .string "null"])
      let flag : String × Json := ("nullable", .boolean true)
      let widened := (ofJson? (.object (alone :: others))).map
        (fun single => Schema.union [single, .primitive .null])
      ofJson? (.object (alone :: flag :: others)) = widened ∧
        ofJson? (.object (besideNull :: others)) = widened ∧
        ofJson? (.object (besideNull :: flag :: others)) = widened) ∧
    (∀ members : List (String × Json), "nullable" ∉ Ordered.keys members →
      ofJson? (.object (("nullable", .boolean true) :: members)) =
        (ofJson? (.object members)).map orNull) ∧
    (∀ members permuted : List (String × Json), members.Perm permuted →
      ofJson? (.object members) = ofJson? (.object permuted)) ∧
    ∀ schema : Schema,
      schema.orNull.orNull = schema.orNull ∧
        .primitive .null ∈ schema.orNull.alternatives ∧
        (schema.orNull.alternatives = schema.alternatives ∨
          .primitive .null ∉ schema.alternatives ∧
            schema.orNull.alternatives = schema.alternatives ++ [.primitive .null]) := by
  refine ⟨fun name others isType noReference unflagged => ?_, fun members unflagged => ?_,
    fun _ _ => ofJson?_perm, fun schema => ⟨orNull_orNull schema, mem_alternatives_orNull schema, ?_⟩⟩
  · have missing := not_mem_keywordsIn unflagged
    have beside := ofJson?_besideNull isType noReference missing
    refine ⟨?_, beside, ?_⟩
    · rw [ofJson?_flaggedType missing]
      exact map_orNull_single isType noReference missing
    · rw [ofJson?_flaggedType missing, beside, Option.map_map]
      exact congrArg (Option.map · _) (funext fun single => orNull_of_mem (by simp [alternatives]))
  · exact ofJson?_flagged (not_mem_keywordsIn unflagged)
  · by_cases admits : .primitive .null ∈ schema.alternatives
    · exact Or.inl (by rw [orNull_of_mem admits])
    · exact Or.inr ⟨admits, by rw [orNull_of_not_mem admits]; rfl⟩

/-- An object that may be null, with a property that may be null too: the flag behind the type, null
beside the type, and the flag in front of the type. -/
theorem nullable_object_spelled_alike :
    let others : List (String × Json) :=
      [("properties", .object
          [("id", .object [("type", .string "integer"), ("nullable", .boolean true)])]),
        ("required", .array [.string "id"])]
    let decoded : Schema :=
      .union [.object [("id", .union [.primitive .integer, .primitive .null])] ["id"] .closed,
        .primitive .null]
    ofJson? (.object (("type", .string "object") :: ("nullable", .boolean true) :: others)) =
        some decoded ∧
      ofJson? (.object (("type", .array [.string "object", .string "null"]) :: others)) =
        some decoded ∧
      ofJson? (.object (("nullable", .boolean true) :: ("type", .string "object") :: others)) =
        some decoded ∧
      decoded.orNull = decoded := by
  intro others decoded
  obtain ⟨spellings, flag, -, widening⟩ := nullability_spellings_agree
  obtain ⟨flagged, besideNull, -⟩ := spellings "object" others (by decide)
    (fun pointer => by simp [others]) (by decide)
  have single : ofJson? (.object (("type", .string "object") :: others)) =
      some (.object [("id", .union [.primitive .integer, .primitive .null])] ["id"] .closed) := by
    simp [others, ofJson?, keywordsOfMembers?, withKeyword?, properties?, schemasOfMembers?,
      Keyword.ofName?, Keyword.names, Ordered.lookup?, Ordered.ofList, Ordered.insert,
      Json.optional?, Json.list?, Json.text?, Json.flag?, TypeNames.ofJson?, Keywords.schema,
      Keywords.baseSchema, Keywords.schemaOfType, Keywords.objectSchema, Keywords.literals?,
      Primitive.ofName?, orNull]
  rw [single] at flagged besideNull
  have inFront := flag (("type", .string "object") :: others) (by decide)
  rw [single] at inFront
  exact ⟨flagged, besideNull, inFront, (widening (.object _ _ .closed)).1⟩

end TypedClient.Schema
