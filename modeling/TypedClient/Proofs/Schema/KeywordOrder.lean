import Mathlib.Data.List.Perm.Basic
import Mathlib.Tactic.Common
import TypedClient.Schema.Keywords

/-!
Contract: the keywords of a schema object are read one by one, in any order.

Owns:
- `Keyword.read?` and `Keywords.set`, what a keyword is read as and the field that it sets;
- that different keywords set fields of their own, so that the order of members does not matter;
- what one more keyword adds to the keywords of an object;
- that no pointer is known without a reference.

Does not own: the schema that the keywords stand for.
-/

namespace TypedClient.Schema

/-! ## One keyword -/

/-- What the value of a keyword is read as. -/
def Keyword.Value : Keyword → Type
  | .pointer => Option String
  | .type => Option TypeNames
  | .properties => Option (List (String × Schema))
  | .required => List String
  | .items => Option Schema
  | .literals => Option (List Json)
  | .constant => Option Json
  | .oneOf => Option (List Schema)
  | .anyOf => Option (List Schema)
  | .allOf => Option (List Schema)
  | .additional => Option Additional
  | .nullable => Option Bool

/-- The value of a keyword, read from a tree. -/
def Keyword.read? : (keyword : Keyword) → Json → Option keyword.Value
  | .pointer => Json.optional? Json.text?
  | .type => Json.optional? TypeNames.ofJson?
  | .properties => properties?
  | .required => Json.list? Json.text?
  | .items => items?
  | .literals => Json.optional? (Json.list? (some ∘ Json.collapse))
  | .constant => Json.optional? (some ∘ Json.collapse)
  | .oneOf => members?
  | .anyOf => members?
  | .allOf => members?
  | .additional => additional?
  | .nullable => Json.optional? Json.flag?

namespace Keywords

/-- The keywords with the field of one keyword set. -/
def set (keywords : Keywords) : (keyword : Keyword) → keyword.Value → Keywords
  | .pointer, value => { keywords with pointer := value }
  | .type, value => { keywords with type := value }
  | .properties, value => { keywords with properties := value }
  | .required, value => { keywords with required := value }
  | .items, value => { keywords with items := value }
  | .literals, value => { keywords with literals := value }
  | .constant, value => { keywords with constant := value }
  | .oneOf, value => { keywords with oneOf := value }
  | .anyOf, value => { keywords with anyOf := value }
  | .allOf, value => { keywords with allOf := value }
  | .additional, value => { keywords with additional := value }
  | .nullable, value => { keywords with nullable := value }

/-- Different keywords set fields of their own. -/
theorem set_comm (keywords : Keywords) {keyword other : Keyword} (different : keyword ≠ other)
    (value : keyword.Value) (otherValue : other.Value) :
    (keywords.set keyword value).set other otherValue =
      (keywords.set other otherValue).set keyword value := by
  -- Two assignments to fields that differ are the same record in either order.
  cases keyword <;> cases other <;> try rfl
  all_goals exact absurd rfl different

theorem pointer_set (keywords : Keywords) {keyword : Keyword} (different : keyword ≠ .pointer)
    (value : keyword.Value) : (keywords.set keyword value).pointer = keywords.pointer := by
  cases keyword <;> try rfl
  exact absurd rfl different

end Keywords

theorem withKeyword?_eq (keywords : Keywords) (keyword : Keyword) (value : Json) :
    withKeyword? keywords keyword value = (keyword.read? value).map (keywords.set keyword) := by
  cases keyword <;> rw [withKeyword?] <;> rfl

/-! ## The members of an object -/

/-- The keywords with what one member of an object says, if it is a keyword. -/
def withMember? (keywords : Keywords) (member : String × Json) : Option Keywords :=
  match Keyword.ofName? member.1 with
  | some keyword => (keyword.read? member.2).map (keywords.set keyword)
  | none => some keywords

section Members

variable {member other : String × Json} {keyword otherKeyword : Keyword}

theorem withMember?_of_known (known : Keyword.ofName? member.1 = some keyword)
    (keywords : Keywords) :
    withMember? keywords member = (keyword.read? member.2).map (keywords.set keyword) := by
  rw [withMember?, known]

theorem withMember?_of_unknown (unknown : Keyword.ofName? member.1 = none) (keywords : Keywords) :
    withMember? keywords member = some keywords := by
  rw [withMember?, unknown]

theorem keywordsOfMembers?_cons (keywords : Keywords) (member : String × Json)
    (rest : List (String × Json)) :
    keywordsOfMembers? keywords (member :: rest) =
      (withMember? keywords member).bind (keywordsOfMembers? · rest) := by
  rw [keywordsOfMembers?]
  cases known : Keyword.ofName? member.1 with
  | none =>
      rw [withMember?_of_unknown known]
      rfl
  | some keyword =>
      rw [withMember?_of_known known, ← withKeyword?_eq]
      rfl

/-- The known keywords among the members of an object. -/
def keywordsIn (members : List (String × Json)) : List Keyword :=
  members.filterMap (fun member => Keyword.ofName? member.1)

theorem keywordsIn_cons_of_known (known : Keyword.ofName? member.1 = some keyword)
    (members : List (String × Json)) :
    keywordsIn (member :: members) = keyword :: keywordsIn members :=
  List.filterMap_cons_some known

theorem keywordsIn_cons_of_unknown (unknown : Keyword.ofName? member.1 = none)
    (members : List (String × Json)) : keywordsIn (member :: members) = keywordsIn members :=
  List.filterMap_cons_none unknown

/-- Members that are different keywords can be read in either order. -/
theorem withMember?_comm (known : Keyword.ofName? member.1 = some keyword)
    (otherKnown : Keyword.ofName? other.1 = some otherKeyword) (different : keyword ≠ otherKeyword)
    (keywords : Keywords) :
    (withMember? keywords member).bind (withMember? · other) =
      (withMember? keywords other).bind (withMember? · member) := by
  simp only [withMember?_of_known known, withMember?_of_known otherKnown]
  cases keyword.read? member.2 with
  | none => cases otherKeyword.read? other.2 <;> rfl
  | some value =>
      cases otherKeyword.read? other.2 with
      | none => rfl
      | some otherValue => exact congrArg some (keywords.set_comm different value otherValue)

/-- Two members in front can be read in either order, unless they are the same keyword. -/
theorem keywordsOfMembers?_swap {rest : List (String × Json)}
    (distinct : (keywordsIn (member :: other :: rest)).Nodup) (keywords : Keywords) :
    keywordsOfMembers? keywords (member :: other :: rest) =
      keywordsOfMembers? keywords (other :: member :: rest) := by
  simp only [keywordsOfMembers?_cons]
  rw [← Option.bind_assoc, ← Option.bind_assoc]
  congr 1
  cases known : Keyword.ofName? member.1 with
  | none => simp [withMember?_of_unknown known]
  | some keyword =>
      cases otherKnown : Keyword.ofName? other.1 with
      | none => simp [withMember?_of_unknown otherKnown]
      | some otherKeyword =>
          rw [keywordsIn_cons_of_known known, keywordsIn_cons_of_known otherKnown,
            List.nodup_cons, List.mem_cons, not_or] at distinct
          exact withMember?_comm known otherKnown distinct.1.1 keywords

theorem keywordsOfMembers?_perm {members permuted : List (String × Json)}
    (same : members.Perm permuted) (distinct : (keywordsIn members).Nodup) (keywords : Keywords) :
    keywordsOfMembers? keywords members = keywordsOfMembers? keywords permuted := by
  induction same generalizing keywords with
  | nil => rfl
  | cons member _ inductionHypothesis =>
      have later := distinct.sublist ((List.sublist_cons_self member _).filterMap _)
      simp only [keywordsOfMembers?_cons, inductionHypothesis later]
  | swap member other rest => exact keywordsOfMembers?_swap distinct keywords
  | trans first _ ofFirst ofSecond =>
      have permuted : (keywordsIn _).Nodup := (first.filterMap _).nodup_iff.1 distinct
      exact (ofFirst distinct keywords).trans (ofSecond permuted keywords)

/-- The keywords of an object, none of them given twice. -/
def keywordsOf? (members : List (String × Json)) : Option Keywords :=
  if (keywordsIn members).Nodup then keywordsOfMembers? {} members else none

theorem ofJson?_object (members : List (String × Json)) :
    ofJson? (.object members) = (keywordsOf? members).map Keywords.schema := by
  rw [ofJson?, keywordsOf?]
  change (if (keywordsIn members).Nodup then _ else _) = _
  split <;> rfl

/-- The order in which an object gives its keywords does not matter. -/
theorem ofJson?_perm {members permuted : List (String × Json)} (same : members.Perm permuted) :
    ofJson? (.object members) = ofJson? (.object permuted) := by
  have sameKeywords : (keywordsIn members).Nodup ↔ (keywordsIn permuted).Nodup :=
    (same.filterMap _).nodup_iff
  rw [ofJson?_object, ofJson?_object, keywordsOf?, keywordsOf?]
  by_cases distinct : (keywordsIn members).Nodup
  · rw [if_pos distinct, if_pos (sameKeywords.1 distinct), keywordsOfMembers?_perm same distinct]
  · rw [if_neg distinct, if_neg (fun others => distinct (sameKeywords.2 others))]

/-! ## One more keyword -/

/-- A field that no member sets can be set before or after all of them. -/
theorem keywordsOfMembers?_set {members : List (String × Json)}
    (missing : keyword ∉ keywordsIn members) (value : keyword.Value) (keywords : Keywords) :
    keywordsOfMembers? (keywords.set keyword value) members =
      (keywordsOfMembers? keywords members).map (·.set keyword value) := by
  induction members generalizing keywords with
  | nil => simp [keywordsOfMembers?]
  | cons member rest inductionHypothesis =>
      rw [keywordsOfMembers?_cons, keywordsOfMembers?_cons]
      cases known : Keyword.ofName? member.1 with
      | none =>
          rw [keywordsIn_cons_of_unknown known] at missing
          rw [withMember?_of_unknown known, withMember?_of_unknown known, Option.bind_some,
            Option.bind_some, inductionHypothesis missing]
      | some other =>
          rw [keywordsIn_cons_of_known known, List.mem_cons, not_or] at missing
          rw [withMember?_of_known known, withMember?_of_known known]
          cases other.read? member.2 with
          | none => rfl
          | some otherValue =>
              rw [Option.map_some, Option.map_some, Option.bind_some, Option.bind_some,
                keywords.set_comm missing.1, inductionHypothesis missing.2]

/-- One more member sets its field, unless the object gives its keyword already. -/
theorem keywordsOf?_cons (known : Keyword.ofName? member.1 = some keyword) {value : keyword.Value}
    (reads : keyword.read? member.2 = some value) (members : List (String × Json)) :
    keywordsOf? (member :: members) =
      if keyword ∈ keywordsIn members then none
      else (keywordsOf? members).map (·.set keyword value) := by
  have distinct : (keywordsIn (member :: members)).Nodup ↔
      keyword ∉ keywordsIn members ∧ (keywordsIn members).Nodup := by
    rw [keywordsIn_cons_of_known known, List.nodup_cons]
  by_cases given : keyword ∈ keywordsIn members
  · rw [if_pos given, keywordsOf?, if_neg (fun both => (distinct.1 both).1 given)]
  · rw [if_neg given, keywordsOf?, keywordsOf?, keywordsOfMembers?_cons,
      withMember?_of_known known, reads, Option.map_some, Option.bind_some,
      keywordsOfMembers?_set given]
    by_cases others : (keywordsIn members).Nodup
    · rw [if_pos (distinct.2 ⟨given, others⟩), if_pos others]
    · rw [if_neg (fun both => others (distinct.1 both).2), if_neg others]
      rfl

/-- What a keyword is read as when no member gives it. -/
theorem set_of_missing {members : List (String × Json)} (missing : keyword ∉ keywordsIn members)
    {value : keyword.Value} (absent : ({} : Keywords).set keyword value = {}) {keywords : Keywords}
    (read : keywordsOf? members = some keywords) : keywords.set keyword value = keywords := by
  rw [keywordsOf?, Option.ite_none_right_eq_some] at read
  have same := keywordsOfMembers?_set missing value {}
  rw [absent, read.2, Option.map_some, Option.some.injEq] at same
  exact same.symm

end Members

/-! ## References -/

theorem Keyword.mem_names_of_ofName? {name : String} {keyword : Keyword}
    (known : Keyword.ofName? name = some keyword) : (name, keyword) ∈ Keyword.names := by
  rw [Keyword.ofName?, Ordered.lookup?, Option.map_eq_some_iff] at known
  obtain ⟨entry, found, isKeyword⟩ := known
  have isName : entry.1 = name := by simpa using List.find?_some found
  rw [← isName, ← isKeyword]
  exact List.mem_of_find?_eq_some found

/-- The keyword of references reads a text as a pointer, and nothing else as one. -/
theorem eq_string_of_reads {tree : Json} {pointer : String}
    (reads : Keyword.pointer.read? tree = some (some pointer)) : tree = .string pointer := by
  change Json.optional? Json.text? tree = some (some pointer) at reads
  cases tree with
  | string text =>
      obtain rfl : text = pointer := by simpa [Json.optional?, Json.text?] using reads
      rfl
  | _ => simp [Json.optional?, Json.text?] at reads

/-- No pointer is known without a reference. -/
theorem pointer_eq_none {members : List (String × Json)}
    (noReference : ∀ pointer, ("$ref", Json.string pointer) ∉ members) {keywords result : Keywords}
    (unset : keywords.pointer = none) (read : keywordsOfMembers? keywords members = some result) :
    result.pointer = none := by
  induction members generalizing keywords with
  | nil =>
      obtain rfl : keywords = result := by simpa [keywordsOfMembers?] using read
      exact unset
  | cons member rest inductionHypothesis =>
      have later : ∀ pointer, ("$ref", Json.string pointer) ∉ rest :=
        fun pointer isLater => noReference pointer (List.mem_cons_of_mem _ isLater)
      rw [keywordsOfMembers?_cons] at read
      obtain ⟨extended, here, read⟩ := Option.bind_eq_some_iff.1 read
      refine inductionHypothesis later ?_ read
      cases known : Keyword.ofName? member.1 with
      | none =>
          obtain rfl : keywords = extended := by simpa [withMember?_of_unknown known] using here
          exact unset
      | some keyword =>
          rw [withMember?_of_known known] at here
          obtain ⟨value, reads, rfl⟩ := Option.map_eq_some_iff.1 here
          by_cases isReference : keyword = .pointer
          · subst isReference
            cases value with
            | none => rfl
            | some pointer =>
                have named : member.1 = "$ref" := by
                  simpa [Keyword.names] using Keyword.mem_names_of_ofName? known
                have written := eq_string_of_reads reads
                exact absurd (List.mem_cons.2 (Or.inl (Prod.ext named written).symm))
                  (noReference pointer)
          · rw [keywords.pointer_set isReference]
            exact unset

end TypedClient.Schema
