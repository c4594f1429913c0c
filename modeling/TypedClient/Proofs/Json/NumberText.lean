import TypedClient.Json.Compact

/-!
Contract: the characters of numbers.

Owns:
- `InNumber`, that a text has no other characters than digits, signs, dots and the letter of an
  exponent;
- that all numbers are written with these characters, and that the first one is a digit or a sign.

Does not own: which number a text stands for.
-/

namespace TypedClient.Json

/-! ## All characters -/

def isNumeric (character : Char) : Bool :=
  character.isDigit || ['.', '-', '+', 'e'].contains character

def InNumber (text : List Char) : Prop := ∀ character ∈ text, isNumeric character = true

theorem inNumber_nil : InNumber [] := fun _ member => absurd member List.not_mem_nil

theorem inNumber_cons {character : Char} {rest : List Char} :
    InNumber (character :: rest) ↔ isNumeric character = true ∧ InNumber rest :=
  List.forall_mem_cons

theorem inNumber_append {first second : List Char} :
    InNumber (first ++ second) ↔ InNumber first ∧ InNumber second :=
  List.forall_mem_append

theorem InNumber.take {text : List Char} (inNumber : InNumber text) (count : Nat) :
    InNumber (text.take count) :=
  fun character member => inNumber character (List.mem_of_mem_take member)

theorem InNumber.drop {text : List Char} (inNumber : InNumber text) (count : Nat) :
    InNumber (text.drop count) :=
  fun character member => inNumber character (List.mem_of_mem_drop member)

theorem inNumber_zeros (count : Nat) : InNumber (List.replicate count '0') := by
  intro character member
  rw [List.eq_of_mem_replicate member]
  rfl

theorem inNumber_toDigits (value : Nat) : InNumber (Nat.toDigits 10 value) := by
  intro character member
  have isDigit := Nat.isDigit_of_mem_toDigits (by decide) (by decide) member
  rw [isNumeric, isDigit, Bool.true_or]

theorem inNumber_toString (value : Nat) : InNumber (toString value).toList := by
  rw [Nat.toString_eq_repr, Nat.toList_repr]
  exact inNumber_toDigits value

theorem inNumber_integer (value : Int) : InNumber (toString value).toList := by
  cases value with
  | ofNat number => exact inNumber_toString number
  | negSucc number =>
      have signed : toString (Int.negSucc number) = "-" ++ toString (number + 1) := rfl
      rw [signed, String.toList_append]
      exact inNumber_cons.2 ⟨rfl, inNumber_toString (number + 1)⟩

theorem inNumber_positional {digits : List Char} (inDigits : InNumber digits) (leading : Int) :
    InNumber (Number.Layout.positional digits leading) := by
  unfold Number.Layout.positional
  split
  · rw [inNumber_append, inNumber_cons, inNumber_cons]
    exact ⟨⟨rfl, rfl, inNumber_zeros _⟩, inDigits⟩
  · have inPadded : InNumber (digits ++ List.replicate (leading.toNat + 1 - digits.length) '0') :=
      inNumber_append.2 ⟨inDigits, inNumber_zeros _⟩
    refine inNumber_append.2 ⟨inPadded.take _, inNumber_cons.2 ⟨rfl, ?_⟩⟩
    split
    · exact inNumber_zeros 1
    · exact inPadded.drop _

theorem inNumber_exponential {digits : List Char} (inDigits : InNumber digits) (plusSign : Bool)
    (leading : Int) : InNumber (Number.Layout.exponential plusSign digits leading) := by
  have inMantissa : InNumber
      (digits.take 1 ++ if digits.length ≤ 1 then [] else '.' :: digits.drop 1) := by
    refine inNumber_append.2 ⟨inDigits.take 1, ?_⟩
    split
    · exact inNumber_nil
    · exact inNumber_cons.2 ⟨rfl, inDigits.drop 1⟩
  have inSign : InNumber (if leading < 0 then ['-'] else if plusSign then ['+'] else []) := by
    split
    · exact inNumber_cons.2 ⟨rfl, inNumber_nil⟩
    · split
      · exact inNumber_cons.2 ⟨rfl, inNumber_nil⟩
      · exact inNumber_nil
  exact inNumber_append.2 ⟨inNumber_append.2 ⟨inMantissa, inNumber_cons.2 ⟨rfl, inSign⟩⟩,
    inNumber_toDigits leading.natAbs⟩

theorem inNumber_real (layout : Number.Layout) (value : Number.Binary64) :
    InNumber (layout.write value).toList := by
  have inSign : InNumber (if value.negative then ['-'] else []) := by
    split
    · exact inNumber_cons.2 ⟨rfl, inNumber_nil⟩
    · exact inNumber_nil
  have inDigits := inNumber_toDigits value.shortest.digits
  simp only [Number.Layout.write]
  split
  · rw [String.toList_ofList]
    exact inNumber_append.2 ⟨inSign,
      inNumber_cons.2 ⟨rfl, inNumber_cons.2 ⟨rfl, inNumber_cons.2 ⟨rfl, inNumber_nil⟩⟩⟩⟩
  · rw [String.toList_ofList]
    refine inNumber_append.2 ⟨inSign, ?_⟩
    split
    · exact inNumber_positional inDigits _
    · exact inNumber_exponential inDigits _ _

theorem inNumber_compact (value : Json.Number) : InNumber (Number.compact value).toList := by
  cases value with
  | integer value => exact inNumber_integer value
  | real value => exact inNumber_real numberLayout value

/-! ## The first character -/

/-- The text of a number starts with a digit or a sign. -/
def StartsNumber (text : List Char) : Prop :=
  ∃ first rest, text = first :: rest ∧ (first = '-' ∨ first.isDigit = true)

theorem exists_toDigits (number : Nat) :
    ∃ first rest, Nat.toDigits 10 number = first :: rest ∧ first.isDigit = true := by
  have nonempty : Nat.toDigits 10 number ≠ [] := Nat.toDigits_ne_nil
  obtain ⟨first, rest, written⟩ := List.exists_cons_of_ne_nil nonempty
  have member : first ∈ Nat.toDigits 10 number := by
    rw [written]
    exact List.mem_cons_self
  exact ⟨first, rest, written, Nat.isDigit_of_mem_toDigits (by decide) (by decide) member⟩

theorem startsNumber_integer (value : Int) : StartsNumber (toString value).toList := by
  cases value with
  | ofNat number =>
      obtain ⟨first, rest, written, isDigit⟩ := exists_toDigits number
      have text : (toString (Int.ofNat number)).toList = Nat.toDigits 10 number := by
        change (toString number).toList = _
        rw [Nat.toString_eq_repr, Nat.toList_repr]
      exact ⟨first, rest, text.trans written, Or.inr isDigit⟩
  | negSucc number =>
      have signed : toString (Int.negSucc number) = "-" ++ toString (number + 1) := rfl
      exact ⟨'-', (toString (number + 1)).toList, by rw [signed, String.toList_append]; rfl,
        Or.inl rfl⟩

theorem startsNumber_positional {first : Char} (isDigit : first.isDigit = true) (rest : List Char)
    (leading : Int) : StartsNumber (Number.Layout.positional (first :: rest) leading) := by
  unfold Number.Layout.positional
  split
  · exact ⟨_, _, rfl, Or.inr rfl⟩
  · exact ⟨_, _, rfl, Or.inr isDigit⟩

theorem startsNumber_real (layout : Number.Layout) (value : Number.Binary64) :
    StartsNumber (layout.write value).toList := by
  have ofSigned : ∀ body : List Char, StartsNumber body →
      StartsNumber ((if value.negative then ['-'] else []) ++ body) := by
    intro body starts
    cases value.negative with
    | true => exact ⟨'-', body, rfl, Or.inl rfl⟩
    | false => exact starts
  obtain ⟨first, rest, written, isDigit⟩ := exists_toDigits value.shortest.digits
  simp only [Number.Layout.write, written]
  split
  · rw [String.toList_ofList]
    exact ofSigned _ ⟨_, _, rfl, Or.inr rfl⟩
  · rw [String.toList_ofList]
    apply ofSigned
    split
    · exact startsNumber_positional isDigit rest _
    · exact ⟨_, _, rfl, Or.inr isDigit⟩

theorem startsNumber_compact (value : Json.Number) :
    StartsNumber (Number.compact value).toList := by
  cases value with
  | integer value => exact startsNumber_integer value
  | real value => exact startsNumber_real numberLayout value

end TypedClient.Json
