import Mathlib.Data.List.SplitBy
import TypedClient.Naming

/-!
Contract: the camel-case form of a text in two passes.

Owns:
- `runs`, a text cut into its longest runs of joints and of other characters;
- `raised`, the first pass: the character behind each run of joints in upper case;
- that the camel-case form is what the first pass leaves of letters and digits;
- that a text of letters and digits is its own camel-case form.

Does not own: which texts of a path are put in camel case.
-/

namespace TypedClient.Naming

/-! ## Two passes -/

/-- A run with its first character in upper case, if words consist of such characters. -/
def raisedRun : List Char → List Char
  | [] => []
  | first :: rest => (if isWordPart first then first.toUpper else first) :: rest

/-- A text cut into its longest runs of joints and its longest runs of other characters. -/
def runs (text : List Char) : List (List Char) :=
  text.splitBy (fun character next => isJoint character == isJoint next)

/-- The text with the word character that directly follows each longest run of joints in upper
case: every run of other characters but the first of all runs follows such a run. -/
def raised (text : List Char) : List Char :=
  match runs text with
  | [] => []
  | first :: later => first ++ later.flatMap raisedRun

example : String.ofList (raised "a-b//_c-é/".toList) = "a-B//_c-é/" := by decide

/-- Runs of joints and runs of other characters in turn; the flag says of which kind the first one
is. -/
inductive Alternates : Bool → List (List Char) → Prop
  | nil (joints : Bool) : Alternates joints []
  | cons {joints : Bool} {run : List Char} {rest : List (List Char)} (nonempty : run ≠ [])
      (alike : ∀ character ∈ run, isJoint character = joints) (later : Alternates (!joints) rest) :
      Alternates joints (run :: rest)

theorem alike_of_isChain {run : List Char}
    (chain : run.IsChain (fun character next => (isJoint character == isJoint next) = true))
    {first : Char} (isFirst : first ∈ run.head?) :
    ∀ character ∈ run, isJoint character = isJoint first := by
  induction run generalizing first with
  | nil => exact fun _ member => absurd member List.not_mem_nil
  | cons character rest inductionHypothesis =>
      obtain rfl : character = first := by simpa using isFirst
      intro other member
      rcases List.mem_cons.1 member with rfl | later
      · rfl
      · obtain ⟨next, more, rfl⟩ := List.exists_cons_of_ne_nil (List.ne_nil_of_mem later)
        rw [List.isChain_cons_cons] at chain
        exact (inductionHypothesis chain.2 rfl other later).trans (beq_iff_eq.1 chain.1).symm

/-- The runs of a text alternate. -/
theorem exists_alternates_runs (text : List Char) : ∃ joints, Alternates joints (runs text) := by
  have nonempty : ∀ run ∈ runs text, run ≠ [] := fun run member => List.ne_nil_of_mem_splitBy member
  have chains : ∀ run ∈ runs text, run.IsChain (fun character next =>
      (isJoint character == isJoint next) = true) :=
    fun run member => List.isChain_of_mem_splitBy member
  have apart := List.isChain_getLast_head_splitBy
    (fun character next => isJoint character == isJoint next) text
  change (runs text).IsChain _ at apart
  generalize runs text = cut at nonempty chains apart
  induction cut with
  | nil => exact ⟨true, .nil true⟩
  | cons run rest inductionHypothesis =>
      rw [List.forall_mem_cons] at nonempty chains
      obtain ⟨first, more, rfl⟩ := List.exists_cons_of_ne_nil nonempty.1
      have alike : ∀ character ∈ first :: more, isJoint character = isJoint first :=
        alike_of_isChain chains.1 rfl
      obtain ⟨joints, later⟩ := inductionHypothesis nonempty.2 chains.2 apart.tail
      refine ⟨isJoint first, .cons nonempty.1 alike ?_⟩
      cases later with
      | nil => exact .nil _
      | @cons _ next others isNext alikeNext later =>
          obtain ⟨⟨_, _, differ⟩, _⟩ := List.isChain_cons_cons.1 apart
          rw [alike _ (List.getLast_mem _), alikeNext _ (List.head_mem _),
            beq_eq_false_iff_ne] at differ
          rw [← Bool.eq_not.2 differ.symm]
          exact .cons isNext alikeNext later

/-! ## One pass and two passes -/

theorem not_wordPart_of_isJoint {character : Char} (joint : isJoint character = true) :
    character.isAlphanum = false ∧ isWordPart character = false := by
  simp only [isJoint, Bool.or_eq_true, decide_eq_true_eq] at joint
  rcases joint with rfl | rfl <;> decide

/-- A run of joints leaves nothing but the flag. -/
theorem camelFrom_joints {run : List Char} (nonempty : run ≠ [])
    (joints : ∀ character ∈ run, isJoint character = true) (afterJoint : Bool) (rest : List Char) :
    camelFrom afterJoint (run ++ rest) = camelFrom true rest := by
  induction run generalizing afterJoint with
  | nil => exact absurd rfl nonempty
  | cons character more inductionHypothesis =>
      rw [List.forall_mem_cons] at joints
      rw [List.cons_append, camelFrom, if_pos joints.1]
      cases more with
      | nil => rfl
      | cons next others => exact inductionHypothesis (by simp) joints.2 true

theorem camelFrom_cons_of_plain {character : Char} (plain : isJoint character = false)
    (afterJoint : Bool) (rest : List Char) :
    camelFrom afterJoint (character :: rest) =
      [if afterJoint && isWordPart character then character.toUpper else character].filter
        Char.isAlphanum ++ camelFrom false rest := by
  rw [camelFrom, plain, if_neg Bool.false_ne_true, List.filter_singleton]
  dsimp only
  generalize (if afterJoint && isWordPart character then character.toUpper else character) = written
  cases written.isAlphanum <;> rfl

/-- Where no joint is, letters and digits stay. -/
theorem camelFrom_plain {run : List Char} (plain : ∀ character ∈ run, isJoint character = false)
    (rest : List Char) :
    camelFrom false (run ++ rest) = run.filter Char.isAlphanum ++ camelFrom false rest := by
  induction run with
  | nil => rfl
  | cons character more inductionHypothesis =>
      rw [List.forall_mem_cons] at plain
      rw [List.cons_append, camelFrom_cons_of_plain plain.1, inductionHypothesis plain.2,
        Bool.false_and, if_neg Bool.false_ne_true, ← List.append_assoc, ← List.filter_append,
        List.singleton_append]

/-- Behind a joint, a run of other characters is raised. -/
theorem camelFrom_raised {run : List Char} (nonempty : run ≠ [])
    (plain : ∀ character ∈ run, isJoint character = false) (rest : List Char) :
    camelFrom true (run ++ rest) =
      (raisedRun run).filter Char.isAlphanum ++ camelFrom false rest := by
  obtain ⟨first, more, rfl⟩ := List.exists_cons_of_ne_nil nonempty
  rw [List.forall_mem_cons] at plain
  rw [List.cons_append, camelFrom_cons_of_plain plain.1, camelFrom_plain plain.2, Bool.true_and,
    ← List.append_assoc, ← List.filter_append, List.singleton_append, raisedRun]

theorem filter_raisedRun_joints {run : List Char}
    (joints : ∀ character ∈ run, isJoint character = true) :
    (raisedRun run).filter Char.isAlphanum = run.filter Char.isAlphanum := by
  cases run with
  | nil => rfl
  | cons first more =>
      rw [raisedRun, (not_wordPart_of_isJoint (joints first List.mem_cons_self)).2,
        if_neg Bool.false_ne_true]

theorem filter_joints {run : List Char} (joints : ∀ character ∈ run, isJoint character = true) :
    run.filter Char.isAlphanum = [] := by
  rw [List.filter_eq_nil_iff]
  intro character member
  rw [(not_wordPart_of_isJoint (joints character member)).1]
  exact Bool.false_ne_true

/-- In front of a joint, or at the end, it does not matter whether a joint came before. -/
theorem Alternates.camelFrom_flatten {cut : List (List Char)} (alternates : Alternates true cut) :
    camelFrom false cut.flatten = camelFrom true cut.flatten := by
  cases alternates with
  | nil => rfl
  | cons nonempty joints later =>
      rw [List.flatten_cons, camelFrom_joints nonempty joints, camelFrom_joints nonempty joints]

/-- Behind a joint, every run is raised. -/
theorem Alternates.camelFrom_true {joints : Bool} {cut : List (List Char)}
    (alternates : Alternates joints cut) :
    camelFrom true cut.flatten = (cut.flatMap raisedRun).filter Char.isAlphanum := by
  induction alternates with
  | nil => rfl
  | @cons joints run rest nonempty alike later inductionHypothesis =>
      rw [List.flatten_cons, List.flatMap_cons, List.filter_append, ← inductionHypothesis]
      cases joints with
      | true =>
          rw [camelFrom_joints nonempty alike, filter_raisedRun_joints alike, filter_joints alike,
            List.nil_append]
      | false => rw [camelFrom_raised nonempty alike, later.camelFrom_flatten]

/-- The camel-case form of a text is what its first pass leaves of letters and digits. -/
theorem camelCase_eq_filter_raised (text : List Char) :
    camelCase text = (raised text).filter Char.isAlphanum := by
  have whole : (runs text).flatten = text := List.flatten_splitBy _ text
  obtain ⟨joints, alternates⟩ := exists_alternates_runs text
  rw [camelCase, raised]
  generalize runs text = cut at whole alternates
  subst whole
  cases alternates with
  | nil => rfl
  | @cons _ run rest nonempty alike later =>
      rw [List.flatten_cons, List.filter_append, ← later.camelFrom_true]
      cases joints with
      | true => rw [camelFrom_joints nonempty alike, filter_joints alike, List.nil_append]
      | false => rw [camelFrom_plain alike, later.camelFrom_flatten]

/-! ## Texts that stay as they are -/

theorem not_isJoint_of_isAlphanum {character : Char} (isAlphanum : character.isAlphanum = true) :
    isJoint character = false := by
  rw [Bool.eq_false_iff]
  intro joint
  rw [(not_wordPart_of_isJoint joint).1] at isAlphanum
  cases isAlphanum

/-- A text of letters and digits is its own camel-case form. -/
theorem camelCase_of_alphanum {text : List Char}
    (alphanum : ∀ character ∈ text, character.isAlphanum = true) : camelCase text = text := by
  have plain : ∀ character ∈ text, isJoint character = false :=
    fun character member => not_isJoint_of_isAlphanum (alphanum character member)
  have kept := camelFrom_plain plain []
  rwa [List.append_nil, List.filter_eq_self.2 alphanum, camelFrom, List.append_nil] at kept

end TypedClient.Naming
