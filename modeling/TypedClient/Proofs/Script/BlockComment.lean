import Mathlib.Data.List.Chain
import Mathlib.Data.List.Induction
import TypedClient.Script.File
import TypedClient.Text.Blank

/-!
Contract: the comment in front of a function, and where it ends.

Owns:
- `behindComment?`, what is left of a text behind the comment that it starts with: the comment goes
  on to the first asterisk with a slash behind it;
- that breaking up terminators leaves none, whatever the text, and puts nothing but a backslash into
  each;
- `IsBlockComment`, what the comment with some lines is like: a line for each of them, and one
  terminator, at its end;
- that the comment of a function is like this for any lines in which no line feed stands.

Does not own: which lines a comment has.
-/

namespace TypedClient.Script

open TypedClient.Text

/-! ## Reading -/

/-- What stands behind the first terminator of a comment. -/
def behindTerminator? : List Char → Option (List Char)
  | '*' :: '/' :: rest => some rest
  | _ :: rest => behindTerminator? rest
  | [] => none

/-- What stands behind the comment at the start of a text. -/
def behindComment? : List Char → Option (List Char)
  | '/' :: '*' :: rest => behindTerminator? rest
  | _ => none

/-- Two neighbours that are not the terminator of a comment. -/
def Apart (first second : Char) : Prop := ¬ (first = '*' ∧ second = '/')

instance (first second : Char) : Decidable (Apart first second) :=
  inferInstanceAs (Decidable (¬ _))

/-- No terminator stands in a text, be it in part of a longer row of asterisks or slashes. -/
def Unterminated (text : List Char) : Prop := text.IsChain Apart

instance (text : List Char) : Decidable (Unterminated text) :=
  inferInstanceAs (Decidable (text.IsChain Apart))

variable {text inside before after rest : List Char}

theorem not_unterminated (before after : List Char) :
    ¬ Unterminated (before ++ '*' :: '/' :: after) := by
  intro apart
  obtain ⟨_, here, _⟩ := List.isChain_append_cons_cons.1 apart
  exact here ⟨rfl, rfl⟩

/-- A comment is read up to the only place where it can end: what stands in front of it, with the
asterisk of the terminator, holds no terminator. -/
theorem behindTerminator?_append (apart : Unterminated (inside ++ ['*'])) (rest : List Char) :
    behindTerminator? (inside ++ '*' :: '/' :: rest) = some rest := by
  induction inside with
  | nil => rfl
  | cons first later inductionHypothesis =>
      rw [Unterminated, List.cons_append, List.isChain_cons] at apart
      obtain ⟨here, behind⟩ := apart
      rw [List.cons_append, behindTerminator?]
      · exact inductionHypothesis behind
      · -- The first character does not start a terminator, also at the junction with the one there.
        intro next isAsterisk isNext
        subst isAsterisk
        cases later with
        | nil => cases isNext
        | cons second more =>
            obtain ⟨rfl, -⟩ := List.cons.inj isNext
            exact here '/' rfl ⟨rfl, rfl⟩

/-- A terminator between two texts without one is the only one. -/
theorem terminator_unique (apart : Unterminated (inside ++ ['*']))
    (behind : Unterminated ('/' :: rest)) :
    before ++ '*' :: '/' :: after = inside ++ '*' :: '/' :: rest ↔
      before = inside ∧ after = rest := by
  constructor
  · intro same
    obtain ⟨between, rfl, isRest⟩ | ⟨between, rfl, isRest⟩ := List.append_eq_append_iff.1 same
    · match between, isRest with
      | [], isRest =>
          simp only [List.nil_append, List.cons.injEq, true_and] at isRest
          exact ⟨(List.append_nil _).symm, isRest⟩
      | [_], isRest => simp at isRest
      | _ :: _ :: more, isRest =>
          simp only [List.cons_append, List.cons.injEq] at isRest
          obtain ⟨rfl, rfl, -⟩ := isRest
          rw [List.append_assoc, List.cons_append, List.cons_append] at apart
          exact absurd apart (not_unterminated before _)
    · match between, isRest with
      | [], isRest =>
          simp only [List.nil_append, List.cons.injEq, true_and] at isRest
          exact ⟨List.append_nil _, isRest.symm⟩
      | [_], isRest => simp at isRest
      | _ :: _ :: more, isRest =>
          simp only [List.cons_append, List.cons.injEq] at isRest
          obtain ⟨rfl, rfl, rfl⟩ := isRest
          exact absurd behind (not_unterminated ('/' :: more) after)
  · rintro ⟨rfl, rfl⟩
    rfl

/-! ## Breaking up terminators -/

/-- A text as it stands in a comment. -/
def brokenUp (text : List Char) : List Char := replacePair '*' '/' ['*', '\\', '/'] text

theorem brokenUp_pair (rest : List Char) :
    brokenUp ('*' :: '/' :: rest) = '*' :: '\\' :: '/' :: brokenUp rest := rfl

theorem brokenUp_cons {first : Char} {rest : List Char}
    (apart : first = '*' → rest.head? ≠ some '/') :
    brokenUp (first :: rest) = first :: brokenUp rest := by
  cases rest with
  | nil => rfl
  | cons second more =>
      rw [brokenUp, replacePair, if_neg]
      · rfl
      · rintro ⟨isAsterisk, isSlash⟩
        exact apart isAsterisk (by rw [isSlash]; rfl)

/-- A case for each way in which a text can be broken up. -/
@[elab_as_elim]
theorem brokenUpInduction {motive : List Char → Prop} (nil : motive [])
    (pair : ∀ rest, motive rest → motive ('*' :: '/' :: rest))
    (cons : ∀ first rest, (first = '*' → rest.head? ≠ some '/') → motive rest →
      motive (first :: rest)) (text : List Char) : motive text := by
  induction text using List.twoStepInduction with
  | nil => exact nil
  | singleton first => exact cons first [] (by simp) nil
  | cons_cons first second rest ofRest ofNext =>
      by_cases opens : first = '*' ∧ second = '/'
      · obtain ⟨rfl, rfl⟩ := opens
        exact pair rest ofRest
      · refine cons first (second :: rest) ?_ (ofNext second)
        intro isAsterisk isSlash
        exact opens ⟨isAsterisk, Option.some.inj isSlash⟩

/-- A text starts as before when it is broken up. -/
theorem head?_brokenUp (text : List Char) : (brokenUp text).head? = text.head? := by
  induction text using brokenUpInduction with
  | nil => rfl
  | pair rest _ => rfl
  | cons first rest apart _ => rw [brokenUp_cons apart]; rfl

/-- No terminator is left, and none comes about. -/
theorem unterminated_brokenUp (text : List Char) : Unterminated (brokenUp text) := by
  induction text using brokenUpInduction with
  | nil => exact List.isChain_nil
  | pair rest inductionHypothesis =>
      rw [brokenUp_pair]
      have behindSlash : Unterminated ('/' :: brokenUp rest) :=
        inductionHypothesis.cons (fun _ _ broken => absurd broken.1 (by decide))
      have behindBackslash : Unterminated ('\\' :: '/' :: brokenUp rest) :=
        behindSlash.cons (fun _ _ broken => absurd broken.1 (by decide))
      refine behindBackslash.cons (fun next isNext broken => ?_)
      rw [List.head?_cons, Option.mem_some] at isNext
      rw [← isNext] at broken
      exact absurd broken.2 (by decide)
  | cons first rest apart inductionHypothesis =>
      rw [brokenUp_cons apart]
      refine inductionHypothesis.cons (fun next isNext broken => ?_)
      rw [Option.mem_def, head?_brokenUp] at isNext
      exact apart broken.1 (broken.2 ▸ isNext)

-- Asterisks in front and slashes behind do not make up for a terminator that was broken up.
example : brokenUp "**//*/".toList = "**\\//*\\/".toList := by decide

/-- A text with the pieces between its terminators, and the same pieces with a backslash in each
terminator. -/
def BreaksUp (text written : List Char) : Prop :=
  ∃ pieces, text = ['*', '/'].intercalate pieces ∧ written = ['*', '\\', '/'].intercalate pieces

theorem intercalate_cons_cons (between piece : List Char) (first : Char)
    (pieces : List (List Char)) :
    between.intercalate ((first :: piece) :: pieces) =
      first :: between.intercalate (piece :: pieces) := by
  cases pieces <;> simp [List.intercalate_cons_of_ne_nil]

theorem breaksUp_brokenUp (text : List Char) : BreaksUp text (brokenUp text) := by
  suffices pieces : ∃ piece pieces, text = ['*', '/'].intercalate (piece :: pieces) ∧
      brokenUp text = ['*', '\\', '/'].intercalate (piece :: pieces) by
    obtain ⟨piece, pieces, isText, isWritten⟩ := pieces
    exact ⟨piece :: pieces, isText, isWritten⟩
  induction text using brokenUpInduction with
  | nil => exact ⟨[], [], rfl, rfl⟩
  | pair rest inductionHypothesis =>
      obtain ⟨piece, pieces, isText, isWritten⟩ := inductionHypothesis
      refine ⟨[], piece :: pieces, ?_, ?_⟩
      · rw [List.intercalate_cons_of_ne_nil (List.cons_ne_nil _ _), ← isText]
        rfl
      · rw [List.intercalate_cons_of_ne_nil (List.cons_ne_nil _ _), ← isWritten]
        rfl
  | cons first rest apart inductionHypothesis =>
      obtain ⟨piece, pieces, isText, isWritten⟩ := inductionHypothesis
      refine ⟨first :: piece, pieces, ?_, ?_⟩
      · rw [intercalate_cons_cons, ← isText]
      · rw [intercalate_cons_cons, ← isWritten, brokenUp_cons apart]

theorem mem_brokenUp {character : Char} (member : character ∈ brokenUp text) :
    character = '\\' ∨ character ∈ text := by
  induction text using brokenUpInduction with
  | nil => exact Or.inr member
  | pair rest inductionHypothesis =>
      rw [brokenUp_pair] at member
      simp only [List.mem_cons] at member ⊢
      tauto
  | cons first rest apart inductionHypothesis =>
      rw [brokenUp_cons apart] at member
      simp only [List.mem_cons] at member ⊢
      tauto

/-! ## Whole comments -/

def isLineFeed (character : Char) : Bool := character = '\n'

/-- A function is its comment, with the function as it is without one behind it. -/
theorem Function.render_eq (function : Function) :
    function.render = renderComment function.comment ++ { function with comment := [] }.render := by
  have noComment : renderComment [] = "" := rfl
  simp only [render, noComment, String.empty_append, String.append_assoc]

/-- What the comment with some lines is like. -/
structure IsBlockComment (texts : List (List Char)) (comment : List Char) : Prop where
  opens : ['/', '*', '*'] <+: comment
  /-- One terminator, with nothing but a line feed behind it. -/
  closes : ∃ inside, ∀ before after, comment = before ++ '*' :: '/' :: after ↔
    before = inside ∧ after = ['\n']
  /-- What is read behind the comment is what stands behind it. -/
  ends : ∀ rest, behindComment? (comment ++ rest) = some ('\n' :: rest)
  /-- A line for each text, in order. -/
  lines : ∃ written, List.Forall₂ BreaksUp texts written ∧
    splitWhere isLineFeed comment =
      ['/', '*', '*'] :: written.map ([' ', '*', ' '] ++ ·) ++ [[' ', '*', '/'], []]

/-- The line of a comment for a text. -/
def commentLine (text : List Char) : List Char := [' ', '*', ' '] ++ brokenUp text ++ ['\n']

/-- A comment up to its terminator. -/
def commentBody (texts : List (List Char)) : List Char :=
  ['/', '*', '*', '\n'] ++ texts.flatMap commentLine ++ [' ']

theorem toList_renderComment {texts : List (List Char)} (nonempty : texts ≠ []) :
    (renderComment (texts.map String.ofList)).toList = commentBody texts ++ ['*', '/', '\n'] := by
  have ofLine : ∀ text, (" * " ++ String.ofList (brokenUp (String.ofList text).toList) ++
      "\n").toList = commentLine text := by
    intro text
    simp [commentLine]
  obtain ⟨first, rest, rfl⟩ := List.exists_cons_of_ne_nil nonempty
  have whole : renderComment ((first :: rest).map String.ofList) =
      "/**\n" ++ String.join (((first :: rest).map String.ofList).map (fun line =>
        " * " ++ String.ofList (brokenUp line.toList) ++ "\n")) ++ " */\n" := rfl
  rw [whole, String.toList_append, String.toList_append, String.toList_join, List.flatMap_map,
    List.flatMap_map, List.flatMap_congr (fun text _ => ofLine text), commentBody,
    List.append_assoc _ [' '] _]
  rfl

theorem unterminated_commentLine (text : List Char) : Unterminated (commentLine text) := by
  have opening : Unterminated [' ', '*', ' '] := by decide
  have lineEnd : Unterminated ['\n'] := by decide
  refine (opening.append (unterminated_brokenUp text) ?_).append lineEnd ?_
  · intro last isLast next _ broken
    rw [List.getLast?_cons_cons, List.getLast?_cons_cons, List.getLast?_singleton,
      Option.mem_some] at isLast
    exact absurd (isLast.trans broken.1) (by decide)
  · intro last _ next isNext broken
    rw [List.head?_cons, Option.mem_some] at isNext
    exact absurd (isNext.trans broken.2) (by decide)

theorem unterminated_commentBody (texts : List (List Char)) :
    Unterminated (commentBody texts ++ ['*']) := by
  have opening : Unterminated ['/', '*', '*', '\n'] := by decide
  have closing : Unterminated [' ', '*'] := by decide
  -- Every part ends in a line feed, which starts no terminator.
  have ofLines : Unterminated (texts.flatMap commentLine ++ [' ', '*']) := by
    induction texts with
    | nil => exact closing
    | cons text rest inductionHypothesis =>
        rw [List.flatMap_cons, List.append_assoc]
        refine (unterminated_commentLine text).append inductionHypothesis ?_
        intro last isLast next _ broken
        rw [commentLine, List.getLast?_concat, Option.mem_some] at isLast
        exact absurd (isLast.trans broken.1) (by decide)
  have whole : commentBody texts ++ ['*'] =
      ['/', '*', '*', '\n'] ++ (texts.flatMap commentLine ++ [' ', '*']) := by
    simp [commentBody]
  rw [whole]
  refine opening.append ofLines ?_
  intro last isLast next _ broken
  rw [show ['/', '*', '*', '\n'] = ['/', '*', '*'] ++ ['\n'] from rfl, List.getLast?_concat,
    Option.mem_some] at isLast
  exact absurd (isLast.trans broken.1) (by decide)

theorem splitWhere_commentLines {texts : List (List Char)}
    (lines : ∀ text ∈ texts, '\n' ∉ text) (rest : List Char) :
    splitWhere isLineFeed (texts.flatMap commentLine ++ rest) =
      texts.map (fun text => [' ', '*', ' '] ++ brokenUp text) ++ splitWhere isLineFeed rest := by
  induction texts with
  | nil => rfl
  | cons text more inductionHypothesis =>
      rw [List.forall_mem_cons] at lines
      have plain : ∀ character ∈ [' ', '*', ' '] ++ brokenUp text, isLineFeed character = false := by
        intro character member
        rw [isLineFeed, decide_eq_false_iff_not]
        rintro rfl
        rcases List.mem_append.1 member with inOpening | inText
        · exact absurd inOpening (by decide)
        · exact (mem_brokenUp inText).elim (by decide) lines.1
      rw [List.flatMap_cons, commentLine, List.append_assoc, List.append_assoc,
        List.singleton_append, splitWhere_append_separator rfl, splitWhere_of_plain plain,
        inductionHypothesis lines.2]
      rfl

/-- The comment with some lines is one, whatever they say. -/
theorem isBlockComment_renderComment {texts : List (List Char)} (nonempty : texts ≠ [])
    (lines : ∀ text ∈ texts, '\n' ∉ text) :
    IsBlockComment texts (renderComment (texts.map String.ofList)).toList := by
  have apart := unterminated_commentBody texts
  rw [toList_renderComment nonempty]
  refine ⟨?_, ⟨commentBody texts, fun before after => ?_⟩, fun rest => ?_, ?_⟩
  · exact ⟨_, rfl⟩
  · rw [eq_comm]
    exact terminator_unique apart (by decide)
  · -- The opening is read first; what is left of the body holds no terminator either.
    have opened : commentBody texts =
        ['/', '*'] ++ (['*', '\n'] ++ texts.flatMap commentLine ++ [' ']) := rfl
    rw [opened, List.append_assoc] at apart
    rw [opened, List.append_assoc, List.append_assoc, List.cons_append, List.cons_append,
      behindComment?]
    exact behindTerminator?_append apart.right_of_append ('\n' :: rest)
  · refine ⟨texts.map brokenUp, ?_, ?_⟩
    · rw [List.forall₂_map_right_iff]
      exact List.forall₂_same.2 (fun text _ => breaksUp_brokenUp text)
    · have cut : commentBody texts ++ ['*', '/', '\n'] =
          ['/', '*', '*'] ++ '\n' :: (texts.flatMap commentLine ++ [' ', '*', '/', '\n']) := by
        simp [commentBody]
      rw [cut, splitWhere_append_separator rfl, splitWhere_commentLines lines, List.map_map]
      rfl

end TypedClient.Script
