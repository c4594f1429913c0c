import Mathlib.Data.List.Induction
import TypedClient.Proofs.Script.Lines

/-!
Contract: reading a template literal back.

Owns:
- `scanTemplate`, the parts of a template literal: a backslash takes the next character as it is, a
  dollar with a brace opens a substitution, and a back quote ends the literal;
- `condensed`, the parts with all texts that stand side by side as one;
- that scanning the text of some parts gives these condensed, where no substitution arises between
  two texts;
- `Tidy`, the rows of parts that are condensed already, as all condensed parts are.

Does not own: which parts a template has.
-/

namespace TypedClient.Script

open TypedClient.Text

/-- Where the scanner is: in plain text, or in the code of a substitution. -/
inductive TemplateMode where
  | plain (text : List Char)
  | code (text : List Char)

/-- What stands behind a backslash. Letters, digits and the ends of lines have meanings of their own
there. -/
def unescapedInTemplate? (character : Char) : Option Char :=
  if character.isAlphanum || endsLine character then none else some character

/-- The parts of what stands between two back quotes, the second of which has to be the last
character. The end of a line is taken as it is written; JavaScript takes a carriage return, with the
line feed behind it if there is one, for a line feed. -/
def scanTemplate : TemplateMode → List Char → Option (List TemplatePart)
  | .plain text, '\x60' :: rest => if rest.isEmpty then some (plainPart text) else none
  | .plain text, '\\' :: character :: rest => do
      scanTemplate (.plain (text ++ [← unescapedInTemplate? character])) rest
  | .plain text, '$' :: '{' :: rest =>
      (scanTemplate (.code []) rest).map (plainPart text ++ ·)
  | .plain text, character :: rest => scanTemplate (.plain (text ++ [character])) rest
  | .code text, '}' :: rest =>
      (scanTemplate (.plain []) rest).map (.substitution (String.ofList text) :: ·)
  | .code text, character :: rest => scanTemplate (.code (text ++ [character])) rest
  | _, [] => none

/-- The parts of a template literal, back quotes included. -/
def readTemplate (literal : String) : Option (List TemplatePart) :=
  match literal.toList with
  | '\x60' :: rest => scanTemplate (.plain []) rest
  | _ => none

/-- The parts behind some text: texts that stand side by side are one part, and none is empty. -/
def condensedBehind (text : List Char) : List TemplatePart → List TemplatePart
  | [] => plainPart text
  | .plain more :: rest => condensedBehind (text ++ more.toList) rest
  | .substitution code :: rest => plainPart text ++ .substitution code :: condensedBehind [] rest

def condensed (parts : List TemplatePart) : List TemplatePart := condensedBehind [] parts

/-- No substitution opens where a text ends, and none is closed by its own code. -/
def StaysApart : List TemplatePart → Prop
  | [] => True
  | .plain text :: rest =>
      (text.toList.getLast? = some '$' →
        (rest.flatMap (fun part => part.render.toList)).head? ≠ some '{') ∧ StaysApart rest
  | .substitution code :: rest => '}' ∉ code.toList ∧ StaysApart rest

/-- No empty text, no two texts side by side, and no brace in the code of a substitution. -/
inductive Tidy : List TemplatePart → Prop
  | nil : Tidy []
  | substitution {code : String} {rest : List TemplatePart} (simple : '}' ∉ code.toList)
      (later : Tidy rest) : Tidy (.substitution code :: rest)
  | last {text : String} (nonempty : text ≠ "") : Tidy [.plain text]
  | plain {text code : String} {rest : List TemplatePart} (nonempty : text ≠ "")
      (later : Tidy (.substitution code :: rest)) :
      Tidy (.plain text :: .substitution code :: rest)

/-! ## Scanning what was written -/

theorem scanTemplate_code {code : List Char} (simple : '}' ∉ code) (text rest : List Char) :
    scanTemplate (.code text) (code ++ '}' :: rest) =
      (scanTemplate (.plain []) rest).map (.substitution (String.ofList (text ++ code)) :: ·) := by
  induction code generalizing text with
  | nil => simp [scanTemplate]
  | cons character code inductionHypothesis =>
      rw [List.mem_cons, not_or] at simple
      have next := inductionHypothesis simple.2 (text ++ [character])
      rw [List.append_assoc, List.singleton_append] at next
      rw [List.cons_append, ← next, scanTemplate]
      exact fun same => simple.1 same.symm

theorem scanTemplate_substitution {code : List Char} (simple : '}' ∉ code)
    (text rest : List Char) :
    scanTemplate (.plain text) ('$' :: '{' :: code ++ '}' :: rest) =
      (scanTemplate (.plain []) rest).map
        (plainPart text ++ .substitution (String.ofList code) :: ·) := by
  rw [List.cons_append, List.cons_append, scanTemplate, scanTemplate_code simple, Option.map_map]
  rfl

/-! ## Escaped text -/

/-- The characters of a text as they stand inside a template literal. -/
def escapedTemplate (text : List Char) : List Char :=
  replacePair '$' '{' ['\\', '$', '{'] (text.flatMap escapeTemplateChar)

theorem escapedTemplate_special {character : Char} (special : character = '\\' ∨ character = '\x60')
    (rest : List Char) :
    escapedTemplate (character :: rest) = '\\' :: character :: escapedTemplate rest := by
  have notDollar : character ≠ '$' := by
    rcases special with rfl | rfl <;> decide
  rw [escapedTemplate, List.flatMap_cons, escapeTemplateChar, if_pos special, List.cons_append,
    List.singleton_append, replacePair_cons_of_ne (by decide), replacePair_cons_of_ne notDollar]
  rfl

theorem escapedTemplate_plain {character : Char}
    (plain : ¬ (character = '\\' ∨ character = '\x60')) (notDollar : character ≠ '$')
    (rest : List Char) :
    escapedTemplate (character :: rest) = character :: escapedTemplate rest := by
  rw [escapedTemplate, List.flatMap_cons, escapeTemplateChar, if_neg plain, List.singleton_append,
    replacePair_cons_of_ne notDollar]
  rfl

theorem escapedTemplate_opening (rest : List Char) :
    escapedTemplate ('$' :: '{' :: rest) = '\\' :: '$' :: '{' :: escapedTemplate rest := rfl

/-- The first character of a text stays the first one, or gets a backslash in front. -/
theorem head?_escapedTemplate (character : Char) (rest : List Char) :
    (escapedTemplate (character :: rest)).head? = some character ∨
      (escapedTemplate (character :: rest)).head? = some '\\' := by
  by_cases special : character = '\\' ∨ character = '\x60'
  · rw [escapedTemplate_special special]
    exact Or.inr rfl
  by_cases dollar : character = '$'
  · subst dollar
    rw [escapedTemplate, List.flatMap_cons, escapeTemplateChar, if_neg special]
    cases rest.flatMap escapeTemplateChar with
    | nil => exact Or.inl rfl
    | cons next more =>
        rw [List.singleton_append, replacePair]
        split
        · exact Or.inr rfl
        · exact Or.inl rfl
  · rw [escapedTemplate_plain special dollar]
    exact Or.inl rfl

/-- A dollar that no brace follows stays as it is. -/
theorem escapedTemplate_dollar {character : Char} (notBrace : character ≠ '{') (rest : List Char) :
    escapedTemplate ('$' :: character :: rest) = '$' :: escapedTemplate (character :: rest) := by
  have first : ∃ more, (character :: rest).flatMap escapeTemplateChar = character :: more ∨
      (character :: rest).flatMap escapeTemplateChar = '\\' :: more := by
    rw [List.flatMap_cons, escapeTemplateChar]
    split
    · exact ⟨_, Or.inr rfl⟩
    · exact ⟨_, Or.inl rfl⟩
  have opened : ('$' :: character :: rest).flatMap escapeTemplateChar =
      '$' :: (character :: rest).flatMap escapeTemplateChar := rfl
  rw [escapedTemplate, escapedTemplate, opened]
  obtain ⟨more, isFirst | isEscaped⟩ := first
  · rw [isFirst, replacePair, if_neg (fun same => notBrace same.2)]
  · rw [isEscaped, replacePair, if_neg (fun same => absurd same.2 (by decide))]

theorem scanTemplate_escape {character : Char}
    (special : character = '\\' ∨ character = '\x60' ∨ character = '$') (text rest : List Char) :
    scanTemplate (.plain text) ('\\' :: character :: rest) =
      scanTemplate (.plain (text ++ [character])) rest := by
  rcases special with rfl | rfl | rfl <;> rfl

theorem scanTemplate_plain {character : Char} {rest : List Char}
    (plain : ¬ (character = '\\' ∨ character = '\x60'))
    (notOpening : character = '$' → rest.head? ≠ some '{') (text : List Char) :
    scanTemplate (.plain text) (character :: rest) =
      scanTemplate (.plain (text ++ [character])) rest := by
  rw [scanTemplate]
  · exact fun same => plain (Or.inr same)
  · intro next more same _
    exact plain (Or.inl same)
  · intro more isDollar opening
    exact notOpening isDollar (by rw [opening]; rfl)

/-- Plain text is scanned back from its escapes, whatever follows, unless it ends in a dollar and a
brace follows. -/
theorem scanTemplate_escapedTemplate {written rest : List Char}
    (noOpening : written.getLast? = some '$' → rest.head? ≠ some '{') (text : List Char) :
    scanTemplate (.plain text) (escapedTemplate written ++ rest) =
      scanTemplate (.plain (text ++ written)) rest := by
  -- Two characters at a time, since a brace behind a dollar is escaped along with it.
  induction written using List.twoStepInduction generalizing text with
  | nil => rw [List.append_nil]; rfl
  | singleton character =>
      by_cases special : character = '\\' ∨ character = '\x60'
      · rw [escapedTemplate_special special]
        exact scanTemplate_escape (by tauto) text rest
      · have kept : escapedTemplate [character] = [character] := by
          simp [escapedTemplate, escapeTemplateChar, special, replacePair]
        rw [kept, List.singleton_append]
        exact scanTemplate_plain special (fun isDollar => noOpening (congrArg some isDollar)) text
  | cons_cons character next more ofMore ofNext =>
      rw [List.getLast?_cons_cons] at noOpening
      have ofNext := ofNext next noOpening
      by_cases special : character = '\\' ∨ character = '\x60'
      · rw [escapedTemplate_special special, List.cons_append, List.cons_append,
          scanTemplate_escape (by tauto), ofNext, List.append_assoc, List.singleton_append]
      by_cases dollar : character = '$'
      · subst dollar
        by_cases brace : next = '{'
        · subst brace
          have behindBrace : more.getLast? = some '$' → rest.head? ≠ some '{' := by
            intro isDollar
            apply noOpening
            rw [List.getLast?_cons, isDollar]
            rfl
          have notDollar : '{' = '$' → (escapedTemplate more ++ rest).head? ≠ some '{' :=
            fun same => absurd same (by decide)
          rw [escapedTemplate_opening, List.cons_append, List.cons_append, List.cons_append,
            scanTemplate_escape (by tauto), scanTemplate_plain (by decide) notDollar,
            ofMore behindBrace, List.append_assoc, List.append_assoc]
          rfl
        · have notOpening : (escapedTemplate (next :: more) ++ rest).head? ≠ some '{' := by
            rcases head?_escapedTemplate next more with kept | escaped
            · rw [List.head?_append, kept]
              simpa using brace
            · rw [List.head?_append, escaped]
              simp
          rw [escapedTemplate_dollar brace, List.cons_append,
            scanTemplate_plain special (fun _ => notOpening), ofNext, List.append_assoc,
            List.singleton_append]
      · rw [escapedTemplate_plain special dollar, List.cons_append,
          scanTemplate_plain special (fun same => absurd same dollar), ofNext, List.append_assoc,
          List.singleton_append]

/-! ## Whole literals -/

theorem plainPart_of_ne {text : String} (nonempty : text ≠ "") :
    plainPart text.toList = [.plain text] := by
  have characters : text.toList ≠ [] := by
    intro empty
    exact nonempty (String.toList_injective empty)
  simp [plainPart, characters]

theorem toList_render_substitution (code : String) :
    (TemplatePart.substitution code).render.toList = '$' :: '{' :: code.toList ++ ['}'] := by
  rw [TemplatePart.render, String.toList_append, String.toList_append]
  rfl

theorem toList_render_plain (text : String) :
    (TemplatePart.plain text).render.toList = escapedTemplate text.toList := by
  rw [TemplatePart.render, escapedInTemplate, String.toList_ofList]
  rfl

/-- The parts of a literal are scanned back from its text, behind some text that was read. -/
theorem scanTemplate_render {parts : List TemplatePart} (apart : StaysApart parts)
    (text : List Char) :
    scanTemplate (.plain text) (parts.flatMap (fun part => part.render.toList) ++ ['\x60']) =
      some (condensedBehind text parts) := by
  induction parts generalizing text with
  | nil => rfl
  | cons part rest inductionHypothesis =>
      cases part with
      | plain more =>
          have noOpening : more.toList.getLast? = some '$' →
              (rest.flatMap (fun part => part.render.toList) ++ ['\x60']).head? ≠ some '{' := by
            intro isDollar
            have noBrace := apart.1 isDollar
            cases behind : rest.flatMap (fun part => part.render.toList) with
            | nil => decide
            | cons character others => rwa [behind] at noBrace
          rw [List.flatMap_cons, toList_render_plain, List.append_assoc,
            scanTemplate_escapedTemplate noOpening, inductionHypothesis apart.2]
          rfl
      | substitution code =>
          rw [List.flatMap_cons, toList_render_substitution, List.append_assoc, List.append_assoc,
            List.singleton_append, scanTemplate_substitution apart.1, inductionHypothesis apart.2,
            String.ofList_toList]
          rfl

/-- A template is read back from its text as its parts, with texts that stand side by side as
one. -/
theorem readTemplate_render {parts : List TemplatePart} (apart : StaysApart parts) (level : Nat) :
    readTemplate ((Expression.template parts).render level) = some (condensed parts) := by
  have text : ((Expression.template parts).render level).toList =
      '\x60' :: (parts.flatMap (fun part => part.render.toList) ++ ['\x60']) := by
    rw [Expression.render, String.toList_append, String.toList_append, String.toList_join,
      List.flatMap_map]
    rfl
  rw [readTemplate, text]
  exact scanTemplate_render apart []

/-! ## Tidy parts -/

theorem Tidy.staysApart {parts : List TemplatePart} (tidy : Tidy parts) : StaysApart parts := by
  induction tidy with
  | nil => trivial
  | substitution simple _ inductionHypothesis => exact ⟨simple, inductionHypothesis⟩
  | last _ => exact ⟨fun _ => by decide, trivial⟩
  | plain _ _ inductionHypothesis =>
      refine ⟨fun _ => ?_, inductionHypothesis⟩
      rw [List.flatMap_cons, toList_render_substitution]
      simp

theorem Tidy.condensed_eq {parts : List TemplatePart} (tidy : Tidy parts) :
    condensed parts = parts := by
  induction tidy with
  | nil => rfl
  | substitution _ _ inductionHypothesis => exact congrArg (_ :: ·) inductionHypothesis
  | last nonempty => exact plainPart_of_ne nonempty
  | @plain text code rest nonempty _ inductionHypothesis =>
      show plainPart text.toList ++ condensed (.substitution code :: rest) = _
      rw [plainPart_of_ne nonempty, inductionHypothesis]
      rfl

/-- Condensed parts are tidy, if no brace would close the code of a substitution. -/
theorem tidy_condensedBehind {parts : List TemplatePart} (apart : StaysApart parts)
    (text : List Char) : Tidy (condensedBehind text parts) := by
  have ofText : ∀ text : List Char, text ≠ [] → String.ofList text ≠ "" := by
    intro text nonempty isEmpty
    exact nonempty (by simpa using congrArg String.toList isEmpty)
  fun_induction condensedBehind text parts with
  | case1 text =>
      cases text with
      | nil => exact .nil
      | cons first rest => exact .last (ofText _ (List.cons_ne_nil first rest))
  | case2 text more rest inductionHypothesis => exact inductionHypothesis apart.2
  | case3 text code rest inductionHypothesis =>
      have behind := Tidy.substitution apart.1 (inductionHypothesis apart.2)
      cases text with
      | nil => exact behind
      | cons first rest => exact .plain (ofText _ (List.cons_ne_nil first rest)) behind

end TypedClient.Script
