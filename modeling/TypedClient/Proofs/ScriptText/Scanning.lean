import TypedClient.Proofs.Script.BlockComment
import TypedClient.Proofs.ScriptText.Tree

/-!
Contract: texts that are written tree by tree.

Owns:
- `Writes`, that a text is scanned as some trees wherever a word may end behind it, and `Exact`, the
  same whatever stands behind it;
- the rules for words, literals, templates, comments and texts put together;
- `Closes`, and the rules for brackets: rows between commas, on one line or on a line each, and
  statements.

Does not own: which trees an expression has.
-/

namespace TypedClient.ScriptText

open Script (TemplatePart LiteralMode StaysApart Unterminated condensed condensedBehind endsLine
  plainPart scanLiteral scanTemplate)

variable {opened : List Opened} {before row : Row} {rest : List Char}

/-- Where a word may end behind it, a text is scanned as some trees. -/
def Writes (text : String) (row : Row) : Prop :=
  ∀ (opened : List Opened) (before : Row) (rest : List Char), EndsWord rest →
    scan ⟨.between, opened, before⟩ (text.toList ++ rest) =
      scan ⟨.between, opened, before ++ row⟩ rest

/-- Whatever stands behind it, a text is scanned as some trees. -/
def Exact (text : String) (row : Row) : Prop :=
  ∀ (opened : List Opened) (before : Row) (rest : List Char),
    scan ⟨.between, opened, before⟩ (text.toList ++ rest) =
      scan ⟨.between, opened, before ++ row⟩ rest

/-- In front of a text, a word may end. -/
def Opens (text : String) : Prop := ∀ rest, EndsWord (text.toList ++ rest)

theorem Opens.of_head {text : String} (starts : text.toList.head?.map isWordPart = some false) :
    Opens text := by
  intro rest character isHead
  cases characters : text.toList with
  | nil => simp [characters] at starts
  | cons first others =>
      rw [characters] at starts isHead
      have same : first = character := by simpa using isHead
      simpa [same] using starts

theorem Opens.append_right {first : String} (opens : Opens first) (second : String) :
    Opens (first ++ second) := by
  intro rest
  rw [String.toList_append, List.append_assoc]
  exact opens _

theorem Opens.append {first : String}
    (starts : first.toList.head?.map isWordPart = some false) (second : String) :
    Opens (first ++ second) :=
  (Opens.of_head starts).append_right second

theorem endsWord_nil : EndsWord [] := fun _ member => nomatch member

section Rules

variable {first second text : String} {trees more : Row}

theorem Exact.writes (exact : Exact text trees) : Writes text trees :=
  fun opened before rest _ => exact opened before rest

theorem Exact.append (ofFirst : Exact first trees) (ofSecond : Exact second more) :
    Exact (first ++ second) (trees ++ more) := by
  intro opened before rest
  rw [String.toList_append, List.append_assoc, ofFirst, ofSecond, List.append_assoc]

theorem Exact.append_writes (ofFirst : Exact first trees) (ofSecond : Writes second more) :
    Writes (first ++ second) (trees ++ more) := by
  intro opened before rest ends
  rw [String.toList_append, List.append_assoc, ofFirst, ofSecond _ _ _ ends, List.append_assoc]

theorem Writes.append_exact (ofFirst : Writes first trees) (opens : Opens second)
    (ofSecond : Exact second more) : Exact (first ++ second) (trees ++ more) := by
  intro opened before rest
  rw [String.toList_append, List.append_assoc, ofFirst _ _ _ (opens rest), ofSecond,
    List.append_assoc]

theorem Writes.append (ofFirst : Writes first trees) (opens : Opens second)
    (ofSecond : Writes second more) : Writes (first ++ second) (trees ++ more) := by
  intro opened before rest ends
  rw [String.toList_append, List.append_assoc, ofFirst _ _ _ (opens rest), ofSecond _ _ _ ends,
    List.append_assoc]

theorem Exact.empty : Exact "" [] := by
  intro opened before rest
  rw [List.append_nil]
  rfl

/-- A text as a whole. -/
theorem Writes.readTrees (writes : Writes text trees) : readTrees text = some trees := by
  have whole := writes [] [] [] endsWord_nil
  rw [List.append_nil] at whole
  rw [ScriptText.readTrees, whole]
  rfl

end Rules

/-! ## Blanks -/

theorem Exact.blanks {text : String}
    (areBlank : ∀ character ∈ text.toList, character ∈ [' ', '\n']) : Exact text [] := by
  intro opened before rest
  rw [List.append_nil]
  generalize text.toList = characters at areBlank
  induction characters with
  | nil => rfl
  | cons character characters inductionHypothesis =>
      rw [List.forall_mem_cons, List.mem_pair] at areBlank
      rw [← inductionHypothesis areBlank.2]
      rcases areBlank.1 with rfl | rfl <;> rfl

theorem Exact.space : Exact " " [] := .blanks (by simp)

theorem Exact.newline : Exact "\n" [] := .blanks (by simp)

theorem Exact.indentation (level : Nat) : Exact (Script.indentation level) [] := by
  refine .blanks fun character member => ?_
  rw [Script.indentation, String.toList_ofList] at member
  rw [List.eq_of_mem_replicate member]
  exact List.mem_cons_self

/-! ## Words -/

theorem scan_start (character : Char) :
    scan ⟨.between, opened, before⟩ (character :: rest) =
      (State.start ⟨.between, opened, before⟩ character).bind (fun next => scan next rest) := rfl

theorem scan_word {text : List Char} (parts : ∀ character ∈ text, isWordPart character = true)
    (read : List Char) :
    scan ⟨.word read, opened, before⟩ (text ++ rest) =
      scan ⟨.word (read ++ text), opened, before⟩ rest := by
  induction text generalizing read with
  | nil => rw [List.nil_append, List.append_nil]
  | cons character text inductionHypothesis =>
      rw [List.forall_mem_cons] at parts
      have next := inductionHypothesis parts.2 (read ++ [character])
      rw [List.append_assoc, List.singleton_append] at next
      simp [scan, State.step, parts.1, next]

/-- A word ends in front of what cannot be part of it. -/
theorem scan_word_of_endsWord (ends : EndsWord rest) (read : List Char) :
    scan ⟨.word read, opened, before⟩ rest =
      scan ⟨.between, opened, before ++ [.token (.word (String.ofList read))]⟩ rest := by
  cases rest with
  | nil => cases opened <;> rfl
  | cons character rest =>
      have notPart : isWordPart character = false := ends character rfl
      simp [scan, State.step, notPart, State.push]

theorem Writes.word {word : String} (isWord : isWord word.toList = true) :
    Writes word [.token (.word word)] := by
  intro opened before rest ends
  have whole : Tree.token (.word word) = .token (.word (String.ofList word.toList)) := by
    rw [String.ofList_toList]
  rw [whole]
  generalize word.toList = characters at isWord ⊢
  cases characters with
  | nil => cases isWord
  | cons first others =>
      rw [ScriptText.isWord, Bool.and_eq_true, List.all_eq_true] at isWord
      have started : scan ⟨.between, opened, before⟩ (first :: others ++ rest) =
          scan ⟨.word [first], opened, before⟩ (others ++ rest) := by
        rw [List.cons_append, scan_start, State.start, if_pos isWord.1, Option.bind_some]
      rw [started, scan_word isWord.2, scan_word_of_endsWord ends]
      rfl

theorem isWord_of_isPlainName {name : List Char} (isPlain : Script.isPlainName name = true) :
    isWord name = true := by
  cases name with
  | nil => cases isPlain
  | cons first rest =>
      rw [Script.isPlainName, Bool.and_eq_true, List.all_eq_true] at isPlain
      rw [isWord, Bool.and_eq_true, List.all_eq_true]
      refine ⟨?_, fun character member => ?_⟩
      · rw [isWordStart, isPlain.1, Bool.true_or]
      · rw [isWordPart, isPlain.2 character member, Bool.true_or]

/-! ## Literals -/

theorem scan_quoted {mode : LiteralMode} {written text : List Char} {value : String}
    (reads : scanLiteral mode written text = some (value, rest)) :
    scan ⟨.quoted mode written, opened, before⟩ text =
      scan ⟨.between, opened, before ++ [.token (.quoted value)]⟩ rest := by
  induction text generalizing mode written with
  | nil => cases reads
  | cons character text inductionHypothesis =>
      rw [scanLiteral] at reads
      split at reads
      · rename_i closes
        obtain ⟨rfl, rfl⟩ := Prod.mk.inj (Option.some.inj reads)
        simp [scan, State.step, closes, State.push]
      · rename_i goesOn
        obtain ⟨⟨next, more⟩, stepped, later⟩ := Option.bind_eq_some_iff.1 reads
        simp [scan, State.step, goesOn, stepped, inductionHypothesis later]

theorem Exact.literal {value : String} (onOneLine : Script.OnOneLine value.toList) :
    Exact (Script.literal value) [.token (.quoted value)] := by
  intro opened before rest
  have reads := Script.readLiteral_literal value rest
  rw [if_pos onOneLine, Script.toList_literal, List.cons_append, Script.readLiteral] at reads
  rw [Script.toList_literal, List.cons_append]
  exact scan_quoted reads

/-! ## Templates -/

/-- The parts of a template: no empty text, and each text as long as it can be. -/
def partsOf (filled : List (List Char × String)) (last : List Char) : List TemplatePart :=
  filled.flatMap (fun (text, code) => plainPart text ++ [.substitution code]) ++
    plainPart last

theorem partsOf_cons (front : List Char) (code : String) (filled : List (List Char × String))
    (last : List Char) :
    partsOf ((front, code) :: filled) last =
      plainPart front ++ .substitution code :: partsOf filled last := by
  simp [partsOf]

/-- A dollar that no brace follows is part of the text. -/
theorem scan_dollar {earlier : List (List Char × String)} {read : List Char}
    (noBrace : rest.head? ≠ some '{') :
    scan ⟨.dollar earlier read, opened, before⟩ rest =
      scan ⟨.template earlier (read ++ ['$']), opened, before⟩ rest := by
  cases rest with
  | nil => cases opened <;> rfl
  | cons character rest =>
      have other : character ≠ '{' := fun same => noBrace (congrArg some same)
      simp only [scan, State.step, if_neg other]
      rfl

/-- What the scanner of templates finds from some mode on, a template is scanned as. -/
theorem scan_template {mode : Script.TemplateMode} {text : List Char} {parts : List TemplatePart}
    (reads : scanTemplate mode text = some parts) :
    match mode with
    | .plain read => ∃ filled last, parts = partsOf filled last ∧
        ∀ earlier, scan ⟨.template earlier read, opened, before⟩ (text ++ rest) =
          scan ⟨.between, opened, before ++ [.token (.template (earlier ++ filled) last)]⟩ rest
    | .code read => ∃ code filled last, parts = .substitution code :: partsOf filled last ∧
        ∀ earlier front, scan ⟨.code earlier front read, opened, before⟩ (text ++ rest) =
          scan ⟨.between, opened,
            before ++ [.token (.template (earlier ++ (front, code) :: filled) last)]⟩ rest := by
  -- In text: the closing quote, an escape, the opening of a substitution, and any other character.
  -- In a substitution: the closing brace, and any other character.
  fun_induction scanTemplate mode text generalizing parts with
  | case1 read behind isLast =>
      obtain rfl : behind = [] := List.isEmpty_iff.1 isLast
      refine ⟨[], read, (Option.some.inj reads).symm, fun earlier => ?_⟩
      rw [List.append_nil]
      rfl
  | case2 read behind goesOn => simp [scanTemplate, goesOn] at reads
  | case3 read character behind inductionHypothesis =>
      obtain ⟨unescaped, isUnescaped, later⟩ := Option.bind_eq_some_iff.1 reads
      obtain ⟨filled, last, isParts, scanned⟩ := inductionHypothesis unescaped later
      refine ⟨filled, last, isParts, fun earlier => ?_⟩
      rw [← scanned earlier]
      simp [scan, State.step, State.stepTemplate, isUnescaped]
  | case4 read behind inductionHypothesis =>
      obtain ⟨found, later, isParts⟩ := Option.map_eq_some_iff.1 reads
      obtain ⟨code, filled, last, rfl, scanned⟩ := inductionHypothesis later
      refine ⟨(read, code) :: filled, last, ?_, fun earlier => scanned earlier read⟩
      rw [← isParts, partsOf_cons]
  | case5 read character behind notQuote notEscape notOpening inductionHypothesis =>
      have goesOn : scanTemplate (.plain read) (character :: behind) =
          scanTemplate (.plain (read ++ [character])) behind := by
        rw [scanTemplate] <;> assumption
      rw [goesOn] at reads
      obtain ⟨filled, last, isParts, scanned⟩ := inductionHypothesis reads
      refine ⟨filled, last, isParts, fun earlier => ?_⟩
      rw [← scanned earlier]
      cases behind with
      | nil => cases reads
      | cons next behind =>
          have other : character ≠ '\\' := fun same => notEscape _ _ same rfl
          by_cases isDollar : character = '$'
          · subst isDollar
            have noBrace : (next :: behind ++ rest).head? ≠ some '{' :=
              fun same => notOpening _ rfl (congrArg (· :: behind) (Option.some.inj same))
            exact scan_dollar noBrace
          · simp [scan, State.step, State.stepTemplate]
  | case6 read behind inductionHypothesis =>
      obtain ⟨found, later, isParts⟩ := Option.map_eq_some_iff.1 reads
      obtain ⟨filled, last, rfl, scanned⟩ := inductionHypothesis later
      refine ⟨String.ofList read, filled, last, isParts.symm, fun earlier front => ?_⟩
      have next := scanned (earlier ++ [(front, String.ofList read)])
      rw [List.append_assoc, List.singleton_append] at next
      exact next
  | case7 read character behind notBrace inductionHypothesis =>
      have goesOn : scanTemplate (.code read) (character :: behind) =
          scanTemplate (.code (read ++ [character])) behind := by
        rw [scanTemplate]
        exact notBrace
      rw [goesOn] at reads
      obtain ⟨code, filled, last, isParts, scanned⟩ := inductionHypothesis reads
      refine ⟨code, filled, last, isParts, fun earlier front => ?_⟩
      rw [← scanned earlier front]
      simp only [List.cons_append, scan, State.step, if_neg notBrace, Option.bind_some]
  | case8 mode => cases mode <;> cases reads

/-- The substitutions of a template, each with the text in front of it, and the text behind them. -/
abbrev Segments := List (List Char × String) × List Char

/-- Segments behind a text. -/
def Segments.behind (text : List Char) : Segments → Segments
  | ((front, code) :: filled, last) => ((text ++ front, code) :: filled, last)
  | ([], last) => ([], text ++ last)

def segmentsOf : List TemplatePart → Segments
  | [] => ([], [])
  | .plain text :: rest => (segmentsOf rest).behind text.toList
  | .substitution code :: rest => (([], code) :: (segmentsOf rest).1, (segmentsOf rest).2)

theorem Segments.behind_nil (segments : Segments) : segments.behind [] = segments := by
  obtain ⟨_ | ⟨segment, filled⟩, last⟩ := segments <;> rfl

theorem Segments.behind_append (first second : List Char) (segments : Segments) :
    segments.behind (first ++ second) = (segments.behind second).behind first := by
  obtain ⟨_ | ⟨segment, filled⟩, last⟩ := segments <;> simp [behind]

theorem segmentsOf_plainPart_append (text : List Char) (parts : List TemplatePart) :
    segmentsOf (plainPart text ++ parts) = (segmentsOf parts).behind text := by
  cases text with
  | nil => exact (Segments.behind_nil _).symm
  | cons first rest =>
      show (segmentsOf parts).behind (String.ofList (first :: rest)).toList = _
      rw [String.toList_ofList]

theorem segmentsOf_condensedBehind (text : List Char) (parts : List TemplatePart) :
    segmentsOf (condensedBehind text parts) = (segmentsOf parts).behind text := by
  fun_induction condensedBehind text parts with
  | case1 text =>
      have whole := segmentsOf_plainPart_append text []
      rwa [List.append_nil] at whole
  | case2 text more rest inductionHypothesis =>
      rw [inductionHypothesis, segmentsOf, Segments.behind_append]
  | case3 text code rest inductionHypothesis =>
      rw [segmentsOf_plainPart_append, segmentsOf, segmentsOf, inductionHypothesis,
        Segments.behind_nil]

theorem segmentsOf_partsOf (filled : List (List Char × String)) (last : List Char) :
    segmentsOf (partsOf filled last) = (filled, last) := by
  induction filled with
  | nil =>
      have whole := segmentsOf_plainPart_append last []
      rw [List.append_nil] at whole
      refine whole.trans ?_
      simp [segmentsOf, Segments.behind]
  | cons segment filled inductionHypothesis =>
      obtain ⟨front, code⟩ := segment
      rw [partsOf_cons, segmentsOf_plainPart_append, segmentsOf, inductionHypothesis]
      simp [Segments.behind]

/-- A template with these parts. -/
def templateToken (parts : List TemplatePart) : Token :=
  .template (segmentsOf parts).1 (segmentsOf parts).2

/-- The parts of a tidy template are found in its segments again. -/
theorem partsOf_segmentsOf {parts : List TemplatePart} (tidy : Script.Tidy parts) :
    partsOf (segmentsOf parts).1 (segmentsOf parts).2 = parts := by
  obtain ⟨filled, last, isParts, -⟩ :=
    @scan_template [] [] [] _ _ _ (Script.scanTemplate_render tidy.staysApart [])
  have whole : condensedBehind [] parts = parts := tidy.condensed_eq
  rw [whole] at isParts
  rw [isParts, segmentsOf_partsOf]

theorem Exact.template {parts : List TemplatePart} (apart : StaysApart parts) :
    Exact ("\x60" ++ String.join (parts.map TemplatePart.render) ++ "\x60")
      [.token (templateToken parts)] := by
  intro opened before rest
  obtain ⟨filled, last, isParts, scanned⟩ :=
    @scan_template opened before rest _ _ _ (Script.scanTemplate_render apart [])
  have segments := segmentsOf_condensedBehind [] parts
  rw [isParts, segmentsOf_partsOf, Segments.behind_nil] at segments
  rw [templateToken, ← segments, String.toList_append, String.toList_append,
    String.toList_join, List.flatMap_map]
  exact scanned []

/-! ## Comments -/

theorem scan_lineComment {text : List Char}
    (isLine : ∀ character ∈ text, endsLine character = false) :
    scan ⟨.lineComment, opened, before⟩ (text ++ '\n' :: rest) =
      scan ⟨.between, opened, before⟩ rest := by
  induction text with
  | nil => rfl
  | cons character text inductionHypothesis =>
      rw [List.forall_mem_cons] at isLine
      rw [← inductionHypothesis isLine.2]
      simp [scan, State.step, isLine.1]

theorem Exact.lineComment {text : String} (isLine : Script.IsLine text) :
    Exact ("//" ++ text ++ "\n") [] := by
  intro opened before rest
  rw [String.toList_append, String.toList_append, List.append_assoc, List.append_assoc,
    List.append_nil]
  exact scan_lineComment isLine

/-- A comment goes on to its first terminator. -/
theorem scan_comment {inside : List Char} (apart : Unterminated (inside ++ ['*'])) {asterisk : Bool}
    (goesOn : asterisk = true → inside.head? ≠ some '/') :
    scan ⟨.comment asterisk, opened, before⟩ (inside ++ '*' :: '/' :: rest) =
      scan ⟨.between, opened, before⟩ rest := by
  induction inside generalizing asterisk with
  | nil => cases asterisk <;> rfl
  | cons character inside inductionHypothesis =>
      rw [Unterminated, List.cons_append, List.isChain_cons] at apart
      obtain ⟨here, behind⟩ := apart
      have notClosed : ¬ (asterisk = true ∧ character = '/') :=
        fun closed => goesOn closed.1 (congrArg some closed.2)
      have next : decide (character = '*') = true → inside.head? ≠ some '/' := by
        intro isAsterisk isSlash
        refine here '/' ?_ ⟨of_decide_eq_true isAsterisk, rfl⟩
        rw [List.head?_append, isSlash]
        rfl
      rw [← inductionHypothesis behind next]
      simp only [List.cons_append, scan, State.step, if_neg notClosed, Option.bind_some]

/-- The comment in front of a function is passed over. -/
theorem Exact.comment (lines : List String) : Exact (Script.renderComment lines) [] := by
  intro opened before rest
  rw [List.append_nil]
  obtain ⟨texts, rfl⟩ : ∃ texts : List (List Char), lines = texts.map String.ofList :=
    ⟨lines.map String.toList, by simp⟩
  cases texts with
  | nil => rfl
  | cons text texts =>
      -- Behind its opening, which is read first, no terminator stands in the body either.
      let body := ['*', '\n'] ++ (text :: texts).flatMap Script.commentLine ++ [' ']
      have whole : (Script.renderComment ((text :: texts).map String.ofList)).toList ++ rest =
          ['/', '*'] ++ (body ++ '*' :: '/' :: '\n' :: rest) := by
        rw [Script.toList_renderComment (List.cons_ne_nil text texts), List.append_assoc]
        rfl
      have apart : Unterminated (['/', '*'] ++ (body ++ ['*'])) :=
        Script.unterminated_commentBody (text :: texts)
      rw [whole]
      exact scan_comment apart.right_of_append nofun

/-! ## Brackets -/

/-- A text opens a bracket. -/
def Enters (opening : String) (bracket : Bracket) : Prop :=
  ∀ (opened : List Opened) (before : Row) (rest : List Char),
    scan ⟨.between, opened, before⟩ (opening.toList ++ rest) =
      scan ⟨.between, ⟨bracket, [], before⟩ :: opened, []⟩ rest

/-- A text ends a row between brackets in which some rows have ended; this may show what kind of
bracket it is. -/
structure Ends (bracket : Bracket) (rows : List Row) (ending : String) (shown : Bracket) :
    Prop where
  opens : Opens ending
  scan_eq : ∀ (opened : List Opened) (before row : Row) (rest : List Char), row ≠ [] →
    scan ⟨.between, ⟨bracket, rows, before⟩ :: opened, row⟩ (ending.toList ++ rest) =
      scan ⟨.between, ⟨shown, rows ++ [row], before⟩ :: opened, []⟩ rest

/-- A text closes a bracket. -/
structure Closes (bracket : Bracket) (closing : String) : Prop where
  opens : Opens closing
  scan_eq : ∀ (opened : List Opened) (rows : List Row) (before row : Row) (rest : List Char),
    scan ⟨.between, ⟨bracket, rows, before⟩ :: opened, row⟩ (closing.toList ++ rest) =
      scan ⟨.between, opened, before ++ [.group bracket (rows ++ ended row)]⟩ rest

/-- A text writes a row that is not empty. -/
structure WritesRow (text : String) (row : Row) : Prop where
  writes : Writes text row
  nonempty : row ≠ []

section Brackets

variable {bracket shown : Bracket} {opening closing ending text : String} {rows earlier : List Row}
  {texts : List String}

theorem Enters.group (enters : Enters opening bracket)
    (inside : ∀ (opened : List Opened) (before : Row) (rest : List Char),
      scan ⟨.between, ⟨bracket, [], before⟩ :: opened, []⟩ (text.toList ++ rest) =
        scan ⟨.between, opened, before ++ [.group shown rows]⟩ rest) :
    Exact (opening ++ text) [.group shown rows] := by
  intro opened before rest
  rw [String.toList_append, List.append_assoc, enters, inside]

theorem ended_of_ne {row : Row} (nonempty : row ≠ []) : ended row = [row] := by
  simp [ended, nonempty]

theorem Ends.scan_row (ends : Ends bracket earlier ending shown) {row : Row}
    (written : WritesRow text row) (opened : List Opened) (before : Row) (rest : List Char) :
    scan ⟨.between, ⟨bracket, earlier, before⟩ :: opened, []⟩ ((text ++ ending).toList ++ rest) =
      scan ⟨.between, ⟨shown, earlier ++ [row], before⟩ :: opened, []⟩ rest := by
  rw [String.toList_append, List.append_assoc, written.writes _ _ _ (ends.opens rest),
    List.nil_append, ends.scan_eq _ _ _ _ written.nonempty]

/-- Rows between separators, up to the closing bracket. -/
theorem scan_rows (ends : ∀ rows, Ends bracket rows ending bracket)
    (closes : Closes bracket closing) (written : List.Forall₂ WritesRow texts rows)
    (earlier : List Row) (opened : List Opened) (before : Row) (rest : List Char) :
    scan ⟨.between, ⟨bracket, earlier, before⟩ :: opened, []⟩
        ((ending.intercalate texts ++ closing).toList ++ rest) =
      scan ⟨.between, opened, before ++ [.group bracket (earlier ++ rows)]⟩ rest := by
  induction written generalizing earlier with
  | nil =>
      rw [String.intercalate_nil, String.empty_append, closes.scan_eq]
      rfl
  | @cons text row texts rows first others inductionHypothesis =>
      cases others with
      | nil =>
          rw [String.intercalate_singleton, String.toList_append, List.append_assoc,
            first.writes _ _ _ (closes.opens rest), List.nil_append, closes.scan_eq,
            ended_of_ne first.nonempty]
      | @cons next nextRow texts rows second others =>
          have whole : ending.intercalate (text :: next :: texts) ++ closing =
              (text ++ ending) ++ (ending.intercalate (next :: texts) ++ closing) := by
            rw [String.intercalate_cons_cons, String.append_assoc]
          rw [whole, String.toList_append, List.append_assoc, (ends earlier).scan_row first,
            inductionHypothesis, List.append_assoc, List.singleton_append]

/-- Rows that end in the same way. -/
theorem scan_lines (ends : ∀ rows, Ends bracket rows ending bracket)
    (written : List.Forall₂ WritesRow texts rows) (earlier : List Row) (opened : List Opened)
    (before : Row) (rest : List Char) :
    scan ⟨.between, ⟨bracket, earlier, before⟩ :: opened, []⟩
        ((String.join (texts.map (· ++ ending))).toList ++ rest) =
      scan ⟨.between, ⟨bracket, earlier ++ rows, before⟩ :: opened, []⟩ rest := by
  induction written generalizing earlier with
  | nil => rw [List.append_nil]; rfl
  | cons first others inductionHypothesis =>
      rw [List.map_cons, String.join_cons, String.toList_append, List.append_assoc,
        (ends earlier).scan_row first, inductionHypothesis, List.append_assoc,
        List.singleton_append]

/-- Rows between separators in brackets. -/
theorem Exact.separated (enters : Enters opening bracket)
    (ends : ∀ rows, Ends bracket rows ending bracket) (closes : Closes bracket closing)
    (written : List.Forall₂ WritesRow texts rows) :
    Exact (opening ++ ending.intercalate texts ++ closing) [.group bracket rows] := by
  rw [String.append_assoc]
  exact enters.group (scan_rows ends closes written [])

/-- Rows in brackets on a line each. -/
theorem Exact.lines (enters : Enters opening bracket)
    (ends : ∀ rows, Ends bracket rows ending bracket) (closes : Closes bracket closing)
    (written : List.Forall₂ WritesRow texts rows) :
    Exact (opening ++ String.join (texts.map (· ++ ending)) ++ closing) [.group bracket rows] := by
  rw [String.append_assoc]
  refine enters.group fun opened before rest => ?_
  rw [String.toList_append, List.append_assoc, scan_lines ends written, closes.scan_eq,
    List.nil_append]
  exact congrArg (fun all => scan ⟨.between, opened, before ++ [.group bracket all]⟩ rest)
    (List.append_nil rows)

end Brackets

/-! ## The brackets and separators of the printer -/

/-- Braces around statements; none at all look like an object without members. -/
def bodyTree (rows : List Row) : Tree :=
  if rows.isEmpty then .group .brace [] else .group .block rows

section Printed

variable {bracket : Bracket} {closing : String} {texts : List String} {rows : List Row}

theorem ends_comma (notBlock : bracket ≠ .block) {ending : String}
    (isComma : ending = ", " ∨ ending = ",\n" ∨ ending = ",") (rows : List Row) :
    Ends bracket rows ending bracket := by
  have separates : ∀ (opened : List Opened) (before row : Row), row ≠ [] →
      State.separate ⟨.between, ⟨bracket, rows, before⟩ :: opened, row⟩ =
        some ⟨.between, ⟨bracket, rows ++ [row], before⟩ :: opened, []⟩ := by
    intro opened before row nonempty
    simp [State.separate, notBlock, nonempty]
  rcases isComma with rfl | rfl | rfl
  · refine ⟨.of_head rfl, fun opened before row rest nonempty => ?_⟩
    exact congrArg (fun state => state.bind (scan · (' ' :: rest))) (separates _ _ _ nonempty)
  · refine ⟨.of_head rfl, fun opened before row rest nonempty => ?_⟩
    exact congrArg (fun state => state.bind (scan · ('\n' :: rest))) (separates _ _ _ nonempty)
  · refine ⟨.of_head rfl, fun opened before row rest nonempty => ?_⟩
    exact congrArg (fun state => state.bind (scan · rest)) (separates _ _ _ nonempty)

/-- A semicolon ends a statement; the first one shows that braces are around statements. -/
theorem ends_semicolon (mayEnd : bracket = .block ∨ bracket = .brace ∧ rows = [])
    {ending : String} (isSemicolon : ending = ";\n" ∨ ending = "; ") :
    Ends bracket rows ending .block := by
  have terminates : ∀ (opened : List Opened) (before row : Row), row ≠ [] →
      State.terminate ⟨.between, ⟨bracket, rows, before⟩ :: opened, row⟩ =
        some ⟨.between, ⟨.block, rows ++ [row], before⟩ :: opened, []⟩ := by
    intro opened before row nonempty
    rcases mayEnd with rfl | ⟨rfl, rfl⟩ <;> simp [State.terminate, nonempty]
  rcases isSemicolon with rfl | rfl
  · refine ⟨.of_head rfl, fun opened before row rest nonempty => ?_⟩
    exact congrArg (fun state => state.bind (scan · ('\n' :: rest))) (terminates _ _ _ nonempty)
  · refine ⟨.of_head rfl, fun opened before row rest nonempty => ?_⟩
    exact congrArg (fun state => state.bind (scan · (' ' :: rest))) (terminates _ _ _ nonempty)

theorem ends_statement (rows : List Row) : Ends .block rows ";\n" .block :=
  ends_semicolon (.inl rfl) (.inl rfl)

theorem ends_first : Ends .brace [] ";\n" .block := ends_semicolon (.inr ⟨rfl, rfl⟩) (.inl rfl)

theorem opens_indented (level : Nat) : Opens (Script.indentation level ++ "\x7d") := by
  refine .of_head ?_
  rw [Script.indentation, String.toList_append, String.toList_ofList]
  cases 2 * level <;> rfl

/-- A closing brace may be indented. -/
theorem Closes.indented (isBrace : bracket = .brace ∨ bracket = .block) (level : Nat) :
    Closes bracket (Script.indentation level ++ "\x7d") := by
  refine ⟨opens_indented level, fun opened rows before row rest => ?_⟩
  rw [String.toList_append, List.append_assoc, Exact.indentation, List.append_nil]
  rcases isBrace with rfl | rfl <;> rfl

theorem Exact.list (written : List.Forall₂ WritesRow texts rows) :
    Exact ("[" ++ ", ".intercalate texts ++ "]") [.group .square rows] :=
  .separated (fun _ _ _ => rfl) (ends_comma (by decide) (.inl rfl))
    ⟨.of_head rfl, fun _ _ _ _ _ => rfl⟩ written

theorem Exact.arguments (written : List.Forall₂ WritesRow texts rows) :
    Exact ("(" ++ ", ".intercalate texts ++ ")") [.group .round rows] :=
  .separated (fun _ _ _ => rfl) (ends_comma (by decide) (.inl rfl))
    ⟨.of_head rfl, fun _ _ _ _ _ => rfl⟩ written

theorem Exact.types (written : List.Forall₂ WritesRow texts rows) :
    Exact ("<" ++ ", ".intercalate texts ++ ">") [.group .angle rows] :=
  .separated (fun _ _ _ => rfl) (ends_comma (by decide) (.inl rfl))
    ⟨.of_head rfl, fun _ _ _ _ _ => rfl⟩ written

theorem Exact.members (written : List.Forall₂ WritesRow texts rows) :
    Exact ("\x7b " ++ ", ".intercalate texts ++ " \x7d") [.group .brace rows] :=
  .separated (fun _ _ _ => rfl) (ends_comma (by decide) (.inl rfl))
    ⟨.of_head rfl, fun _ _ _ _ _ => rfl⟩ written

theorem Exact.memberLines (written : List.Forall₂ WritesRow texts rows) (level : Nat) :
    Exact ("\x7b\n" ++ String.join (texts.map (· ++ ",\n")) ++
      (Script.indentation level ++ "\x7d")) [.group .brace rows] :=
  .lines (fun _ _ _ => rfl) (ends_comma (by decide) (.inr (.inl rfl)))
    (.indented (.inl rfl) level) written

/-- The braces around statements. -/
theorem Exact.statements (written : List.Forall₂ WritesRow texts rows) (level : Nat) :
    Exact ("\x7b\n" ++ String.join (texts.map (· ++ ";\n")) ++
      (Script.indentation level ++ "\x7d")) [bodyTree rows] := by
  have enters : Enters "\x7b\n" .brace := fun _ _ _ => rfl
  rw [String.append_assoc]
  cases written with
  | nil =>
      exact enters.group fun opened before rest =>
        (Closes.indented (.inl rfl) level).scan_eq opened [] before [] rest
  | @cons text row texts rows first others =>
      refine enters.group fun opened before rest => ?_
      rw [List.map_cons, String.join_cons, String.append_assoc, String.toList_append,
        List.append_assoc, ends_first.scan_row first, String.toList_append, List.append_assoc,
        scan_lines ends_statement others, (Closes.indented (.inr rfl) level).scan_eq, ended,
        List.isEmpty_nil, if_pos rfl, List.append_nil]
      rfl

end Printed

end TypedClient.ScriptText
