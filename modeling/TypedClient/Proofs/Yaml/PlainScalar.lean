import TypedClient.Yaml.Token.Stream

/-!
Contract: reading a plain scalar that goes over several lines.

Owns:
- what the steps of cutting a text into tokens do with the state;
- `Part`, a word and the blank or line feed in front of it;
- that a plain scalar of words goes on up to the colon in front of a blank.

Does not own: what follows the colon.
-/

namespace TypedClient.Yaml.Lex

variable {α β : Type} {lexer after : Lexer} (since : Mark)

/-! ## Steps -/

theorem bind_eq (step : Lex α) (next : α → Lex β) (lexer : Lexer) :
    (step >>= next) lexer = (step lexer).bind (fun result => next result.1 result.2) := by
  change (StateT.bind step next) lexer = _
  rw [StateT.bind]
  cases step lexer <;> rfl

theorem bind_of_ok {step : Lex α} {value : α} (ran : step lexer = .ok (value, after))
    (next : α → Lex β) : (step >>= next) lexer = next value after := by
  rw [bind_eq, ran]
  rfl

theorem lineBreak_lineFeed {rest : List Char} (follows : lexer.rest = '\n' :: rest) :
    lineBreak lexer = .ok (['\n'], lexer.skipBreak 1) := by
  rw [lineBreak, bind_of_ok rfl, follows]
  rfl

theorem sees_of_ne {first other : Char} {rest : List Char} (follows : lexer.rest = first :: rest)
    (different : first ≠ other) : sees other lexer = .ok (false, lexer) := by
  have unseen : decide (some first = some other) = false :=
    decide_eq_false (fun same => different (Option.some.inj same))
  rw [sees, bind_of_ok rfl, follows, List.head?_cons, unseen]
  rfl

/-- A word that starts with neither of two characters is no mark of a document. -/
theorem atDocumentMark_of_ne {first : Char} {rest : List Char}
    (follows : lexer.rest = first :: rest) (noDash : first ≠ '-') (noDot : first ≠ '.') :
    atDocumentMark lexer = .ok (false, lexer) := by
  rw [atDocumentMark, bind_of_ok rfl, follows]
  split
  · rename_i isDashes
    exact absurd (List.cons.inj isDashes).1 noDash
  · rename_i isDots
    exact absurd (List.cons.inj isDots).1 noDot
  · rw [Bool.and_false]
    rfl

/-! ## Words -/

/-- A character that a word of a plain scalar goes on with. -/
def isWordChar (character : Char) : Bool :=
  !(isBlank character || isBreak character || character = ':')

/-- What ends a word: the character is a blank or a line break, or a colon in front of a blank. -/
def EndsWord (rest : List Char) : Prop :=
  ∃ character later, rest = character :: later ∧
    ((isBlank character || isBreak character) = true ∨
      character = ':' ∧ blankOrEnd later.head? = true)

/-- A word is read up to what ends it. -/
theorem plainWord_eq {word rest : List Char} (isWord : ∀ character ∈ word, isWordChar character)
    (ends : EndsWord rest) (block : lexer.inFlow = false) (follows : lexer.rest = word ++ rest)
    (collected : List Char) {steps : Nat} (enough : word.length < steps) :
    plainWord since collected steps lexer =
      .ok (word.reverse ++ collected, lexer.skip word.length) := by
  induction word generalizing lexer collected steps with
  | nil =>
      obtain ⟨count, rfl⟩ : ∃ count, steps = count + 1 := ⟨steps - 1, by simp at enough; omega⟩
      obtain ⟨character, later, rfl, isEnd⟩ := ends
      have unmoved : lexer.skip 0 = lexer := by simp [Lexer.skip]
      rw [plainWord, bind_of_ok rfl]
      simp only [follows, List.nil_append, block, Bool.false_and, Bool.false_eq_true, if_false]
      rcases isEnd with isGap | ⟨isColon, before⟩
      · rw [if_pos isGap, List.length_nil, unmoved]
        rfl
      · split
        · rw [List.length_nil, unmoved]
          rfl
        · rw [if_pos (by simp [isColon, before]), List.length_nil, unmoved]
          rfl
  | cons character word inductionHypothesis =>
      obtain ⟨count, rfl⟩ : ∃ count, steps = count + 1 := ⟨steps - 1, by simp at enough; omega⟩
      rw [List.forall_mem_cons] at isWord
      obtain ⟨isFirst, isWord⟩ := isWord
      simp only [isWordChar, Bool.not_eq_true', Bool.or_eq_false_iff, decide_eq_false_iff_not] at isFirst
      have noGap : (isBlank character || isBreak character) = false := by simp [isFirst]
      rw [plainWord, bind_of_ok rfl]
      simp only [follows, List.cons_append, noGap, Bool.false_eq_true, if_false, block,
        Bool.false_and, isFirst.2, decide_false]
      rw [bind_of_ok rfl]
      have skipped : (lexer.skip 1).rest = word ++ rest := by
        simp [Lexer.skip, follows]
      have moved : (lexer.skip 1).skip word.length = lexer.skip (word.length + 1) := by
        simp [Lexer.skip, Nat.add_assoc, Nat.add_comm 1]
      have blockBehind : (lexer.skip 1).inFlow = false := block
      have ofRest := inductionHypothesis isWord blockBehind skipped (character :: collected)
        (Nat.lt_of_succ_lt_succ enough)
      rw [List.length_cons, ← moved, List.reverse_cons, List.append_assoc]
      exact ofRest

/-! ## Gaps -/

/-- A single blank or line feed between two parts of a scalar, and the state behind it. -/
def behindGap (gap : Char) (lexer : Lexer) : Lexer :=
  if gap = '\n' then lexer.skipBreak 1 else lexer.skip 1

/-- A gap ends in front of anything but a blank or a line break. -/
theorem gapFrom_of_not_gap {first : Char} {rest : List Char} {limit : Option (Int × Mark)}
    (noGap : (isBlank first || isBreak first) = false) (follows : lexer.rest = first :: rest)
    (found : Gap) (steps : Nat) : gapFrom limit found steps lexer = .ok (found, lexer) := by
  rw [Bool.or_eq_false_iff] at noGap
  cases steps with
  | zero => rfl
  | succ steps =>
      rw [gapFrom, bind_of_ok rfl, follows]
      simp only [List.head?_cons, noGap.1, noGap.2, Bool.false_eq_true, if_false]
      rfl

/-- A gap of one character is read. -/
theorem gap_eq (limit : Int) {character first : Char} {rest : List Char}
    (isGap : character = ' ' ∨ character = '\n') (noGap : (isBlank first || isBreak first) = false)
    (follows : lexer.rest = character :: first :: rest) :
    ∃ found, gap (some (limit, since)) false lexer = .ok (found, behindGap character lexer) := by
  rw [gap, bind_of_ok rfl]
  rcases isGap with rfl | rfl
  · have behind : (lexer.skip 1).rest = first :: rest := by simp [Lexer.skip, follows]
    rw [gapFrom, bind_of_ok rfl, follows]
    exact ⟨{ blanks := [' '] }, gapFrom_of_not_gap noGap behind _ _⟩
  · have behind : (lexer.skipBreak 1).rest = first :: rest := by simp [Lexer.skipBreak, follows]
    rw [gapFrom, bind_of_ok rfl, follows]
    refine ⟨{ first := ['\n'], isBroken := true }, ?_⟩
    change (lineBreak >>= _) lexer = _
    rw [bind_of_ok (lineBreak_lineFeed follows)]
    exact gapFrom_of_not_gap noGap behind _ _

/-! ## Scalars of several words -/

/-- A word and the blank or line feed in front of it. -/
structure Part where
  gap : Char
  first : Char
  later : List Char
deriving DecidableEq, Repr

namespace Part

def word (part : Part) : List Char := part.first :: part.later

def spell (part : Part) : List Char := part.gap :: part.word

/-- A part that a plain scalar goes on with. -/
def isPlain (part : Part) : Bool :=
  (part.gap = ' ' || part.gap = '\n') && part.word.all isWordChar &&
    !(['#', '-', '.'].contains part.first)

end Part

/-- The text of parts. -/
def spellParts (parts : List Part) : List Char := parts.flatMap Part.spell

theorem length_le_spellParts (parts : List Part) : parts.length ≤ (spellParts parts).length := by
  induction parts with
  | nil => exact Nat.le_refl _
  | cons part parts inductionHypothesis =>
      rw [spellParts] at inductionHypothesis
      rw [spellParts, List.flatMap_cons, List.length_append, Part.spell, List.length_cons,
        List.length_cons]
      omega

theorem Part.gap_eq {part : Part} (plain : part.isPlain = true) :
    part.gap = ' ' ∨ part.gap = '\n' := by
  simp only [isPlain, Bool.and_eq_true, Bool.or_eq_true, decide_eq_true_eq] at plain
  exact plain.1.1

theorem Part.noGap_first {part : Part} (plain : part.isPlain = true) :
    (isBlank part.first || isBreak part.first) = false := by
  simp only [isPlain, word, List.all_cons, isWordChar, Bool.and_eq_true, Bool.not_eq_true',
    Bool.or_eq_false_iff] at plain
  rw [plain.1.2.1.1.1, plain.1.2.1.1.2]
  rfl

/-- A word ends in front of another part. -/
theorem Part.endsWord {part : Part} (plain : part.isPlain = true) (rest : List Char) :
    EndsWord (part.spell ++ rest) := by
  refine ⟨part.gap, part.word ++ rest, rfl, Or.inl ?_⟩
  rcases part.gap_eq plain with isBlank | isFeed
  · rw [isBlank]
    rfl
  · rw [isFeed]
    rfl

/-- Where a part of a plain scalar starts, neither a mark of a document nor a comment does, and its
word is read. -/
theorem starts_of_isPlain {part : Part} {rest : List Char} (plain : part.isPlain = true)
    (ends : EndsWord rest) (block : lexer.inFlow = false)
    (follows : lexer.rest = part.word ++ rest) (room : lexer.rest.length ≤ lexer.size) :
    atDocumentMark lexer = .ok (false, lexer) ∧ sees '#' lexer = .ok (false, lexer) ∧
      plainWord since [] (lexer.size + 1) lexer =
        .ok (part.word.reverse, lexer.skip part.word.length) := by
  simp only [Part.isPlain, Bool.and_eq_true, List.all_eq_true, Bool.not_eq_true',
    List.contains_eq_mem, decide_eq_false_iff_not, List.mem_cons, List.not_mem_nil, or_false,
    not_or] at plain
  obtain ⟨⟨-, isWord⟩, noComment, noDash, noDot⟩ := plain
  have starts : lexer.rest = part.first :: (part.later ++ rest) := follows
  refine ⟨atDocumentMark_of_ne starts noDash noDot, sees_of_ne starts noComment, ?_⟩
  rw [follows, List.length_append] at room
  have enough : part.word.length < lexer.size + 1 := by omega
  have reads := plainWord_eq since isWord ends block follows [] enough
  rwa [List.append_nil] at reads

/-- A plain scalar ends behind a word if a colon follows. -/
theorem plainFrom_last (limit : Int) {part : Part} {later : List Char}
    (plain : part.isPlain = true) (before : blankOrEnd later.head? = true)
    (block : lexer.inFlow = false) (follows : lexer.rest = part.word ++ ':' :: later)
    (room : lexer.rest.length ≤ lexer.size) (collected pending : List Char) (isBroken : Bool)
    (steps : Nat) :
    ∃ content, plainFrom since limit collected pending isBroken (steps + 1) lexer =
      .ok ((content, false), lexer.skip part.word.length) := by
  obtain ⟨noMark, noComment, reads⟩ := starts_of_isPlain since plain
    ⟨':', later, rfl, Or.inr ⟨rfl, before⟩⟩ block follows room
  have behind : (lexer.skip part.word.length).rest = ':' :: later := by
    simp [Lexer.skip, follows]
  refine ⟨part.word.reverse ++ (pending.reverse ++ collected), ?_⟩
  rw [plainFrom, bind_of_ok noMark, bind_of_ok noComment]
  change (bound >>= _) lexer = _
  rw [bind_of_ok rfl, bind_of_ok reads]
  have nonempty : part.word.reverse.isEmpty = false := by simp [Part.word]
  simp only [nonempty, Bool.false_eq_true, if_false]
  rw [bind_of_ok rfl, behind]
  rfl

/-- A plain scalar goes on behind a word with the next one. -/
theorem plainFrom_next {part next : Part} {rest : List Char} {limit : Int}
    (plain : part.isPlain = true) (nextPlain : next.isPlain = true)
    (block : lexer.inFlow = false) (noLimit : limit ≤ 0)
    (follows : lexer.rest = part.word ++ (next.spell ++ rest))
    (room : lexer.rest.length ≤ lexer.size) (collected pending : List Char) (isBroken : Bool)
    (steps : Nat) :
    ∃ content gap isBrokenNow, plainFrom since limit collected pending isBroken (steps + 1) lexer =
      plainFrom since limit content gap isBrokenNow steps
        (behindGap next.gap (lexer.skip part.word.length)) := by
  obtain ⟨noMark, noComment, reads⟩ := starts_of_isPlain since plain
    (next.endsWord nextPlain rest) block follows room
  have behind : (lexer.skip part.word.length).rest =
      next.gap :: next.first :: (next.later ++ rest) := by
    simp [Lexer.skip, follows, Part.spell, Part.word]
  obtain ⟨found, gapRead⟩ := gap_eq since limit (next.gap_eq nextPlain)
    (next.noGap_first nextPlain) behind
  refine ⟨part.word.reverse ++ (pending.reverse ++ collected), found.folded, found.isBroken, ?_⟩
  rw [plainFrom, bind_of_ok noMark, bind_of_ok noComment]
  change (bound >>= _) lexer = _
  rw [bind_of_ok rfl, bind_of_ok reads]
  have nonempty : part.word.reverse.isEmpty = false := by simp [Part.word]
  have isGap : (isBlank next.gap || isBreak next.gap) = true := by
    rcases next.gap_eq nextPlain with isBlank | isFeed
    · rw [isBlank]
      rfl
    · rw [isFeed]
      rfl
  have inside :
      ¬ (((behindGap next.gap (lexer.skip part.word.length)).mark.column : Int) < limit) := by
    omega
  simp only [nonempty, Bool.false_eq_true, if_false]
  rw [bind_of_ok rfl, behind]
  simp only [List.head?_cons, Option.map_some, isGap, Option.getD_some, Bool.not_true,
    Bool.false_eq_true, if_false]
  change (gap (some (limit, since)) false >>= _) _ = _
  rw [bind_of_ok gapRead, bind_of_ok rfl]
  simp only [inside, decide_false, Bool.and_false, Bool.false_eq_true, if_false]

/-- A plain scalar of words goes on up to the colon in front of a blank, past all lines. -/
theorem plainFrom_eq {part : Part} {parts : List Part} {later : List Char} {limit : Int}
    (plain : ∀ any ∈ part :: parts, any.isPlain = true) (before : blankOrEnd later.head? = true)
    (block : lexer.inFlow = false) (noLimit : limit ≤ 0)
    (follows : lexer.rest = part.word ++ (spellParts parts ++ ':' :: later))
    (room : lexer.rest.length ≤ lexer.size) (collected pending : List Char) (isBroken : Bool)
    {steps : Nat} (enough : parts.length < steps) :
    ∃ content mark,
      plainFrom since limit collected pending isBroken steps lexer =
        .ok ((content, false), { lexer with rest := ':' :: later, mark }) ∧
        mark.line = lexer.mark.line + parts.countP (·.gap = '\n') := by
  induction parts generalizing part lexer collected pending isBroken steps with
  | nil =>
      obtain ⟨count, rfl⟩ : ∃ count, steps = count + 1 := ⟨steps - 1, by omega⟩
      obtain ⟨content, isContent⟩ := plainFrom_last since limit
        (plain part List.mem_cons_self) before block follows room collected pending isBroken count
      refine ⟨content, (lexer.skip part.word.length).mark, ?_, rfl⟩
      rw [isContent]
      simp [Lexer.skip, follows, spellParts]
  | cons next parts inductionHypothesis =>
      obtain ⟨count, rfl⟩ : ∃ count, steps = count + 1 := ⟨steps - 1, by omega⟩
      rw [List.forall_mem_cons] at plain
      have nextPlain := plain.2 next List.mem_cons_self
      have isSpelled : lexer.rest =
          part.word ++ (next.spell ++ (spellParts parts ++ ':' :: later)) := by
        rw [follows, spellParts, List.flatMap_cons, List.append_assoc]
        rfl
      obtain ⟨content, gap, isBrokenNow, goesOn⟩ := plainFrom_next since plain.1 nextPlain
        block noLimit isSpelled room collected pending isBroken count
      have moved : behindGap next.gap (lexer.skip part.word.length) =
          { lexer with
            rest := next.word ++ (spellParts parts ++ ':' :: later)
            mark := (behindGap next.gap (lexer.skip part.word.length)).mark } := by
        rw [behindGap]
        split <;> simp [Lexer.skip, Lexer.skipBreak, isSpelled, Part.spell]
      have shorter : (next.word ++ (spellParts parts ++ ':' :: later)).length ≤ lexer.size := by
        refine Nat.le_trans ?_ room
        simp [isSpelled, Part.spell]
        omega
      have blockBehind : (behindGap next.gap (lexer.skip part.word.length)).inFlow = false := by
        rw [moved]
        exact block
      have followsBehind : (behindGap next.gap (lexer.skip part.word.length)).rest =
          next.word ++ (spellParts parts ++ ':' :: later) := by
        rw [moved]
      have roomBehind : (behindGap next.gap (lexer.skip part.word.length)).rest.length ≤
          (behindGap next.gap (lexer.skip part.word.length)).size := by
        rw [moved]
        exact shorter
      obtain ⟨content, mark, ofRest, isLine⟩ := inductionHypothesis plain.2 blockBehind followsBehind
        roomBehind content gap isBrokenNow (Nat.lt_of_succ_lt_succ enough)
      refine ⟨content, mark, ?_, ?_⟩
      · rw [goesOn, ofRest, moved]
      · rw [isLine, List.countP_cons, behindGap]
        split <;> simp [Lexer.skip, Lexer.skipBreak, *]
        omega

end TypedClient.Yaml.Lex
