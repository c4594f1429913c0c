import TypedClient.Proofs.Yaml.PlainScalar
import TypedClient.Yaml.Reading

/-!
Contract: texts that begin with lines of prose up to a colon.

Owns:
- `Prose`, a text whose first words go over several lines in front of a colon, as those of a comment
  with slashes do;
- that such a text has no YAML value: the colon would make a key of several lines.

Does not own: which texts begin so.
-/

namespace TypedClient.Yaml

open TypedClient.Yaml.Lex (Part spellParts)

/-- A text that begins with a slash and with words over several lines, and then has a colon in front
of a blank. -/
structure Prose where
  first : Part
  parts : List Part
  later : List Char
  slash : first.first = '/'
  plain : ∀ any ∈ first :: parts, any.isPlain = true
  severalLines : 0 < parts.countP (·.gap = '\n')
  before : blankOrEnd later.head? = true

namespace Prose

variable (prose : Prose)

/-- The text behind the first character. -/
def tail : List Char := prose.first.later ++ (spellParts prose.parts ++ ':' :: prose.later)

def characters : List Char := '/' :: prose.tail

theorem characters_eq : prose.characters =
    prose.first.word ++ (spellParts prose.parts ++ ':' :: prose.later) := by
  rw [characters, ← prose.slash]
  rfl

end Prose

namespace Lex

variable {lexer : Lexer}

/-- The state in front of a text in which nothing was read yet. -/
def opening (rest : List Char) (size : Nat) : Lexer := { rest, size }

/-- Nothing is passed over in front of a token that stands where reading stands. -/
theorem skipToToken_of_ne {first : Char} {rest : List Char} (follows : lexer.rest = first :: rest)
    (noMark : first ≠ '\uFEFF') (noComment : first ≠ '#')
    (noGap : (isBlank first || isBreak first) = false) (steps : Nat) :
    skipToToken steps lexer = .ok ((), lexer) := by
  rw [Bool.or_eq_false_iff, isBlank, Bool.or_eq_false_iff] at noGap
  obtain ⟨⟨noSpace, noTab⟩, noBreak⟩ := noGap
  cases steps with
  | zero => rfl
  | succ steps =>
      have unmoved : lexer.skip 0 = lexer := by simp [Lexer.skip]
      have noneTaken : takeWhile (fun character =>
          character = ' ' || ((lexer.inFlow || !lexer.keyAllowed) && character = '\t')) lexer =
            .ok ([], lexer) := by
        rw [takeWhile, bind_of_ok rfl, follows]
        simp only [List.takeWhile_cons, noSpace, noTab, Bool.and_false, Bool.or_false,
          Bool.false_eq_true, if_false, List.length_nil]
        rw [bind_of_ok rfl]
        change Except.ok (([] : List Char), lexer.skip 0) = _
        rw [unmoved]
      rw [skipToToken, bind_of_ok rfl, bind_of_ok (sees_of_ne follows noMark)]
      simp only [Bool.and_false, Bool.false_eq_true, if_false]
      rw [bind_of_ok noneTaken, bind_of_ok (sees_of_ne follows noComment)]
      simp only [Bool.false_eq_true, if_false]
      rw [bind_of_ok rfl, follows]
      simp only [List.head?_cons, Option.map_some, noBreak, Option.getD_some, Bool.false_eq_true,
        if_false]
      rfl

/-- The state in front of the words of a text, when it is known that they may be a key. -/
def openingWords (prose : Prose) (size : Nat) : Lexer :=
  { opening prose.characters size with keyAllowed := false, keys := [some ⟨0, false, {}⟩] }

/-- The state behind the words of a text, when they were read. -/
def behindWords (prose : Prose) (size : Nat) (mark : Mark) : Lexer :=
  { opening (':' :: prose.later) size with
    mark, keyAllowed := false, keys := [some ⟨0, false, {}⟩] }

/-- The words are read as one scalar. -/
theorem plain_words (prose : Prose) {size : Nat} (room : prose.characters.length ≤ size) :
    ∃ content mark, plain (openingWords prose size) =
      .ok (⟨.scalar content true, {}, mark⟩, behindWords prose size mark) ∧ 0 < mark.line := by
  have fewer : prose.parts.length < size + 1 := by
    have each := length_le_spellParts prose.parts
    rw [prose.characters_eq, List.length_append, List.length_append] at room
    omega
  have block : (openingWords prose size).inFlow = false := rfl
  have follows : (openingWords prose size).rest =
      prose.first.word ++ (spellParts prose.parts ++ ':' :: prose.later) := prose.characters_eq
  obtain ⟨content, mark, reads, isLine⟩ := plainFrom_eq {} prose.plain prose.before block
    (Int.le_refl 0) follows room [] [] false fewer
  refine ⟨String.ofList content.reverse, mark, ?_, ?_⟩
  · rw [plain, bind_of_ok rfl, bind_of_ok rfl]
    change (plainFrom {} 0 [] [] false (size + 1) >>= _) _ = _
    rw [bind_of_ok reads]
    rfl
  · rw [isLine]
    exact Nat.lt_of_lt_of_le prose.severalLines (Nat.le_add_left _ _)

/-- The first token of such a text is a scalar, behind which no key may start. -/
theorem nextToken_opening (prose : Prose) {size : Nat} (room : prose.characters.length ≤ size) :
    ∃ content mark, nextToken (opening prose.characters size) =
      .ok ((), { behindWords prose size mark with
        queue := [⟨.scalar content true, {}, mark⟩] }) ∧ 0 < mark.line := by
  obtain ⟨content, mark, reads, isLater⟩ := plain_words prose room
  refine ⟨content, mark, ?_, isLater⟩
  have starts : (opening prose.characters size).rest = '/' :: prose.tail := rfl
  have passed := skipToToken_of_ne starts (by decide) (by decide) rfl
  have unmarked := atDocumentMark_of_ne starts (by decide) (by decide)
  rw [nextToken, bind_of_ok rfl, bind_of_ok (passed _), bind_of_ok rfl, bind_of_ok rfl,
    bind_of_ok rfl]
  change (peek >>= _) (opening prose.characters size) = _
  rw [bind_of_ok rfl]
  change tokenFrom '/' (opening prose.characters size) = _
  rw [tokenFrom, bind_of_ok rfl]
  change (atDocumentMark >>= _) (opening prose.characters size) = _
  rw [bind_of_ok unmarked]
  change keyLike plain (opening prose.characters size) = _
  rw [keyLike, bind_of_ok rfl, bind_of_ok rfl]
  change (plain >>= _) (openingWords prose size) = _
  rw [bind_of_ok reads]
  rfl

/-- The state behind the words, when they are known to be no key. -/
def behindScalar (prose : Prose) (size : Nat) (mark : Mark) (scalar : Token) : Lexer :=
  { behindWords prose size mark with keys := [none], released := [scalar], releasedCount := 1 }

/-- Behind several lines the words are no key any more. -/
theorem release_words (prose : Prose) (size : Nat) {mark : Mark} (isLater : 0 < mark.line)
    (scalar : Token) :
    release { behindWords prose size mark with queue := [scalar] } =
      .ok ((), behindScalar prose size mark scalar) := by
  have stale : isStale mark ⟨0, false, {}⟩ = true := by simp [isStale, isLater]
  have among : forgetStaleAmong [some ⟨0, false, {}⟩]
      { behindWords prose size mark with queue := [scalar] } =
        .ok ([none], { behindWords prose size mark with queue := [scalar] }) := by
    rw [forgetStaleAmong, bind_of_ok rfl]
    change (if isStale mark ⟨0, false, {}⟩ = true then _ else _ :
      Lex (List (Option PendingKey))) _ = _
    rw [if_pos stale]
    rfl
  have forgotten : forgetStale { behindWords prose size mark with queue := [scalar] } =
      .ok ((), { behindWords prose size mark with keys := [none], queue := [scalar] }) := by
    rw [forgetStale, bind_of_ok rfl]
    change (forgetStaleAmong [some ⟨0, false, {}⟩] >>= _) _ = _
    rw [bind_of_ok among]
    rfl
  rw [release, bind_of_ok rfl]
  change (forgetStale >>= _) _ = _
  rw [bind_of_ok forgotten]
  rfl

/-- The colon behind the words is refused. -/
theorem nextToken_colon (prose : Prose) (size : Nat) (mark : Mark) (scalar : Token) :
    nextToken (behindScalar prose size mark scalar) = .error ⟨.valueNotAllowed, mark, none⟩ := by
  have starts : (behindScalar prose size mark scalar).rest = ':' :: prose.later := rfl
  have passed := skipToToken_of_ne starts (by decide) (by decide) rfl
  have unmarked := atDocumentMark_of_ne starts (by decide) (by decide)
  have refused : value (behindScalar prose size mark scalar) =
      .error ⟨.valueNotAllowed, mark, none⟩ := rfl
  have marked : blankOrEnd (behindScalar prose size mark scalar).rest[1]? = true := by
    change blankOrEnd prose.later[0]? = true
    rw [← List.head?_eq_getElem?]
    exact prose.before
  rw [nextToken, bind_of_ok rfl, bind_of_ok (passed _), bind_of_ok rfl, bind_of_ok rfl,
    bind_of_ok rfl]
  change (peek >>= _) (behindScalar prose size mark scalar) = _
  rw [bind_of_ok rfl]
  change tokenFrom ':' (behindScalar prose size mark scalar) = _
  rw [tokenFrom, bind_of_ok rfl]
  simp only [marked, Bool.or_true, Bool.and_true, Char.reduceEq, decide_false, Bool.and_false,
    Bool.false_eq_true, if_false, decide_true, if_true]
  rw [bind_of_ok unmarked]
  simp only [Bool.false_eq_true, if_false]
  exact refused

end Lex

/-- Such a text has a fault behind its first token. -/
theorem tokensFrom_prose (prose : Prose) {size : Nat} (room : prose.characters.length ≤ size)
    (steps : Nat) :
    ∃ content mark fault, tokensFrom (Lex.opening prose.characters size) (steps + 2) =
      ([⟨.scalar content true, {}, mark⟩], some fault) := by
  obtain ⟨content, mark, first, isLater⟩ := Lex.nextToken_opening prose room
  refine ⟨content, mark, ⟨.valueNotAllowed, mark, none⟩, ?_⟩
  rw [tokensFrom, first]
  simp only [Lex.release_words prose size isLater]
  rw [tokensFrom, Lex.nextToken_colon]
  rfl

/-- Whatever its tokens are, such a text is no document. -/
theorem firstDocument_prose {text : String} (prose : Prose)
    (isProse : text.toList = prose.characters) :
    (firstDocument text).isVoid = false ∧ ∃ fault, (firstDocument text).fault = some fault := by
  have cut : (∃ fault, tokens text = ([], some fault)) ∨
      ∃ content mark fault, tokens text = ([⟨.scalar content true, {}, mark⟩], some fault) := by
    rw [tokens, isProse]
    cases controlCharacterFrom 0 prose.characters with
    | some offset => exact Or.inl ⟨_, rfl⟩
    | none => exact Or.inr (tokensFrom_prose prose (Nat.le_refl _) prose.tail.length)
  rw [firstDocument]
  rcases cut with ⟨fault, isCut⟩ | ⟨content, mark, fault, isCut⟩
  · rw [isCut]
    exact ⟨rfl, fault, rfl⟩
  · rw [isCut]
    exact ⟨rfl, fault, rfl⟩

theorem exists_failure_ofOpening {opening : Opening} {fault : Fault}
    (isFault : opening.fault = some fault) :
    ∃ failure, (Linked.ofOpening opening).failure = some failure := by
  rw [Linked.ofOpening, isFault]
  cases (Linked.ofEvents {} opening.events).failure with
  | none => exact ⟨_, rfl⟩
  | some failure => exact ⟨failure, rfl⟩

/-- A text with a fault has no value. -/
theorem read_of_fault {text : String} {fault : Fault}
    (notVoid : (firstDocument text).isVoid = false)
    (isFault : (firstDocument text).fault = some fault) :
    ∃ failure, Value.read text = .error failure := by
  obtain ⟨failure, isFailure⟩ := exists_failure_ofOpening isFault
  rw [Value.read]
  simp only [notVoid, Bool.false_eq_true, if_false, isFailure]
  generalize StateT.run (Source.valueWithin _ _ _ _) _ = ran
  cases ran with
  | error earlier => exact ⟨earlier, rfl⟩
  | ok => exact ⟨failure, rfl⟩

/-- Such a text has no tree. -/
theorem readTree_prose {text : String} (prose : Prose) (isProse : text.toList = prose.characters) :
    ∃ words, readTree text = .error words := by
  obtain ⟨notVoid, fault, isFault⟩ := firstDocument_prose prose isProse
  obtain ⟨failure, fails⟩ := read_of_fault notVoid isFault
  rw [readTree, fails]
  exact ⟨_, rfl⟩

end TypedClient.Yaml
