import TypedClient.Client.Files
import TypedClient.Proofs.Yaml.Prose
import TypedClient.Run.Loading

/-!
Contract: no file that is generated anew in every run is a document.

Owns:
- the comment at the top of such a file as words in front of a colon;
- that neither format reads a document from such a file, whatever the model.

Does not own: the file that sets a client up, which may be edited into anything.
-/

namespace TypedClient

open Json (Cursor Reader)

/-- No document starts with a slash. -/
theorem Document.fromText_slash (rest : List Char) (place : Json.Place) (levels size : Nat) :
    ∃ failure after, Document.decoder.fromText ⟨'/' :: rest, place, levels, size⟩ =
      .error failure after :=
  ⟨_, _, rfl⟩

theorem Document.decode_slash {text : String} {rest : List Char}
    (slash : text.toList = '/' :: rest) :
    ∃ failure, Document.decoder.decode text = .error failure := by
  obtain ⟨failure, after, fails⟩ :=
    Document.fromText_slash rest ⟨1, 0⟩ Json.levelLimit text.toList.length
  have start : Cursor.start text =
      ⟨'/' :: rest, ⟨1, 0⟩, Json.levelLimit, text.toList.length⟩ := by
    rw [Cursor.start, slash]
  refine ⟨failure, ?_⟩
  rw [Json.Decoder.decode, Reader.run]
  simp only [start, bind, EStateM.bind, fails]

/-- A text that begins in prose is no document in either format. -/
theorem Document.ofText_prose {text : String} (prose : Yaml.Prose)
    (isProse : text.toList = prose.characters) (format : Format) (origin : String) :
    ∃ failure, Document.ofText format origin text = .error failure := by
  cases format with
  | json =>
      obtain ⟨failure, fails⟩ := Document.decode_slash isProse
      rw [Document.ofText, Document.parse, fails]
      exact ⟨_, rfl⟩
  | yaml =>
      obtain ⟨words, fails⟩ := Yaml.readTree_prose prose isProse
      rw [Document.ofText, Document.parse, fails]
      exact ⟨_, rfl⟩

namespace Client

open Script (File renderHeaderLine)
open Yaml.Lex (Part spellParts)

/-- A text cut at its blanks and line feeds: what stands in front of the first one, and the parts. -/
def cut (text : List Char) : List Char × List Part :=
  text.foldr (fun character (word, parts) =>
    if character = ' ' ∨ character = '\n' then
      match word with
      | first :: later => ([], ⟨character, first, later⟩ :: parts)
      | [] => ([], parts)
    else (character :: word, parts)) ([], [])

/-- The comment with a title up to its colon. -/
def commentWords (title : List Char) : List Char :=
  ['/', '/', ' '] ++ List.replicate 77 '=' ++ ['\n', '/', '/', ' '] ++ title ++
    ['\n', '/', '/', ' ', 'D', 'O', ' ', 'N', 'O', 'T', ' ', 'E', 'D', 'I', 'T']

/-- The comment behind its colon. -/
def behindColon : List Char :=
  ' ' :: ("this file is overwritten on every generation run".toList ++ ['\n', '/', '/', ' '] ++
    List.replicate 77 '=' ++ ['\n'])

/-- The parts of the comment behind the slashes at its start. -/
def commentParts (title : List Char) : List Part := (cut (commentWords title)).2

/-- The comment with a title reads as words over several lines. -/
def ReadsAsProse (title : List Char) : Prop :=
  commentWords title = ['/', '/'] ++ spellParts (commentParts title) ∧
    (∀ part ∈ commentParts title, part.isPlain = true) ∧
    0 < (commentParts title).countP (·.gap = '\n')

instance (title : List Char) : Decidable (ReadsAsProse title) := by
  unfold ReadsAsProse
  infer_instance

theorem toList_renderHeaderLine (line : String) (nonempty : line.toList ≠ []) :
    (renderHeaderLine line).toList = ['/', '/', ' '] ++ line.toList ++ ['\n'] := by
  have notEmpty : line.isEmpty = false := by
    rw [String.isEmpty_eq_false_iff]
    rintro rfl
    exact nonempty rfl
  rw [renderHeaderLine, notEmpty]
  simp only [Bool.false_eq_true, if_false, String.toList_append]
  rfl

theorem toList_comment {title : String} (nonempty : title.toList ≠ []) :
    (String.join ((banner title).map renderHeaderLine)).toList =
      commentWords title.toList ++ ':' :: behindColon := by
  have notice : "DO NOT EDIT: this file is overwritten on every generation run".toList =
      ['D', 'O', ' ', 'N', 'O', 'T', ' ', 'E', 'D', 'I', 'T'] ++ ':' :: ' ' ::
        "this file is overwritten on every generation run".toList := by
    decide +kernel
  have isRule : rule.toList = List.replicate 77 '=' := String.toList_ofList
  have ofRule := toList_renderHeaderLine rule (by rw [isRule]; exact List.cons_ne_nil _ _)
  have ofNotice := toList_renderHeaderLine
    "DO NOT EDIT: this file is overwritten on every generation run"
    (by rw [notice]; exact List.cons_ne_nil _ _)
  rw [isRule] at ofRule
  rw [notice] at ofNotice
  rw [String.toList_join, banner]
  simp only [List.map_cons, List.map_nil, List.flatMap_cons, List.flatMap_nil, List.append_nil,
    ofRule, ofNotice, toList_renderHeaderLine title nonempty, commentWords, behindColon,
    List.append_assoc, List.cons_append, List.nil_append]

/-- A file with such a comment begins in prose. -/
theorem exists_prose (title : String) {file : File} (nonempty : title.toList ≠ [])
    (reads : ReadsAsProse title.toList) (header : file.header = banner title) :
    ∃ prose : Yaml.Prose, file.render.toList = prose.characters := by
  obtain ⟨isComment, plain, severalLines⟩ := reads
  obtain ⟨rest, isRest⟩ : ∃ rest,
      file.render.toList = commentWords title.toList ++ ':' :: behindColon ++ rest := by
    rw [File.render, header, ← toList_comment nonempty]
    simp only [String.toList_append, List.append_assoc]
    exact ⟨_, rfl⟩
  have before : Yaml.blankOrEnd (behindColon ++ rest).head? = true := rfl
  refine ⟨⟨⟨'\n', '/', ['/']⟩, commentParts title.toList, behindColon ++ rest, rfl, ?_,
    severalLines, before⟩, ?_⟩
  · exact List.forall_mem_cons.2 ⟨by decide, plain⟩
  · rw [isRest, isComment, Yaml.Prose.characters_eq]
    simp [Part.word]

/-- No file that is generated anew in every run is a document, whatever its origin. -/
theorem ofOrigin_contents (settings : Settings) (model : Model) {kind : ArtifactKind}
    (regenerated : kind.isRegenerated = true) (origin : String) :
    ∃ failure, Document.ofOrigin origin (contents settings model kind) = .error failure := by
  have begins : ∃ prose : Yaml.Prose, (contents settings model kind).toList = prose.characters := by
    cases kind with
    | types =>
        exact exists_prose "Auto-generated API types" (by decide +kernel)
          (by decide +kernel) rfl
    | requests =>
        exact exists_prose "Auto-generated API request functions" (by decide +kernel)
          (by decide +kernel) rfl
    | hooks =>
        exact exists_prose "Auto-generated React Query hooks" (by decide +kernel)
          (by decide +kernel) rfl
    | bootstrap => cases regenerated
  obtain ⟨prose, isProse⟩ := begins
  exact Document.ofText_prose prose isProse _ origin

end Client

end TypedClient
