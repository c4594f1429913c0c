/-!
Contract: the path of an endpoint with places for parameters.

Owns:
- the pieces of a path: plain text, placeholders in braces, and the text after a brace that is
  never closed;
- the names of the placeholders.

Does not own: what stands in for a placeholder.
-/

namespace TypedClient

/-- A piece of a path. -/
inductive PathPiece where
  | plain (text : List Char)
  /-- A name in braces, possibly empty. -/
  | placeholder (name : List Char)
  /-- What follows an opening brace that is never closed. -/
  | unclosed (text : List Char)
deriving DecidableEq, Repr

namespace PathPiece

/-- A piece as it stands in the path. -/
def written : PathPiece → List Char
  | .plain text => text
  | .placeholder name => '{' :: name ++ ['}']
  | .unclosed text => '{' :: text

/-- The text up to a character, and what follows that character; none if it does not occur. -/
def cut? (mark : Char) : List Char → Option (List Char × List Char)
  | [] => none
  | character :: rest =>
      if character = mark then some ([], rest)
      else (cut? mark rest).map (fun (before, after) => (character :: before, after))

theorem append_of_cut? {mark : Char} {text before after : List Char}
    (cut : cut? mark text = some (before, after)) : text = before ++ mark :: after := by
  induction text generalizing before after with
  | nil => simp [cut?] at cut
  | cons character rest inductionHypothesis =>
      simp only [cut?] at cut
      split at cut
      · rename_i same
        simp only [Option.some.injEq, Prod.mk.injEq] at cut
        simp [← cut.1, ← cut.2, same]
      · obtain ⟨⟨before', after'⟩, found, equal⟩ := Option.map_eq_some_iff.1 cut
        simp only [Prod.mk.injEq] at equal
        rw [← equal.1, ← equal.2, inductionHypothesis found]
        rfl

def ofPath (path : List Char) : List PathPiece :=
  match _cut : cut? '{' path with
  | none => [.plain path]
  | some (before, inside) =>
      match _closed : cut? '}' inside with
      | none => [.plain before, .unclosed inside]
      | some (name, after) => .plain before :: .placeholder name :: ofPath after
termination_by path.length
decreasing_by
  rw [append_of_cut? _cut, append_of_cut? _closed]
  simp only [List.length_append, List.length_cons]
  omega

/-- The pieces put together are the path. -/
theorem flatMap_written_ofPath (path : List Char) : (ofPath path).flatMap written = path := by
  fun_induction ofPath path with
  | case1 path cut => simp [written]
  | case2 path before inside cut closed =>
      simp [written, append_of_cut? cut]
  | case3 path before inside cut name after closed inductionHypothesis =>
      simp only [List.flatMap_cons, written, inductionHypothesis]
      rw [append_of_cut? cut, append_of_cut? closed]
      simp

/-- The name of a placeholder that has one. -/
def name? : PathPiece → Option String
  | .placeholder [] => none
  | .placeholder name => some (String.ofList name)
  | _ => none

end PathPiece

/-- The list without the repetitions of earlier members. -/
def withoutRepeats (names : List String) : List String :=
  names.foldl (fun kept name => if kept.contains name then kept else kept ++ [name]) []

/-- The names of the placeholders of a path, each once. -/
def pathPlaceholders (path : String) : List String :=
  withoutRepeats ((PathPiece.ofPath path.toList).filterMap PathPiece.name?)

end TypedClient
