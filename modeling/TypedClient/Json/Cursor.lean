import TypedClient.Json.Fault

/-!
Contract: moving through a JSON text.

Owns:
- `Cursor`, what is left of a text, the place reached, and how many levels may still be opened;
- `Reader`, a step that either yields a value or fails, and in both cases has a cursor;
- failing at the place reached, or at the place one byte further;
- opening and closing a level.

Does not own: the grammar.
-/

namespace TypedClient.Json

/-- Where reading stands. -/
structure Cursor where
  rest : List Char
  place : Place
  /-- The levels of nesting that may still be opened, and one. -/
  levels : Nat
  /-- The length of the whole text, which bounds the steps of every loop. -/
  size : Nat

/-- The number of levels at which a text is refused. -/
def levelLimit : Nat := 128

def Cursor.start (text : String) : Cursor :=
  let characters := text.toList
  ⟨characters, ⟨1, 0⟩, levelLimit, characters.length⟩

def Place.after (place : Place) (character : Char) : Place :=
  if character = '\n' then ⟨place.line + 1, 0⟩
  else ⟨place.line, place.column + character.utf8Size⟩

/-- The place one byte further, and the end of the text at its end. -/
def Cursor.ahead (cursor : Cursor) : Place :=
  match cursor.rest with
  | [] => cursor.place
  | '\n' :: _ => ⟨cursor.place.line + 1, 0⟩
  | _ :: _ => ⟨cursor.place.line, cursor.place.column + 1⟩

/-- The cursor after the next character. -/
def Cursor.next (cursor : Cursor) : Cursor :=
  match cursor.rest with
  | [] => cursor
  | character :: rest => { cursor with rest := rest, place := cursor.place.after character }

/-- The cursor after so many characters. -/
def Cursor.skip (cursor : Cursor) : Nat → Cursor
  | 0 => cursor
  | count + 1 => cursor.next.skip count

/-- A step through a text. A failure has a cursor too: what encloses the failing part still looks
for its own end before the place of the failure is fixed. -/
abbrev Reader := EStateM Failure Cursor

namespace Reader

variable {α : Type}

/-- The next character, if there is one. -/
def peek : Reader (Option Char) := fun cursor => .ok cursor.rest.head? cursor

/-- Pass over the next character. -/
def eat : Reader Unit := fun cursor => .ok () cursor.next

/-- Fail at the place reached. -/
def failHere (fault : Fault) : Reader α := fun cursor =>
  .error ⟨fault, some cursor.place⟩ cursor

/-- Fail at the place one byte further. -/
def failAhead (fault : Fault) : Reader α := fun cursor =>
  .error ⟨fault, some cursor.ahead⟩ cursor

/-- Fail without a place: what encloses the failing part supplies one. -/
def failUnplaced (fault : Fault) : Reader α := fun cursor => .error ⟨fault, none⟩ cursor

/-- Give a failure without a place the place that was reached. -/
def placed (step : Reader α) : Reader α := fun cursor =>
  match step cursor with
  | .ok value after => .ok value after
  | .error failure after =>
      .error { failure with place := failure.place.or (some after.place) } after

/-- Run a step and then, whether it failed or not, the step that ends what it stands in. The first
failure counts. -/
def closedBy (body : Reader α) (close : Reader Unit) : Reader α := fun cursor =>
  match body cursor with
  | .ok value after => ((fun _ => value) <$> close) after
  | .error failure after =>
      match close after with
      | .ok _ last => .error failure last
      | .error _ last => .error failure last

/-- Open a level, pass over the bracket, and close the level after the body. -/
def nested (body : Reader α) : Reader α := do
  let cursor ← get
  if cursor.levels ≤ 1 then
    failAhead .tooDeep
  else
    set { cursor.next with levels := cursor.levels - 1 }
    let value ← body
    modify (fun after => { after with levels := cursor.levels })
    return value

/-- Pass over the four characters that may stand between the parts of a text. -/
def skipBlanks : Reader Unit := fun cursor =>
  let blanks := cursor.rest.takeWhile (fun character =>
    character = ' ' || character = '\n' || character = '\t' || character = '\r')
  .ok () (cursor.skip blanks.length)

/-- The next character that is not a blank. -/
def peekPart : Reader (Option Char) := do
  skipBlanks
  peek

/-- Pass over the rest of a word whose first letter was read. -/
def word : List Char → Reader Unit
  | [] => return ()
  | letter :: letters => do
      match ← peek with
      | none => failHere .endInValue
      | some character =>
          if character = letter then
            eat
            word letters
          else failAhead .expectedWord

/-- The value read from a whole text, or why there is none. Blanks may follow the value. -/
def run (step : Reader α) (text : String) : Except Failure α :=
  let whole : Reader α := do
    let value ← step
    match ← peekPart with
    | none => return value
    | some _ => failAhead .trailingCharacters
  match whole (Cursor.start text) with
  | .ok value _ => .ok value
  | .error failure _ => .error failure

end Reader

end TypedClient.Json
