import TypedClient.Json.Lexeme

/-!
Contract: JSON values read from text.

Owns:
- the loop over the parts of a list or an object, for any reader of one part;
- reading any value, and passing over one whose content is not wanted;
- the failure for a value of the wrong type.

Does not own: what the value is read for. Passing over a value counts no levels and sizes no
numbers, and refuses a comma before a bracket as a missing value.
-/

namespace TypedClient.Json.Reader

variable {α : Type}

/-- Look for the next element of a list: `first` says that none was read yet. -/
def hasElement (first : Bool) : Reader Bool := do
  match ← peekPart with
  | none => failAhead .endInList
  | some ']' => return false
  | some character =>
      if first then return true
      else if character = ',' then
        eat
        match ← peekPart with
        | some ']' => failAhead .trailingComma
        | some _ => return true
        | none => failAhead .endInValue
      else failAhead .expectedListEnd

/-- Look for the next key of an object: `first` says that none was read yet. -/
def hasKey (first : Bool) : Reader Bool := do
  match ← peekPart with
  | none => failAhead .endInObject
  | some '}' => return false
  | some character =>
      if first then
        if character = '"' then return true else failAhead .keyNotString
      else if character = ',' then
        eat
        match ← peekPart with
        | some '"' => return true
        | some '}' => failAhead .trailingComma
        | some _ => failAhead .keyNotString
        | none => failAhead .endInValue
      else failAhead .expectedObjectEnd

/-- The text of a key. -/
def key : Reader String := do
  eat
  string

/-- Pass over the colon after a key. -/
def colon : Reader Unit := do
  match ← peekPart with
  | some ':' => eat
  | some _ => failAhead .expectedColon
  | none => failAhead .endInObject

/-- Pass over the end of a list. -/
def endList : Reader Unit := do
  match ← peekPart with
  | some ']' => eat
  | some ',' =>
      eat
      match ← peekPart with
      | some ']' => failAhead .trailingComma
      | _ => failAhead .trailingCharacters
  | some _ => failAhead .trailingCharacters
  | none => failAhead .endInList

/-- Pass over the end of an object. -/
def endObject : Reader Unit := do
  match ← peekPart with
  | some '}' => eat
  | some ',' => failAhead .trailingComma
  | some _ => failAhead .trailingCharacters
  | none => failAhead .endInObject

/-- Read members until the object ends, folding each into a value. Every member has a key, so the
length of the text bounds the steps. -/
def membersFrom (member : α → String → Reader α) (start : α) (first : Bool) : Nat → Reader α
  | 0 => failHere .endInObject
  | steps + 1 => do
      if ← hasKey first then
        let name ← key
        membersFrom member (← member start name) false steps
      else return start

/-- Read elements until the list ends, folding each into a value. Every element has a character,
so the length of the text bounds the steps. -/
def elementsFrom (element : α → Reader α) (start : α) (first : Bool) : Nat → Reader α
  | 0 => failHere .endInList
  | steps + 1 => do
      if ← hasElement first then
        elementsFrom element (← element start) false steps
      else return start

def foldObject (member : α → String → Reader α) (start : α) : Reader α := do
  let cursor ← get
  closedBy (nested (membersFrom member start true (cursor.size + 1))) endObject

def foldList (element : α → Reader α) (start : α) : Reader α := do
  let cursor ← get
  closedBy (nested (elementsFrom element start true (cursor.size + 1))) endList

/-- A value; `depth` bounds the levels inside it. -/
def treeWithin : Nat → Reader Json
  | 0 => failHere .tooDeep
  | depth + 1 => placed do
      match ← peekPart with
      | none => failAhead .endInValue
      | some 'n' =>
          eat
          word ['u', 'l', 'l']
          return .null
      | some 't' =>
          eat
          word ['r', 'u', 'e']
          return .boolean true
      | some 'f' =>
          eat
          word ['a', 'l', 's', 'e']
          return .boolean false
      | some '"' =>
          eat
          return .string (← string)
      | some '-' =>
          eat
          return .number (← number true)
      | some '[' =>
          let items ← foldList (fun items => do
            return (← treeWithin depth) :: items) []
          return .array items.reverse
      | some '{' =>
          let members ← foldObject (fun members name => do
            colon
            return (name, ← treeWithin depth) :: members) []
          return .object members.reverse
      | some character =>
          if character.isDigit then return .number (← number false)
          else failAhead .expectedValue

/-- Any value. Its levels are limited, so its depth is bounded. -/
def tree : Reader Json := treeWithin (levelLimit + 1)

mutual

/-- Pass over a value. Every two steps pass over a character, so twice the length of the text
bounds the steps. -/
def skipValueWithin : Nat → Reader Unit
  | 0 => failHere .endInValue
  | steps + 1 => do
      match ← peekPart with
      | none => failAhead .endInValue
      | some 'n' =>
          eat
          word ['u', 'l', 'l']
      | some 't' =>
          eat
          word ['r', 'u', 'e']
      | some 'f' =>
          eat
          word ['a', 'l', 's', 'e']
      | some '"' =>
          eat
          skipString
      | some '-' =>
          eat
          skipNumber
      | some '[' =>
          eat
          skipElements true steps
      | some '{' =>
          eat
          skipMembers true steps
      | some character =>
          if character.isDigit then skipNumber else failAhead .expectedValue

/-- Pass over the elements of a list and its end. -/
def skipElements (first : Bool) : Nat → Reader Unit
  | 0 => failHere .endInList
  | steps + 1 => do
      match ← peekPart with
      | none => failAhead .endInList
      | some ']' => eat
      | some character =>
          if first then
            skipValueWithin steps
            skipElements false steps
          else if character = ',' then
            eat
            skipValueWithin steps
            skipElements false steps
          else failAhead .expectedListEnd

/-- Pass over the members of an object and its end. -/
def skipMembers (first : Bool) : Nat → Reader Unit
  | 0 => failHere .endInObject
  | steps + 1 => do
      match ← peekPart with
      | none => failAhead .endInObject
      | some '}' => eat
      | some character =>
          if first || character = ',' then
            if !first then eat
            match ← peekPart with
            | some '"' => eat
            | some _ => failAhead .keyNotString
            | none => failAhead .endInObject
            skipString
            colon
            skipValueWithin steps
            skipMembers false steps
          else failAhead .expectedObjectEnd

end

/-- Pass over any value. -/
def skipValue : Reader Unit := do
  let cursor ← get
  skipValueWithin (2 * cursor.size + 2)

/-- Fail because the next value is not of the expected type. A scalar is read first, a list or an
object is not. -/
def wrongType (expected : String) : Reader α := placed do
  match ← peek with
  | some '[' => failUnplaced (.wrongType .sequence expected)
  | some '{' => failUnplaced (.wrongType .mapping expected)
  | _ =>
      let scalar ← tree
      failUnplaced (.wrongType (found scalar) expected)

end TypedClient.Json.Reader
