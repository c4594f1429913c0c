import TypedClient.Text.Quoted
import TypedClient.Yaml.Conversion
import TypedClient.Yaml.Event
import TypedClient.Yaml.Scalar

/-!
Contract: the value of a YAML text.

Owns:
- which node an alias stands for;
- the limits on nesting and on repetition;
- `Value.read`, the value of a text, and `Failure`, why there is none.

Does not own: what a value is read for.
-/

namespace TypedClient.Yaml

open TypedClient.Number (Layout)

/-- A step from a value to a part of it. -/
inductive Step where
  | index (position : Nat)
  | key (text : String)
  /-- To the value of a key that is not written as a scalar. -/
  | other
deriving DecidableEq, Repr

/-- The words for the way to a part, last step first. -/
def describePath : List Step → String
  | [] => "."
  | .index position :: outer => describePath outer ++ "[" ++ toString position ++ "]"
  | .key text :: outer => fromOuter outer ++ text
  | .other :: outer => fromOuter outer ++ "?"
where
  /-- What the name of a part stands behind. -/
  fromOuter : List Step → String
    | [] => ""
    | outer => describePath outer ++ "."

/-- Why a node has no value. -/
inductive Objection where
  | scalar (refusal : Scalar.Refusal)
  | repeatedKey (key : Value)

/-- How a double is written in words about a key. -/
def keyLayout : Layout := ⟨-5, 15, false⟩

/-- The words for a number that is a key. -/
def Number.describe : Number → String
  | .integer value => toString value
  | .real value => keyLayout.write value
  | .infinity isNegative => if isNegative then "-.inf" else ".inf"
  | .nan => ".nan"

/-- The words for a key that is repeated. -/
def describeRepeated : Value → String
  | .null => "with null key"
  | .boolean value => "with key \x60" ++ toString value ++ "\x60"
  | .number value => "with key " ++ value.describe
  | .string text => "with key " ++ Text.quoted text
  | _ => "in YAML map"

/-- The wording of an objection. -/
def Objection.message : Objection → String
  | .scalar (.wideInteger value) => Scalar.describeWide value
  | .scalar (.notA expected text) =>
      "invalid value: string " ++ Text.quoted text ++ ", expected " ++ expected
  | .repeatedKey key => "duplicate entry " ++ describeRepeated key

/-- Why a text has no value. -/
inductive Failure where
  | illFormed (fault : Fault)
  | unknownAnchor (mark : Mark)
  | tooDeep (mark : Mark)
  | tooManyRepetitions
  | severalDocuments
  | objection (reason : Objection) (path : List Step) (mark : Mark)

/-- The wording of a failure. -/
def Failure.message : Failure → String
  | .illFormed fault => fault.message
  | .unknownAnchor mark => "unknown anchor" ++ mark.describe
  | .tooDeep mark => "recursion limit exceeded" ++ mark.describe
  | .tooManyRepetitions => "repetition limit exceeded"
  | .severalDocuments =>
      "deserializing from YAML containing more than one document is not supported"
  | .objection reason path mark =>
      (if path.isEmpty then "" else describePath path ++ ": ") ++ reason.message ++ mark.describe

/-- A node or an end, with aliases by number. -/
inductive LinkedKind where
  | alias (number : Nat)
  | scalar (tag : Option String) (text : String) (isPlain : Bool)
  | sequenceStart (tag : Option String)
  | sequenceEnd
  | mappingStart (tag : Option String)
  | mappingEnd

/-- The events of a document with the nodes that aliases stand for. -/
structure Linked where
  /-- The events, last one first, and their number. -/
  events : List (LinkedKind × Mark) := []
  count : Nat := 0
  /-- The number of each anchor. -/
  anchors : Ordered Nat := []
  /-- The position of the node for each number. -/
  targets : List (Nat × Nat) := []
  failure : Option Failure := none

namespace Linked

def add (linked : Linked) (kind : LinkedKind) (mark : Mark) : Linked :=
  { linked with events := (kind, mark) :: linked.events, count := linked.count + 1 }

/-- Take the anchor of the next node into account. Its number is the number of different anchors so
far, also when the anchor is set again. -/
def withAnchor (linked : Linked) : Option String → Linked
  | none => linked
  | some name =>
      let number := linked.anchors.length
      { linked with
        anchors := linked.anchors.insert name number
        targets := (number, linked.count) :: linked.targets }

/-- The events with aliases by number, up to an alias without an anchor. -/
def ofEvents (linked : Linked) : List Event → Linked
  | [] => linked
  | event :: rest =>
      match event.kind with
      | .alias name =>
          match linked.anchors.lookup? name with
          | some number => ofEvents (linked.add (.alias number) event.mark) rest
          | none => { linked with failure := some (.unknownAnchor event.mark) }
      | .scalar anchor tag text isPlain =>
          ofEvents ((linked.withAnchor anchor).add (.scalar tag text isPlain) event.mark) rest
      | .sequenceStart anchor tag =>
          ofEvents ((linked.withAnchor anchor).add (.sequenceStart tag) event.mark) rest
      | .sequenceEnd => ofEvents (linked.add .sequenceEnd event.mark) rest
      | .mappingStart anchor tag =>
          ofEvents ((linked.withAnchor anchor).add (.mappingStart tag) event.mark) rest
      | .mappingEnd => ofEvents (linked.add .mappingEnd event.mark) rest

/-- The document that a text starts with. A fault of the text comes after its events. -/
def ofOpening (opening : Opening) : Linked :=
  let linked := ofEvents {} opening.events
  { linked with failure := linked.failure.or (opening.fault.map .illFormed) }

end Linked

/-- What values are read from. -/
structure Source where
  events : Array (LinkedKind × Mark)
  targets : List (Nat × Nat)
  /-- Why there are no more events. -/
  failure : Failure

/-- A step of reading values, which counts the aliases followed. -/
abbrev Read := StateT Nat (Except Failure)

namespace Source

def event (source : Source) (position : Nat) : Read (LinkedKind × Mark) :=
  match source.events[position]? with
  | some event => return event
  | none => throw source.failure

/-- The name of a tag that makes a value of its own: one of the document, not of the core schema. -/
def ownTag? (tag : Option String) : Option String :=
  match tag.map String.toList with
  | some ['!'] | some ['!', '!'] => some "!"
  | some ('!' :: '!' :: rest) => some (String.ofList rest)
  | some ('!' :: rest) => some (String.ofList rest)
  | _ => none

/-- Put a tag around a value, if it makes one. -/
def withTag (tag : Option String) (value : Value) : Value :=
  match ownTag? tag with
  | some name => .tagged name value
  | none => value

def scalarValue (tag : Option String) (text : String) (isPlain : Bool) :
    Except Scalar.Refusal Value :=
  match ownTag? tag, tag with
  | none, some tag => Scalar.taggedValue tag text
  | _, _ => if isPlain then Scalar.plainValue text else .ok (.string text)

/-- A way to read the value at a position, whose path is known: the value, and the position behind
it. -/
abbrev Reading := List Step → Nat → Read (Value × Nat)

def items (source : Source) (inner : Reading) (path : List Step) (index : Nat)
    (collected : List Value) (position : Nat) : Nat → Read (List Value × Nat)
  | 0 => throw source.failure
  | steps + 1 => do
      match (← source.event position).1 with
      | .sequenceEnd => return (collected.reverse, position + 1)
      | _ =>
          let (value, next) ← inner (.index index :: path) position
          items source inner path (index + 1) (value :: collected) next steps

def keyStep : LinkedKind → Step
  | .scalar _ text _ => .key text
  | _ => .other

/-- The entries of a mapping that starts at a place, from a position on. No key may be repeated. -/
def entries (source : Source) (inner : Reading) (path : List Step) (mark : Mark)
    (collected : List (Value × Value)) (position : Nat) :
    Nat → Read (List (Value × Value) × Nat)
  | 0 => throw source.failure
  | steps + 1 => do
      let (kind, _) ← source.event position
      match kind with
      | .mappingEnd => return (collected.reverse, position + 1)
      | _ =>
          let (key, next) ← inner path position
          if collected.any (fun entry => entry.1.same key) then
            throw (.objection (.repeatedKey key) path mark)
          let (value, next) ← inner (keyStep kind :: path) next
          entries source inner path mark ((key, value) :: collected) next steps

/-- The node at a position that is no alias. Without a way to read inner nodes it may have none. -/
def node (source : Source) (inner : Option Reading) : Reading := fun path position => do
  let (kind, mark) ← source.event position
  match kind, inner with
  | .scalar tag text isPlain, _ =>
      match scalarValue tag text isPlain with
      | .ok value => return (withTag tag value, position + 1)
      | .error refusal => throw (.objection (.scalar refusal) path mark)
  | .sequenceStart tag, some inner =>
      let (values, next) ←
        source.items inner path 0 [] (position + 1) (source.events.size + 1)
      return (withTag tag (.sequence values), next)
  | .mappingStart tag, some inner =>
      let (pairs, next) ←
        source.entries inner path mark [] (position + 1) (source.events.size + 1)
      return (withTag tag (.mapping pairs), next)
  | .sequenceStart _, none | .mappingStart _, none => throw (.tooDeep mark)
  | _, _ => throw source.failure

/-- The number of aliases that may be followed for each event. -/
def repetitionLimit : Nat := 100

/-- Read the node that an alias stands for instead of the alias. -/
def throughAlias (source : Source) (plain : Reading) : Reading := fun path position => do
  match (← source.event position).1 with
  | .alias number =>
      let followed := (← get) + 1
      set followed
      if source.events.size * repetitionLimit < followed then throw .tooManyRepetitions
      match source.targets.find? (fun target => target.1 = number) with
      | some target =>
          let (value, _) ← plain path target.2
          return (value, position + 1)
      | none => throw source.failure
  | _ => plain path position

/-- The node at a position, whose parts may have so many levels. -/
def valueWithin (source : Source) : Nat → Reading
  | 0 => source.throughAlias (source.node none)
  | levels + 1 => source.throughAlias (source.node (some (source.valueWithin levels)))

end Source

/-- The number of levels that a value may have. -/
def levelLimit : Nat := 128

/-- The value of a text with one document, or with none. -/
def Value.read (text : String) : Except Failure Value := do
  let opening := firstDocument text
  if opening.isVoid then return .null
  let linked := Linked.ofOpening opening
  let source : Source :=
    ⟨linked.events.reverse.toArray, linked.targets, linked.failure.getD .severalDocuments⟩
  let ((value, _), _) ← (source.valueWithin levelLimit [] 0).run 0
  match linked.failure with
  | some failure => throw failure
  | none => if opening.hasMore then throw .severalDocuments else return value

/-- The JSON tree of a text, or the words for why there is none. -/
def readTree (text : String) : Except String Json := do
  let value ← (Value.read text).mapError Failure.message
  value.toJson.mapError KeyFault.message

end TypedClient.Yaml
