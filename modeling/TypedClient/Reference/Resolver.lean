import TypedClient.Reference.Expansion
import TypedClient.Reference.Fresh
import TypedClient.Script.Identifier

/-!
Contract: the names of the components that close cycles.

Owns:
- `Resolver`, what is known of the components of one document while its schemas are resolved: the
  symbols given so far, the components that need a declaration, and the warnings;
- resolving a schema, and giving a component its symbol;
- `Resolver.declarations`, the declaration of every component that closes a cycle.

Does not own: the symbols of other documents.
-/

namespace TypedClient

/-- The state of resolving the schemas of one document. -/
structure Resolver where
  document : Document
  /-- What the symbols of the document start with. -/
  qualifier : String
  /-- The components that need a declaration, in the order in which they were met. -/
  recursive : List String := []
  /-- The symbol of each component that has one. -/
  symbols : Ordered String := []
  /-- The warnings so far. -/
  warnings : List Warning := []

namespace Resolver

def baseSymbol (resolver : Resolver) (component : String) : String :=
  String.ofList (Text.capitalized resolver.qualifier.toList) ++ Script.typeIdentifier component

/-- Give a component a symbol, unless it has one. -/
def withSymbol (resolver : Resolver) (component : String) : Resolver :=
  match resolver.symbols.lookup? component with
  | some _ => resolver
  | none =>
      let base := resolver.baseSymbol component
      let symbol := fresh (resolver.symbols.map Prod.snd) base
      { resolver with
        symbols := resolver.symbols ++ [(component, symbol)]
        warnings := resolver.warnings ++
          if symbol = base then [] else [.symbolTaken component symbol] }

def symbolOf (resolver : Resolver) (component : String) : String :=
  (resolver.symbols.lookup? component).getD component

/-- Take a notice into account: a component that closes a cycle gets a symbol and will be
declared. -/
def absorb (resolver : Resolver) : Notice → Resolver
  | .warning warning => { resolver with warnings := resolver.warnings ++ [warning] }
  | .cycle component =>
      let named := resolver.withSymbol component
      if named.recursive.contains component then named
      else { named with recursive := named.recursive ++ [component] }

/-- Take notices into account in their order. -/
def absorbAll (resolver : Resolver) (notices : List Notice) : Resolver :=
  notices.foldl absorb resolver

def afterResolving (resolver : Resolver) (trail : List String) (schema : Schema) : Resolver :=
  resolver.absorbAll (resolver.document.notices trail schema)

/-- The shape of a schema, with the symbols that the components have. -/
def shapeOf (resolver : Resolver) (trail : List String) (schema : Schema) : Shape :=
  (resolver.document.expand trail schema).rename resolver.symbolOf

/-- Resolve a schema: its shape, and the state afterwards. -/
def resolve (resolver : Resolver) (schema : Schema) : Shape × Resolver :=
  let after := resolver.afterResolving [] schema
  (after.shapeOf [] schema, after)

/-- The shape that a declaration may have: a component that is only another name for itself has no
known shape. -/
def declaredShape : Shape → Shape
  | .named _ => .unknown
  | shape => shape

/-- The declarations of the components that close a cycle, from a position in their list on.
Resolving a declaration may add components to the list; every one is a component of the document,
so their number bounds the steps. -/
def declarationsFrom (resolver : Resolver) (position : Nat) :
    Nat → List Declaration × Resolver
  | 0 => ([], resolver)
  | steps + 1 =>
      match resolver.recursive[position]? with
      | none => ([], resolver)
      | some component =>
          match resolver.document.schema? component with
          | none => declarationsFrom resolver (position + 1) steps
          | some schema =>
              let after := (resolver.afterResolving [component] schema).withSymbol component
              let declaration : Declaration :=
                ⟨after.symbolOf component, declaredShape (after.shapeOf [component] schema)⟩
              let (later, final) := declarationsFrom after (position + 1) steps
              (declaration :: later, final)

/-- The declaration of every component that closes a cycle, and the state afterwards. -/
def declarations (resolver : Resolver) : List Declaration × Resolver :=
  resolver.declarationsFrom 0 resolver.document.schemaNames.length

end Resolver

end TypedClient
