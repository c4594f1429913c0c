import TypedClient.Proofs.Reference.Declarations
import TypedClient.Proofs.Schema.Pointers

/-!
Contract: two documents whose references lead to the same components.

Owns:
- `Document.Corresponds`, that the pointers of one document, replaced by others, lead to the same
  components in another document;
- that corresponding schemas have the same expansion;
- `Resolver.Agrees`, that two resolvers know the same symbols, in the same order, and that they go on
  agreeing as long as they meet the same cycles;
- that agreeing resolvers make the same declarations of documents with the same expansions.

Does not own: the endpoints of the two documents.
-/

namespace TypedClient

namespace Document

/-- The known pointers of a document, replaced by others, lead in another document to the same
components, whose pointers are known as well. -/
structure Corresponds (document other : Document) (moved : String → String)
    (Known : String → Prop) : Prop where
  nowhere : ∀ pointer, Known pointer → (∀ name target, ¬ document.Leads pointer name target) →
    ∀ name target, ¬ other.Leads (moved pointer) name target
  leads : ∀ pointer name target, Known pointer → document.Leads pointer name target →
    other.Leads (moved pointer) name (target.mapPointers moved)
  known : ∀ pointer name target, Known pointer → document.Leads pointer name target →
    ∀ next ∈ target.pointers, Known next

variable {document other : Document} {moved : String → String} {Known : String → Prop}

theorem Corresponds.expandPointer_eq (corresponds : Corresponds document other moved Known)
    (trail : List String) (pointer : String) (known : Known pointer) :
    other.expandPointer trail (moved pointer) = document.expandPointer trail pointer := by
  induction trail, pointer using document.trailInduction with
  | nowhere trail pointer nowhere =>
      rw [expandPointer_of_nowhere nowhere,
        expandPointer_of_nowhere (corresponds.nowhere pointer known nowhere)]
  | back trail pointer name target leads onTrail =>
      rw [expandPointer_of_mem leads onTrail,
        expandPointer_of_mem (corresponds.leads pointer name target known leads) onTrail]
  | onward trail pointer name target leads fresh inductionHypothesis =>
      rw [expandPointer_of_not_mem leads fresh,
        expandPointer_of_not_mem (corresponds.leads pointer name target known leads) fresh,
        expand, expand, Schema.expandWith_mapPointers]
      exact Schema.expandWith_congr (fun next isPointer =>
        inductionHypothesis next (corresponds.known pointer name target known leads next isPointer))

/-- A schema has the same expansion in both documents. -/
theorem Corresponds.expand_eq (corresponds : Corresponds document other moved Known)
    {schema : Schema} (known : ∀ pointer ∈ schema.pointers, Known pointer) (trail : List String) :
    other.expand trail (schema.mapPointers moved) = document.expand trail schema := by
  rw [expand, expand, Schema.expandWith_mapPointers]
  exact Schema.expandWith_congr (fun pointer isPointer =>
    corresponds.expandPointer_eq trail pointer (known pointer isPointer))

end Document

namespace Resolver

/-- Two resolvers know the same symbols and wait for the same declarations, in the same order. Their
documents and their warnings may differ. -/
structure Agrees (resolver other : Resolver) : Prop where
  qualifier : other.qualifier = resolver.qualifier
  recursive : other.recursive = resolver.recursive
  symbols : other.symbols = resolver.symbols

variable {resolver other : Resolver}

theorem Agrees.initial (document second : Document) (qualifier : String) :
    Agrees { document, qualifier } { document := second, qualifier } :=
  ⟨rfl, rfl, rfl⟩

theorem Agrees.symbolOf_eq (agrees : resolver.Agrees other) : other.symbolOf = resolver.symbolOf := by
  funext component
  rw [symbolOf, symbolOf, agrees.symbols]

theorem Agrees.withSymbol (agrees : resolver.Agrees other) (component : String) :
    (resolver.withSymbol component).Agrees (other.withSymbol component) := by
  have sameBase : other.baseSymbol component = resolver.baseSymbol component := by
    rw [baseSymbol, baseSymbol, agrees.qualifier]
  unfold Resolver.withSymbol
  rw [agrees.symbols]
  split
  · exact agrees
  · exact ⟨agrees.qualifier, agrees.recursive, by simp only [sameBase]⟩

theorem Agrees.absorb_cycle (agrees : resolver.Agrees other) (component : String) :
    (resolver.absorb (.cycle component)).Agrees (other.absorb (.cycle component)) := by
  have named := agrees.withSymbol component
  simp only [absorb, named.recursive]
  split
  · exact named
  · exact ⟨named.qualifier, rfl, named.symbols⟩

/-- Warnings change nothing about symbols. -/
theorem Agrees.absorb_warning (agrees : resolver.Agrees other) (warning : Warning) :
    (resolver.absorb (.warning warning)).Agrees other :=
  ⟨agrees.qualifier, agrees.recursive, agrees.symbols⟩

/-- Only the cycles among the notices count. -/
theorem Agrees.absorbAll_cycles (agrees : resolver.Agrees other) (notices : List Notice) :
    (resolver.absorbAll notices).Agrees
      (other.absorbAll ((notices.filterMap Notice.component?).map Notice.cycle)) := by
  unfold absorbAll
  induction notices generalizing resolver other with
  | nil => exact agrees
  | cons notice rest inductionHypothesis =>
      cases notice with
      | warning warning => exact inductionHypothesis (agrees.absorb_warning warning)
      | cycle component => exact inductionHypothesis (agrees.absorb_cycle component)

protected theorem Agrees.refl (resolver : Resolver) : resolver.Agrees resolver :=
  ⟨rfl, rfl, rfl⟩

protected theorem Agrees.symm (agrees : resolver.Agrees other) : other.Agrees resolver :=
  ⟨agrees.qualifier.symm, agrees.recursive.symm, agrees.symbols.symm⟩

protected theorem Agrees.trans {third : Resolver} (first : resolver.Agrees other)
    (second : other.Agrees third) : resolver.Agrees third :=
  ⟨second.qualifier.trans first.qualifier, second.recursive.trans first.recursive,
    second.symbols.trans first.symbols⟩

/-- Resolvers that meet the same cycles go on agreeing. -/
theorem Agrees.absorbAll (agrees : resolver.Agrees other) {notices others : List Notice}
    (sameCycles : others.filterMap Notice.component? = notices.filterMap Notice.component?) :
    (resolver.absorbAll notices).Agrees (other.absorbAll others) := by
  have ofOthers := (Agrees.refl other).absorbAll_cycles others
  rw [sameCycles] at ofOthers
  exact (agrees.absorbAll_cycles notices).trans ofOthers.symm

section Resolving

variable {trail : List String} {schema target : Schema}

theorem Agrees.afterResolving (agrees : resolver.Agrees other)
    (same : other.document.expand trail target = resolver.document.expand trail schema) :
    (resolver.afterResolving trail schema).Agrees (other.afterResolving trail target) := by
  apply agrees.absorbAll
  rw [Document.component?_notices, Document.component?_notices, same]

theorem Agrees.afterDeclaring (agrees : resolver.Agrees other) {component : String}
    (same : other.document.expand [component] target =
      resolver.document.expand [component] schema) :
    (resolver.afterDeclaring component schema).Agrees (other.afterDeclaring component target) :=
  (agrees.afterResolving same).withSymbol component

end Resolving

/-- Resolvers that agree make the same declarations, if their documents have the same components with
the same expansions. -/
theorem Agrees.declarationsFrom_eq (agrees : resolver.Agrees other) (position steps : Nat)
    (same : ∀ component,
      (other.document.schema? component).map (other.document.expand [component]) =
        (resolver.document.schema? component).map (resolver.document.expand [component])) :
    (other.declarationsFrom position steps).1 = (resolver.declarationsFrom position steps).1 := by
  induction steps generalizing resolver other position with
  | zero => rfl
  | succ steps inductionHypothesis =>
      rw [declarationsFrom, declarationsFrom, agrees.recursive]
      cases resolver.recursive[position]? with
      | none => rfl
      | some component =>
          have sameHere := same component
          cases found : resolver.document.schema? component with
          | none =>
              rw [found, Option.map_none, Option.map_eq_none_iff] at sameHere
              simp only [found, sameHere]
              exact inductionHypothesis agrees _ same
          | some schema =>
              rw [found, Option.map_some, Option.map_eq_some_iff] at sameHere
              obtain ⟨target, otherFound, sameShape⟩ := sameHere
              have later := agrees.afterDeclaring sameShape
              have sameDocument := (afterDeclaring_extends resolver component schema).document
              have sameOther := (afterDeclaring_extends other component target).document
              have sameDeclared : (other.afterDeclaring component target).shapeOf [component] target =
                  (resolver.afterDeclaring component schema).shapeOf [component] schema := by
                rw [shapeOf, shapeOf, sameDocument, sameOther, sameShape, later.symbolOf_eq]
              have rest := inductionHypothesis later (position + 1) (by
                rw [sameDocument, sameOther]
                exact same)
              simp only [found, otherFound]
              change (⟨_, declaredShape ((other.afterDeclaring component target).shapeOf _ _)⟩ ::
                  ((other.afterDeclaring component target).declarationsFrom _ _).1) =
                (⟨_, declaredShape ((resolver.afterDeclaring component schema).shapeOf _ _)⟩ ::
                  ((resolver.afterDeclaring component schema).declarationsFrom _ _).1)
              rw [sameDeclared, rest]
              congr 2
              exact congrFun later.symbolOf_eq component

end Resolver

end TypedClient
