import Mathlib.Data.List.Basic
import TypedClient.Endpoint.Basic
import TypedClient.Proofs.Shape.Renaming

/-!
Contract: the declared names that an endpoint mentions.

Owns:
- `Endpoint.symbols`, the names in all shapes of an endpoint;
- the symbols of a renamed endpoint, and renaming in two ways that agree where it matters.

Does not own: which names are declared.
-/

namespace TypedClient

/-- The declared names that some parameters mention. -/
def EndpointParameter.symbolsOf (parameters : List EndpointParameter) : List String :=
  parameters.flatMap (fun parameter => parameter.shape.symbols)

/-- The declared names that a shape mentions, if there is one. -/
def Shape.symbolsOf? (shape? : Option Shape) : List String :=
  shape?.toList.flatMap Shape.symbols

namespace Endpoint

/-- The declared names in all shapes of an endpoint. -/
def symbols (endpoint : Endpoint) : List String :=
  EndpointParameter.symbolsOf endpoint.queryParameters ++
    (EndpointParameter.symbolsOf endpoint.pathParameters ++
      (Shape.symbolsOf? endpoint.requestBody ++ Shape.symbolsOf? endpoint.response))

theorem symbolsOf_map_renameSymbols (newName : String → String)
    (parameters : List EndpointParameter) :
    EndpointParameter.symbolsOf (parameters.map (EndpointParameter.renameSymbols newName)) =
      (EndpointParameter.symbolsOf parameters).map newName := by
  rw [EndpointParameter.symbolsOf, EndpointParameter.symbolsOf, List.flatMap_map, List.map_flatMap]
  exact List.flatMap_congr (fun parameter _ => Shape.symbols_rename newName parameter.shape)

theorem symbolsOf?_map_rename (newName : String → String) (shape? : Option Shape) :
    Shape.symbolsOf? (shape?.map (Shape.rename newName)) =
      (Shape.symbolsOf? shape?).map newName := by
  cases shape? with
  | none => rfl
  | some shape => simp [Shape.symbolsOf?, Shape.symbols_rename]

theorem symbols_renameSymbols (newName : String → String) (endpoint : Endpoint) :
    (endpoint.renameSymbols newName).symbols = endpoint.symbols.map newName := by
  simp only [symbols, renameSymbols, symbolsOf_map_renameSymbols, symbolsOf?_map_rename,
    List.map_append]

/-- Renaming twice is renaming once. -/
theorem renameSymbols_renameSymbols (first second : String → String) (endpoint : Endpoint) :
    (endpoint.renameSymbols first).renameSymbols second =
      endpoint.renameSymbols (second ∘ first) := by
  have ofShape : Shape.rename second ∘ Shape.rename first = Shape.rename (second ∘ first) :=
    funext (Shape.rename_rename first second)
  have ofParameter : EndpointParameter.renameSymbols second ∘ EndpointParameter.renameSymbols first =
      EndpointParameter.renameSymbols (second ∘ first) := by
    funext parameter
    simp only [Function.comp_apply, EndpointParameter.renameSymbols, Shape.rename_rename]
  simp only [renameSymbols, List.map_map, Option.map_map, ofShape, ofParameter]

theorem map_renameSymbols_congr {first second : String → String}
    {parameters : List EndpointParameter}
    (agree : ∀ symbol ∈ EndpointParameter.symbolsOf parameters, first symbol = second symbol) :
    parameters.map (EndpointParameter.renameSymbols first) =
      parameters.map (EndpointParameter.renameSymbols second) := by
  apply List.map_congr_left
  intro parameter member
  have same : parameter.shape.rename first = parameter.shape.rename second :=
    Shape.rename_congr (fun symbol mentioned =>
      agree symbol (List.mem_flatMap_of_mem member mentioned))
  rw [EndpointParameter.renameSymbols, EndpointParameter.renameSymbols, same]

theorem map_rename_congr {first second : String → String} {shape? : Option Shape}
    (agree : ∀ symbol ∈ Shape.symbolsOf? shape?, first symbol = second symbol) :
    shape?.map (Shape.rename first) = shape?.map (Shape.rename second) := by
  cases shape? with
  | none => rfl
  | some shape =>
      have same : shape.rename first = shape.rename second :=
        Shape.rename_congr (fun symbol mentioned =>
          agree symbol (by simpa [Shape.symbolsOf?] using mentioned))
      rw [Option.map_some, Option.map_some, same]

/-- Only the new names of what an endpoint mentions matter. -/
theorem renameSymbols_congr {first second : String → String} {endpoint : Endpoint}
    (agree : ∀ symbol ∈ endpoint.symbols, first symbol = second symbol) :
    endpoint.renameSymbols first = endpoint.renameSymbols second := by
  unfold symbols at agree
  simp only [List.forall_mem_append] at agree
  obtain ⟨inQuery, inPath, inBody, inResponse⟩ := agree
  unfold renameSymbols
  rw [map_renameSymbols_congr inQuery, map_renameSymbols_congr inPath, map_rename_congr inBody,
    map_rename_congr inResponse]

end Endpoint

end TypedClient
