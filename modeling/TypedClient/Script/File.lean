import TypedClient.Script.Expression

/-!
Contract: declarations and files of the generated code.

Owns:
- `Import`, `Function` and `TypeAlias` with their text;
- `File`, comment lines, imports and items, and its text.

Does not own: what any file declares.
-/

namespace TypedClient.Script

/-- What a file takes from another. -/
structure Import where
  /-- The name for what the other file exports by default. -/
  default : Option String := none
  items : List String
  source : String
  typesOnly : Bool := false
deriving DecidableEq, Repr

namespace Import

/-- A text without the commas at its end. -/
def withoutFinalCommas (text : String) : String :=
  String.ofList (text.toList.reverse.dropWhile (· = ',')).reverse

/-- What an import starts with. -/
def opening (import_ : Import) : String :=
  "import" ++ (if import_.typesOnly then " type" else "") ++
    match import_.default with
    | some name => " " ++ name ++ ","
    | none => ""

/-- The text of an import: several items stand on a line each. -/
def render (import_ : Import) : String :=
  let source := " from \"" ++ import_.source ++ "\";"
  match import_.items with
  | [] => withoutFinalCommas import_.opening ++ source
  | [item] => import_.opening ++ " \x7b " ++ item ++ " \x7d" ++ source
  | items =>
      import_.opening ++ " \x7b\n" ++
        String.join (items.map (fun item => indentation 1 ++ item ++ ",\n")) ++ "\x7d" ++ source

end Import

/-- A function that a file exports. -/
structure Function where
  name : String
  /-- The lines of the comment in front of it. -/
  comment : List String := []
  isAsync : Bool := false
  parameters : List Binder := []
  body : List Statement := []

/-- The comment in front of a function. The text that would end the comment is broken up. -/
def renderComment : List String → String
  | [] => ""
  | lines =>
      let safe (line : String) :=
        String.ofList (Text.replacePair '*' '/' ['*', '\\', '/'] line.toList)
      "/**\n" ++ String.join (lines.map (fun line => " * " ++ safe line ++ "\n")) ++ " */\n"

/-- The text of a function. -/
def Function.render (function : Function) : String :=
  renderComment function.comment ++ "export const " ++ function.name ++ " = " ++
    (if function.isAsync then "async " else "") ++ renderParameters function.parameters ++
    " => \x7b\n" ++ String.join (renderStatements 1 function.body) ++ "\x7d;\n"

/-- A type that a file exports. -/
structure TypeAlias where
  name : String
  type : String
  comment : Option String := none
deriving DecidableEq, Repr

/-- The text of a type. -/
def TypeAlias.render (alias_ : TypeAlias) : String :=
  (match alias_.comment with
    | some comment => "// " ++ comment ++ "\n"
    | none => "") ++
    "export type " ++ alias_.name ++ " = " ++ alias_.type ++ ";\n"

/-- A file: comment lines, imports, and items between which stands an empty line. -/
structure File where
  header : List String := []
  imports : List Import := []
  items : List String := []

/-- A line of the comment at the top of a file. -/
def renderHeaderLine (line : String) : String :=
  if line.isEmpty then "//\n" else "// " ++ line ++ "\n"

/-- The text of a file. -/
def File.render (file : File) : String :=
  String.join (file.header.map renderHeaderLine) ++ (if file.header.isEmpty then "" else "\n") ++
    String.join (file.imports.map (fun import_ => import_.render ++ "\n")) ++
    (if file.imports.isEmpty || file.items.isEmpty then "" else "\n") ++
    "\n".intercalate file.items

end TypedClient.Script
