import TypedClient.Script.Literal

/-!
Contract: expressions and statements of the generated code.

Owns:
- `Expression` and `Statement`, with the parameters of functions and the parts of templates;
- their text at a level of nesting, two blanks a level.

Does not own: whole declarations and files.
-/

namespace TypedClient.Script

/-- The blanks in front of a line at a level of nesting. -/
def indentation (level : Nat) : String :=
  String.ofList (List.replicate (2 * level) ' ')

/-- A parameter of a function: a name, or a pattern that takes an object apart. -/
structure Binder where
  name : String
  type : Option String
  isOptional : Bool
deriving DecidableEq, Repr

namespace Binder

/-- A parameter with a type. -/
def typed (name type : String) : Binder := ⟨name, some type, false⟩

/-- The text of a parameter. -/
def render (parameter : Binder) : String :=
  parameter.name ++ (if parameter.isOptional then "?" else "") ++
    match parameter.type with
    | some type => ": " ++ type
    | none => ""

end Binder

def renderParameters (parameters : List Binder) : String :=
  "(" ++ ", ".intercalate (parameters.map Binder.render) ++ ")"

/-- A part of a template: text, or code whose value is put in. -/
inductive TemplatePart where
  | plain (text : String)
  | substitution (code : String)
deriving DecidableEq, Repr

/-- The part that some text makes; no text at all makes none. -/
def plainPart (text : List Char) : List TemplatePart :=
  if text.isEmpty then [] else [.plain (String.ofList text)]

def TemplatePart.render : TemplatePart → String
  | .plain text => escapedInTemplate text
  | .substitution code => "$\x7b" ++ code ++ "\x7d"

/-- How the members of an object are laid out. -/
inductive ObjectStyle where
  /-- All on one line. -/
  | inline
  /-- Each on a line of its own, with a comma behind it. -/
  | lines
deriving DecidableEq, Repr

mutual

/-- An expression. -/
inductive Expression where
  | name (name : String)
  | text (value : String)
  | template (parts : List TemplatePart)
  | list (items : List Expression)
  /-- An object; a member without a value has that of the name of its key. -/
  | object (style : ObjectStyle) (members : List (String × Option Expression))
  | member (object : Expression) (property : String)
  | call (function : Expression) (types : List String) (arguments : List Expression)
  /-- A function whose body is one expression. -/
  | arrow (parameters : List Binder) (result : Expression)
  /-- A function with statements. -/
  | function (parameters : List Binder) (body : List Statement)
  | await (promise : Expression)
  /-- Code that is taken as it is. -/
  | code (code : String)

/-- A statement. -/
inductive Statement where
  | constant (name : String) (value : Expression)
  | return (value : Expression)
  | evaluate (value : Expression)

end

deriving instance Repr, Inhabited for Expression, Statement

/-- The text of the types that a call is given. -/
def renderTypes : List String → String
  | [] => ""
  | types => "<" ++ ", ".intercalate types ++ ">"

mutual

/-- The text of an expression. `level` is the nesting of the line on which it starts. -/
def Expression.render (level : Nat) : Expression → String
  | .name name => name
  | .code code => code
  | .text value => literal value
  | .template parts => "\x60" ++ String.join (parts.map TemplatePart.render) ++ "\x60"
  | .list items => "[" ++ ", ".intercalate (renderItems level items) ++ "]"
  | .object _ [] => "\x7b\x7d"
  | .object .inline members =>
      "\x7b " ++ ", ".intercalate (renderMembers level members) ++ " \x7d"
  | .object .lines members =>
      let lines := (renderMembers (level + 1) members).map (fun text =>
        indentation (level + 1) ++ text ++ ",\n")
      "\x7b\n" ++ String.join lines ++ indentation level ++ "\x7d"
  | .member object property => object.render level ++ "." ++ property
  | .call function types arguments =>
      function.render level ++ renderTypes types ++
        "(" ++ ", ".intercalate (renderItems level arguments) ++ ")"
  | .arrow parameters result => renderParameters parameters ++ " => " ++ result.render level
  | .function parameters body =>
      renderParameters parameters ++ " => \x7b\n" ++
        String.join (renderStatements (level + 1) body) ++ indentation level ++ "\x7d"
  | .await promise => "await " ++ promise.render level

/-- The text of each expression. -/
def renderItems (level : Nat) : List Expression → List String
  | [] => []
  | item :: rest => item.render level :: renderItems level rest

/-- The text of each member of an object. -/
def renderMembers (level : Nat) : List (String × Option Expression) → List String
  | [] => []
  | (name, none) :: rest => key name :: renderMembers level rest
  | (name, some value) :: rest =>
      (key name ++ ": " ++ value.render level) :: renderMembers level rest

/-- The line of a statement. -/
def Statement.render (level : Nat) : Statement → String
  | .constant name value =>
      indentation level ++ "const " ++ name ++ " = " ++ value.render level ++ ";\n"
  | .return value => indentation level ++ "return " ++ value.render level ++ ";\n"
  | .evaluate value => indentation level ++ value.render level ++ ";\n"

/-- The line of each statement. -/
def renderStatements (level : Nat) : List Statement → List String
  | [] => []
  | statement :: rest => statement.render level :: renderStatements level rest

end

end TypedClient.Script
