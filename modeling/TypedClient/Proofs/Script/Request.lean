import Mathlib.Data.List.Nodup
import TypedClient.Script.File

/-!
Contract: the request that a generated function sends.

Owns:
- `Value` and `evaluate`, what the expressions in a call stand for, given the arguments of the
  function around the call;
- `send`, the request that the instance makes of the arguments of a call: `get` and `delete` take an
  address and options, the other methods an address, a body and options;
- `sentBy`, the request of a function that starts by waiting for one.

Does not own: which functions are generated, and what happens with the answer.
-/

namespace TypedClient.Script

/-- A value in running code: an argument, or one that the code makes. -/
inductive Value (α : Type) where
  | argument (value : α)
  | undefined
  | text (text : List Char)
  | record (members : List (String × Value α))

/-- The variables that code can read. -/
structure Scope (α : Type) where
  arguments : List (String × α)
  /-- How an argument is written where a text is wanted. -/
  written : α → List Char

namespace Scope

variable {α : Type}

def read (scope : Scope α) (name : String) : Option (Value α) :=
  match scope.arguments.lookup name with
  | some value => some (.argument value)
  | none => if name = "undefined" then some .undefined else none

/-- The text of a part of a template. -/
def textOf (scope : Scope α) : TemplatePart → Option (List Char)
  | .plain text => some text.toList
  | .substitution code => (scope.arguments.lookup code).map scope.written

mutual

def evaluate (scope : Scope α) : Expression → Option (Value α)
  | .name name => scope.read name
  | .text value => some (.text value.toList)
  | .template parts => (parts.mapM scope.textOf).map (fun texts => .text texts.flatten)
  | .object _ members => (scope.evaluateMembers members).map .record
  | _ => none

def evaluateMembers (scope : Scope α) :
    List (String × Option Expression) → Option (List (String × Value α))
  | [] => some []
  | (name, none) :: rest => do
      let value ← scope.read name
      return (name, value) :: (← scope.evaluateMembers rest)
  | (name, some expression) :: rest => do
      let value ← scope.evaluate expression
      return (name, value) :: (← scope.evaluateMembers rest)

end

end Scope

structure Request (α : Type) where
  method : String
  address : List Char
  /-- What is sent behind the address. -/
  params : Option (Value α)
  data : Option (Value α)

section

variable {α : Type}

/-- What is sent for a value: nothing if it is not defined. -/
def defined? : Value α → Option (Value α)
  | .undefined => none
  | value => some value

def option? (options : List (String × Value α)) (name : String) : Option (Value α) :=
  (options.lookup name).bind defined?

/-- The request that the instance makes of the arguments of a call. -/
def send (method : String) (arguments : List (Value α)) : Option (Request α) :=
  if ["get", "delete"].contains method then
    match arguments with
    | [.text address] => some ⟨method, address, none, none⟩
    | [.text address, .record options] =>
        some ⟨method, address, option? options "params", option? options "data"⟩
    | _ => none
  else if ["post", "put", "patch"].contains method then
    match arguments with
    | [.text address] => some ⟨method, address, none, none⟩
    | [.text address, body] => some ⟨method, address, none, defined? body⟩
    | [.text address, body, .record options] =>
        some ⟨method, address, option? options "params", defined? body⟩
    | _ => none
  else none

/-- The names that a function declares inside. -/
def constants (body : List Statement) : List String :=
  body.filterMap (fun statement =>
    match statement with
    | .constant name _ => some name
    | _ => none)

/-- The request of a function that starts by waiting for one, as only an asynchronous function can.
No name may be declared twice, and none may hide the instance. -/
def sentBy (function : Function) (written : α → List Char) (given : List α) :
    Option (Request α) :=
  let names := function.parameters.map Binder.name ++ constants function.body
  if function.isAsync ∧ names.Nodup ∧ "axiosInstance" ∉ names then
    match function.body with
    | .constant _ (.await (.call (.member (.name "axiosInstance") method) _ arguments)) :: _ => do
        let scope : Scope α := ⟨(function.parameters.map Binder.name).zip given, written⟩
        send method (← arguments.mapM scope.evaluate)
    | _ => none
  else none

end

end TypedClient.Script
