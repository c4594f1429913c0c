import TypedClient.CommandLine.Setting

/-!
Contract: reading arguments.

Owns:
- `Request`, what arguments ask for;
- `UsageFault`, why arguments cannot be read, and which of several causes is named;
- `Request.ofArguments`.

Does not own: what is done about a request.
-/

namespace TypedClient.CommandLine

/-- The settings that were given, each with its value. -/
abbrev Given := List (Setting × String)

/-- What arguments ask for. -/
inductive Request where
  | help
  | version
  | run (given : Given)
deriving DecidableEq, Repr

/-- Why arguments cannot be read. -/
inductive UsageFault where
  | unexpected (argument : String)
  | valueMissing (setting : Setting)
  | repeated (setting : Setting)
  | valueUnwanted (value flag : String)
  /-- Neither a file nor an address is given. -/
  | sourceMissing
deriving DecidableEq, Repr

namespace UsageFault

/-- The wording of a fault. -/
def message : UsageFault → String
  | .unexpected argument => "unexpected argument '" ++ argument ++ "' found"
  | .valueMissing setting =>
      "a value is required for '" ++ setting.shown ++ "' but none was supplied"
  | .repeated setting => "the argument '" ++ setting.shown ++ "' cannot be used multiple times"
  | .valueUnwanted value flag =>
      "unexpected value '" ++ value ++ "' for '" ++ flag ++ "' found; no more were expected"
  | .sourceMissing => "the following required arguments were not provided:"

end UsageFault

/-- The arguments read so far. -/
structure Reading where
  given : Given := []
  /-- The last setting, whose value may still come. It counts as given only when the next setting
  begins. -/
  open? : Option (Setting × Option String) := none
  /-- Whether only plain arguments can follow. -/
  isOver : Bool := false

namespace Reading

/-- Whether a setting is given. -/
def has (reading : Reading) (setting : Setting) : Bool :=
  reading.given.any (fun entry => entry.1 = setting)

def withValue (reading : Reading) (setting : Setting) (value : String) :
    Except UsageFault Reading :=
  if reading.has setting then .error (.repeated setting)
  else if setting.isPath && value.isEmpty then .error (.valueMissing setting)
  else .ok { reading with given := reading.given ++ [(setting, value)] }

/-- Take the last setting. -/
def closed (reading : Reading) : Except UsageFault Reading :=
  match reading.open? with
  | none => .ok reading
  | some (setting, none) => .error (.valueMissing setting)
  | some (setting, some value) => { reading with open? := none }.withValue setting value

end Reading

/-- An argument by its form. -/
inductive Form where
  /-- Two hyphens alone. -/
  | separator
  /-- A flag of several letters, maybe with a value after an equals sign. -/
  | long (flag : String) (value : Option String)
  /-- A flag of one letter; more letters can follow. -/
  | short (flag : Char)
  | plain
deriving DecidableEq, Repr

def Form.ofArgument (argument : String) : Form :=
  match argument.toList with
  | ['-', '-'] => .separator
  | '-' :: '-' :: rest =>
      let flag := String.ofList (rest.takeWhile (· ≠ '='))
      match rest.dropWhile (· ≠ '=') with
      | [] => .long flag none
      | _ :: value => .long flag (some (String.ofList value))
  | '-' :: flag :: _ => .short flag
  | _ => .plain

/-- Settings are over once help or the version is asked for, if what was read so far is in order. -/
def asked (reading : Reading) (request : Request) : Except UsageFault Request :=
  reading.closed.map (fun _ => request)

/-- Read the arguments that are left. An argument that fits nowhere is named even if the setting
before it lacks its value. -/
def readFrom (reading : Reading) : List String → Except UsageFault Request
  | [] => do
      let final ← reading.closed
      if final.has .addresses || final.has .file then return .run final.given
      else throw .sourceMissing
  | argument :: rest =>
      if reading.isOver then .error (.unexpected argument)
      else
        match Form.ofArgument argument with
        | .separator => readFrom { reading with isOver := true } rest
        | .long flag value =>
            match Setting.ofFlag? flag, value with
            | some setting, none => do
                let before ← reading.closed
                readFrom { before with open? := some (setting, none) } rest
            | some setting, some value => do
                let before ← reading.closed
                readFrom (← before.withValue setting value) rest
            | none, none =>
                if flag = "help" then asked reading .help
                else if flag = "version" then asked reading .version
                else .error (.unexpected ("--" ++ flag))
            | none, some value =>
                if flag = "help" || flag = "version" then
                  .error (.valueUnwanted value ("--" ++ flag))
                else .error (.unexpected ("--" ++ flag))
        | .short flag =>
            if flag = 'h' then asked reading .help
            else if flag = 'V' then asked reading .version
            else .error (.unexpected (String.ofList ['-', flag]))
        | .plain =>
            match reading.open? with
            | some (setting, none) =>
                readFrom { reading with open? := some (setting, some argument) } rest
            | _ => .error (.unexpected argument)

/-- What arguments ask for. -/
def Request.ofArguments (arguments : List String) : Except UsageFault Request :=
  readFrom {} arguments

end TypedClient.CommandLine
