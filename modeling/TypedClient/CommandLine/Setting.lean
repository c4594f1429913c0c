/-!
Contract: the settings of the command line.

Owns:
- the settings, each with its flag, the name of its value, its help and its default;
- which of them may not have an empty value.

Does not own: reading them from arguments.
-/

namespace TypedClient.CommandLine

/-- A setting that has a value. -/
inductive Setting where
  | addresses
  | file
  | output
  | defaultAddress
  | fallbackMessage
deriving DecidableEq, Repr

namespace Setting

/-- The settings in the order in which they are shown. -/
def all : List Setting := [.addresses, .file, .output, .defaultAddress, .fallbackMessage]

/-- The flag in front of a value, without its hyphens. -/
def flag : Setting → String
  | .addresses => "url"
  | .file => "file"
  | .output => "output"
  | .defaultAddress => "base-url"
  | .fallbackMessage => "error-message"

def ofFlag? (flag : String) : Option Setting :=
  all.find? (fun setting => setting.flag = flag)

/-- How the value is called. -/
def valueName : Setting → String
  | .addresses => "URLS"
  | .file => "PATH"
  | .output => "DIR"
  | .defaultAddress => "URL"
  | .fallbackMessage => "TEXT"

def shown (setting : Setting) : String :=
  "--" ++ setting.flag ++ " <" ++ setting.valueName ++ ">"

/-- What a setting is for. -/
def help : Setting → String
  | .addresses => "Comma-separated specification URLs, merged in order"
  | .file => "Local specification file (JSON or YAML)"
  | .output => "Directory the TypeScript files are written to"
  | .defaultAddress => "Base URL used by the generated client when the env variable is unset"
  | .fallbackMessage => "Toast message of mutation hooks when the server sends none"

/-- The value of a setting that is not given. -/
def default? : Setting → Option String
  | .addresses => none
  | .file => none
  | .output => some "src/data"
  | .defaultAddress => some "https://api.example.com"
  | .fallbackMessage => some "Something went wrong"

/-- Whether a setting is the path of a file or directory, which may not be empty. -/
def isPath : Setting → Bool
  | .file => true
  | .output => true
  | _ => false

theorem ofFlag?_flag (setting : Setting) : ofFlag? setting.flag = some setting := by
  cases setting <;> decide

end Setting

end TypedClient.CommandLine
