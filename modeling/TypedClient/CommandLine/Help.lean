import TypedClient.CommandLine.Setting

/-!
Contract: what the program says about itself.

Owns: the name and version, and the help with its columns.

Does not own: when it is shown.
-/

namespace TypedClient.CommandLine

def programName : String := "apigen"

/-- The name and the version. -/
def versionLine : String := programName ++ " 0.1.0"

/-- A line of help: what is typed, and what it does, in a column of its own. -/
def helpLine (typed help : String) : String :=
  typed ++ String.ofList (List.replicate (30 - typed.length) ' ') ++ help

/-- The default of a setting, as its help shows it. -/
def defaultText (setting : Setting) : String :=
  match setting.default? with
  | none => ""
  | some value =>
      " [default: " ++
        (if value.toList.contains ' ' then "\"" ++ value ++ "\"" else value) ++ "]"

/-- The help, line by line. -/
def helpLines : List String :=
  ["Generate a typed TypeScript client (types, axios requests, React Query hooks) from OpenAPI " ++
      "documents",
    "",
    "Usage: " ++ programName ++ " [OPTIONS] <" ++
      "|".intercalate ([Setting.addresses, .file].map Setting.shown) ++ ">",
    "",
    "Options:"] ++
  Setting.all.map (fun setting =>
    helpLine ("      " ++ setting.shown) (setting.help ++ defaultText setting)) ++
  [helpLine "  -h, --help" "Print help", helpLine "  -V, --version" "Print version"]

end TypedClient.CommandLine
