import TypedClient.Client.Files
import TypedClient.Run.Loading
import TypedClient.Run.Writing

/-!
Contract: a run, from its options to its files.

Owns:
- `RunSettings`, the options of a run besides its source;
- the order of a run: load, merge, write;
- `Report`, what a run says about itself, and its lines.

Does not own: the command line.
-/

namespace TypedClient

/-- The options of a run besides its source. -/
structure RunSettings where
  /-- The directory for the files. -/
  output : String := "src/data"
  client : Client.Settings := {}
deriving DecidableEq, Repr

/-- What a run says about itself. -/
structure Report where
  documents : List DocumentSummary
  endpointCount : Nat
  declarationCount : Nat
  files : List WrittenFile
  warnings : List Warning
deriving DecidableEq, Repr

namespace Report

/-- What is said about a document. -/
def documentLine (document : DocumentSummary) : String :=
  "  loaded " ++ document.title ++ " v" ++ document.version ++
    (if document.qualifier.isEmpty then "" else " [" ++ document.qualifier ++ "]") ++ ": " ++
    toString document.endpointCount ++ " endpoints (" ++ document.origin ++ ")"

/-- What is said about a file. -/
def fileLine (file : WrittenFile) : String := "  " ++ file.outcome.label ++ " " ++ file.path

/-- What a run says about itself, line by line. -/
def lines (report : Report) (output : String) : List String :=
  report.documents.map documentLine ++ report.files.map fileLine ++
    (if report.declarationCount = 0 then []
      else ["  " ++ toString report.declarationCount ++ " recursive types hoisted"]) ++
    ["Generated " ++ toString report.endpointCount ++ " endpoints into " ++ output]

end Report

section

variable {m : Type → Type} [Monad m]

def writeClient (surroundings : Surroundings m) (settings : RunSettings)
    (documents : List LoadedDocument) : ExceptT Failure m Report := do
  let (model, warnings) := Model.merge documents
  let files ← Client.writeFiles surroundings settings.output
    (Client.artifacts settings.client model)
  return ⟨model.documents, model.endpoints.length, model.declarations.length, files, warnings⟩

/-- A whole run from a source. Nothing is written unless every document loads. -/
def generateFrom (surroundings : Surroundings m) (settings : RunSettings) (source : Source) :
    ExceptT Failure m Report := do
  writeClient surroundings settings (← source.load surroundings)

/-- A whole run from the options for its source. -/
def generate (surroundings : Surroundings m) (settings : RunSettings)
    (file addresses : Option String) : ExceptT Failure m Report := do
  match Source.ofOptions? file addresses with
  | none => throw .noSource
  | some source =>
      let report ← generateFrom surroundings settings source
      return { report with warnings := Source.optionWarnings file addresses ++ report.warnings }

end

end TypedClient
