import TypedClient.CommandLine.Arguments
import TypedClient.CommandLine.Help
import TypedClient.Run.Generation

/-!
Contract: what the program does for its arguments.

Owns:
- `Outcome`, the lines that the program prints and its exit status;
- the settings of a run that arguments denote.

Does not own: printing.
-/

namespace TypedClient.CommandLine

/-- What the program prints, and its exit status. -/
structure Outcome where
  status : Nat
  output : List String := []
  errors : List String := []
  /-- Whether files were generated, so that the time that took is of interest. -/
  isTimed : Bool := false
deriving DecidableEq, Repr

def Given.value? (given : Given) (setting : Setting) : Option String :=
  (given.find? (fun entry => entry.1 = setting)).map Prod.snd

/-- The value of a setting, its default if it is not given. -/
def Given.value (given : Given) (setting : Setting) : String :=
  (Given.value? given setting).getD (setting.default?.getD "")

def Given.runSettings (given : Given) : RunSettings where
  output := Given.value given .output
  client := ⟨{ defaultAddress := Given.value given .defaultAddress },
    Given.value given .fallbackMessage⟩

/-- What the program says about a failed run. -/
def failureLine : Failure → String
  | .noSource => Failure.message .noSource
  | failure => "error: " ++ failure.message

/-- What the program does for its arguments. -/
def run {m : Type → Type} [Monad m] (surroundings : Surroundings m) (arguments : List String) :
    m Outcome := do
  match Request.ofArguments arguments with
  | .error fault => return { status := 2, errors := ["error: " ++ fault.message] }
  | .ok .help => return { status := 0, output := helpLines }
  | .ok .version => return { status := 0, output := [versionLine] }
  | .ok (.run given) =>
      let settings := Given.runSettings given
      match ← (generate surroundings settings (Given.value? given .file)
        (Given.value? given .addresses)).run with
      | .ok report =>
          return { status := 0, output := report.lines settings.output, isTimed := true }
      | .error failure => return { status := 1, errors := [failureLine failure] }

end TypedClient.CommandLine
