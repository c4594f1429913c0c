import TypedClient.CommandLine.Outcome

/-!
Contract: the program.

Owns: the outside as the surroundings of a run, and printing.

Does not own: anything that is decided. Fetching over the network is not part of it, so that an
address is answered as if nothing could be reached.
-/

namespace TypedClient

/-- The failure of an operation on files, by the number that the system gives it. -/
def DiskFault.ofError (error : IO.Error) : DiskFault :=
  match error with
  | .noFileOrDirectory .. => .missing
  | .alreadyExists .. => .taken
  | .inappropriateType _ code _ => if code = 20 then .notDirectory else .isDirectory
  | _ => .other (toString error)

/-- The result of an operation on files. -/
def outcomeOf {α : Type} (action : IO α) : IO (Except DiskFault α) := do
  try
    return .ok (← action)
  catch error =>
    return .error (DiskFault.ofError error)

/-- The text of a file. -/
def readFile (path : String) : IO (Except DiskFault String) := do
  match ← outcomeOf (IO.FS.readBinFile path) with
  | .error fault => return .error fault
  | .ok octets =>
      match String.fromUTF8? octets with
      | some text => return .ok text
      | none => return .error .notText

/-- Whether anything stands where a path leads. -/
def isTaken (path : String) : IO Bool := do
  return (← outcomeOf (IO.FS.Handle.mk path .read)).isOk

def outside : Surroundings IO where
  read := readFile
  createDirectories path :=
    if path.isEmpty then return .ok () else outcomeOf (IO.FS.createDirAll path)
  isTaken := isTaken
  write path content := outcomeOf (IO.FS.writeFile path content)
  fetch url := return .error (.unreachable url.sent)

/-- A time as it is shown. -/
def durationText (milliseconds : Nat) : String :=
  if milliseconds < 1000 then toString milliseconds ++ "ms"
  else toString (milliseconds / 1000) ++ "s " ++ toString (milliseconds % 1000) ++ "ms"

end TypedClient

open TypedClient in
/-- Run the program on its arguments. -/
def main (arguments : List String) : IO UInt32 := do
  let start ← IO.monoMsNow
  let outcome ← CommandLine.run outside arguments
  let time := durationText ((← IO.monoMsNow) - start)
  for line in outcome.output.dropLast do
    IO.println line
  for line in outcome.output.getLast? do
    IO.println (if outcome.isTimed then line ++ " (" ++ time ++ ")" else line)
  for line in outcome.errors do
    IO.eprintln line
  return UInt32.ofNat outcome.status
