/-
  THE OUTER LAYER: arguments, files and the console.
-/
import DocIndex.Dialogue
import DocIndex.Program

namespace DocIndex.Main

/-- What is found at a path.  A file that cannot be opened, other than for want of permission, does
    not exist. -/
def fetch (path : String) : IO Source := do
  try
    return Source.ofBytes (← IO.FS.readBinFile path)
  catch
    | .inappropriateType none code details =>
      return .unreadable (details ++ " (os error " ++ toString code ++ ")")
    | .permissionDenied .. => return .unreadable "Permission denied (os error 13)"
    | _ => return .missing

/-- Answers the lines of the client until there are no more; `greeted` once it has introduced
    itself. -/
partial def serve (h : Handbook) (input output : IO.FS.Stream) (greeted : Bool) : IO UInt32 := do
  let line ← input.getLine
  if line.isEmpty then
    if greeted then return 0
    IO.eprintln noClient.text
    return 1
  if let some response := Dialogue.respond h line then
    output.putStrLn response
    output.flush
    serve h input output true
  else serve h input output greeted

/-- The exit code of a refusal. -/
def refuse : Refusal → IO UInt32
  | .displayVersion => do
    IO.print versionText
    return 0
  | .displayHelp => do
    IO.println "Usage: apidoc-query --model <MODEL> [serve | search | resolve | lookup]"
    return 0
  | _ => do
    IO.eprintln "Usage: apidoc-query --model <MODEL> [serve | search | resolve | lookup]"
    return 2

end DocIndex.Main

open DocIndex DocIndex.Main in
def main (args : List String) : IO UInt32 := do
  match CommandLine.parse (← IO.getEnv "APIDOC_MODEL") args with
  | .error refusal => refuse refusal
  | .ok invocation =>
    let home ← IO.getEnv "HOME"
    match invocation.run home (← fetch (invocation.path home)) with
    | .printed output => do
      IO.print output
      return 0
    | .failed report => do
      IO.eprintln report.text
      return 1
    | .serving h => serve h (← IO.getStdin) (← IO.getStdout) false
