-- The program: it reads the script that the command line asks for, or the
-- lines that are typed, and prints what the library answers.
import ImageScript.CommandLine
import ImageScript.Prompt

namespace ImageScript

/-- What there is at a path. -/
def readFileState (path : String) : IO CommandLine.FileState := do
  try
    return .file (← IO.FS.readBinFile path)
  catch
    | .inappropriateType .. => return .directory
    | .permissionDenied .. => return .forbidden
    | _ => return .missing

/-- Answers the lines of an input until it ends. -/
partial def runPrompt (input output : IO.FS.Stream) : IO Unit := do
  let line ← input.getLine
  unless line.isEmpty do
    output.putStr (Prompt.respond line)
    output.flush
    runPrompt input output

/-- Does what some arguments ask for. -/
def runArguments (args : List String) : IO UInt32 := do
  let request := CommandLine.Request.ofArguments args
  let state ← match request with
    | .scanScript path => readFileState path
    | _ => pure .missing
  if request = .startPrompt then
    runPrompt (← IO.getStdin) (← IO.getStdout)
  let exit := CommandLine.respond (fun _ => state) "" request
  (← IO.getStdout).putStr exit.output
  (← IO.getStderr).putStr exit.errors
  return exit.code.toUInt32

end ImageScript

/-- Runs the program. -/
def main (args : List String) : IO UInt32 :=
  ImageScript.runArguments args
