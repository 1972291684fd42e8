-- The command line: what the arguments ask for, and what the program answers
-- with.  Everything is decided here; reading files and printing are done
-- elsewhere.
import ImageScript.Report
import ImageScript.Lexer
import ImageScript.Table

namespace ImageScript.CommandLine

/-! ## Arguments -/

/-- Why arguments cannot be understood. -/
inductive ArgumentError where
  /-- No option is called so. -/
  | unrecognized (arg : String)
  /-- An option stands behind a request for help. -/
  | trailing
deriving DecidableEq

/-- An argument error in words. -/
def ArgumentError.message : ArgumentError → String
  | unrecognized arg => "Unrecognized argument: " ++ arg ++ "\n"
  | trailing => "Trailing arguments are not allowed after \x60help\x60."

/-- What has been gathered from the arguments so far. -/
structure Arguments where
  help : Bool
  version : Bool
  scripts : List String
deriving DecidableEq

/-- No arguments. -/
def Arguments.none : Arguments :=
  { help := false, version := false, scripts := [] }

/-- An argument that begins like an option. -/
def looksLikeOption (arg : String) : Bool :=
  arg.toList.head? = some '-'

/-- The arguments behind the mark that ends the options.  All of them name
scripts. -/
def Arguments.addScripts (a : Arguments) (args : List String) : Arguments :=
  { a with scripts := a.scripts ++ args }

/-- Reads arguments one after the other, on top of what has been gathered. -/
def Arguments.read (a : Arguments) : List String → Except ArgumentError Arguments
  | [] => .ok a
  | arg :: args =>
    if arg = "--help" ∨ arg = "help" then { a with help := true }.read args
    else if arg = "--" then .ok (a.addScripts args)
    else if looksLikeOption arg then
      if a.help then .error .trailing
      else if arg = "-v" ∨ arg = "--version" then { a with version := true }.read args
      else .error (.unrecognized arg)
    else (a.addScripts [arg]).read args

/-- What the program is asked to do. -/
inductive Request where
  | explain (e : ArgumentError)
  | showHelp
  | showVersion
  | showUsage
  | scanScript (path : String)
  | startPrompt
deriving DecidableEq

/-- What some arguments ask for.  Help comes before the version, and the
version before any script. -/
def Request.ofArguments (args : List String) : Request :=
  match Arguments.none.read args with
  | .error e => .explain e
  | .ok a =>
    if a.help then .showHelp
    else if a.version then .showVersion
    else match a.scripts with
      | [] => .startPrompt
      | [path] => .scanScript path
      | _ => .showUsage

/-! ## Files -/

/-- What there is at the place that a path names. -/
inductive FileState where
  | missing
  | directory
  | forbidden
  | file (bytes : ByteArray)

/-- Why a script cannot be read. -/
inductive ReadError where
  | missing
  | directory
  | forbidden
  | notText
deriving DecidableEq

/-- A read error in words. -/
def ReadError.message : ReadError → String
  | missing => "No such file or directory (os error 2)"
  | directory => "Is a directory (os error 21)"
  | forbidden => "Permission denied (os error 13)"
  | notText => "stream did not contain valid UTF-8"

/-- The script that a file holds. -/
def FileState.script : FileState → Except ReadError String
  | missing => .error .missing
  | directory => .error .directory
  | forbidden => .error .forbidden
  | file bytes =>
    match String.fromUTF8? bytes with
    | some source => .ok source
    | none => .error .notText

/-! ## Answers -/

/-- How the program ends: its exit code, and what it has printed on its two
channels. -/
structure Exit where
  code : Nat
  output : String
  errors : String
deriving DecidableEq

namespace Exit

/-- The program did what it was asked. -/
def success (output : String) : Exit :=
  { code := 0, output, errors := "" }

/-- The program could not do what it was asked. -/
def failure (message : String) : Exit :=
  { code := 1, output := "", errors := message ++ "\n" }

end Exit

/-- The name of the program. -/
def programName : String := "imagelex"

/-- The version line. -/
def versionText : String := programName ++ " 0.1.0\n"

/-- The help page. -/
def helpText : String :=
  "Usage: " ++ programName ++ " [-v] [--] [<script...>]\n\n" ++
  "Dump the tokens of an image script, or scan lines typed at a prompt.\n\n" ++
  "Positional Arguments:\n" ++
  "  script            script to tokenize; without one an interactive prompt is\n" ++
  "                    started\n\n" ++
  "Options:\n" ++
  "  -v, --version     print version information\n" ++
  "  --help, help      display usage information\n\n"

/-- What the program answers when it is given a script. -/
def scan (source : String) : Exit :=
  match lex source with
  | .ok tokens => .success (Table.text tokens ++ "\n")
  | .error f => .failure ("Error: " ++ Report.text f source)

/-- What the program answers when it is given a file. -/
def scanFile (state : FileState) : Exit :=
  match state.script with
  | .ok source => scan source
  | .error e => .failure ("Error: Could not read script: " ++ e.message)

/-- What the program answers to a request.  `fileAt` tells what a path names,
and `prompt` is what the prompt prints. -/
def respond (fileAt : String → FileState) (prompt : String) : Request → Exit
  | .explain e =>
    .failure (e.message ++ "\nRun " ++ programName ++ " --help for more information.")
  | .showHelp => .success helpText
  | .showVersion => .success versionText
  | .showUsage => .failure ("Error: Usage: " ++ programName ++ " [script file]")
  | .scanScript path => scanFile (fileAt path)
  | .startPrompt => .success prompt

end ImageScript.CommandLine
