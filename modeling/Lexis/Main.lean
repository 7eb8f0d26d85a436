import Lexis.Cli

namespace Lexis.Main

open Cli

/-- The number of a system error. Some calls report it with a minus sign. -/
def errorNumber (code : UInt32) : UInt32 :=
  min code (0 - code)

/-- A system error as the reason why a file cannot be read. -/
def readError : IO.Error → ReadError
  | .noFileOrDirectory _ _ _ => .notFound
  | .permissionDenied _ _ _ => .permissionDenied
  | .inappropriateType _ code details =>
      if errorNumber code = 20 then .notDirectory
      else if errorNumber code = 21 then .isDirectory
      else .other details
  | .invalidArgument _ code details =>
      if errorNumber code = 36 then .nameTooLong else .other details
  | e => .other (toString e)

/-- The path of the only file a run may read. -/
def path? (arguments : List String) : Option String :=
  match Command.parse arguments with
  | .list arguments => (Options.parse arguments).toOption.bind Options.path
  | _ => none

def readFile (path : String) : IO (Except ReadError ByteArray) := do
  try
    return .ok (← IO.FS.readBinFile path)
  catch e =>
    return .error (readError e)

def run (arguments : List String) : IO UInt32 := do
  let contents ← match path? arguments with
    | some path => readFile path
    | none => pure (.error .notFound)
  let terminal ← (← IO.getStderr).isTty
  match Cli.run { read := fun _ => contents, terminal } arguments with
  | .ok exit =>
      IO.print exit.stdout
      IO.eprint exit.stderr
      return exit.code
  | .error fault =>
      IO.eprintln fault.message
      return 101

end Lexis.Main

def main (arguments : List String) : IO UInt32 :=
  Lexis.Main.run arguments
