import Lexis.Cli.Options
import Lexis.Cli.ReadError
import Lexis.Listing
import Lexis.Report

/-!
The command line as a function. `Command.parse` decides what is asked for, `Command.run` says what
is written and with which status the program ends. Files come from a function given by the caller.
A listing is complete before any of it is written, so a run that fails lists nothing.
-/

namespace Lexis.Cli

structure Exit where
  code : UInt32
  stdout : String
  stderr : String
  deriving DecidableEq, Repr

namespace Exit

def success (stdout : String) : Exit :=
  ⟨0, stdout, ""⟩

def failure (stderr : String) : Exit :=
  ⟨1, "", stderr⟩

end Exit

inductive Command where
  | help
  | version
  | list (arguments : List String)
  | explain (number : Option String)
  | unknown (name : String)
  deriving DecidableEq, Repr

def usage : String :=
  "WhyLang Compiler\n"
    ++ "\n"
    ++ "Usage: whyc <command> [options]\n"
    ++ "\n"
    ++ "Commands:\n"
    ++ "  lex <file>       Print the token stream of a source file\n"
    ++ "  explain <code>   Explain an error code (e.g. E0001)\n"
    ++ "  help             Show this message\n"
    ++ "  version          Show the compiler version\n"
    ++ "\n"
    ++ "Options for lex:\n"
    ++ "  --color=<mode>   Diagnostic colors: auto, always, never\n"
    ++ "\n"
    ++ "Set RUST_LOG (e.g. RUST_LOG=why_lexer=trace) to enable tracing.\n"

def listUsage : String :=
  "Usage: whyc lex <file.why> [--color=auto|always|never]\n"

def explainUsage : String :=
  "Usage: whyc explain <code>\nExample: whyc explain E0001\n"

/-- The surroundings of a run: the files, and whether errors go to a terminal. -/
structure Host where
  read : String → Except ReadError ByteArray
  terminal : Bool

def Host.readText (host : Host) (path : String) : Except ReadError String :=
  match host.read path with
  | .error e => .error e
  | .ok bytes =>
      match String.fromUTF8? bytes with
      | some text => .ok text
      | none => .error .notText

/-- Lists the tokens of a source, or reports its first error. -/
def listSource (host : Host) (color : ColorMode) (path source : String) : Checked Exit := do
  match ← listing source with
  | .ok rows => return .success rows
  | .error e =>
      let reporter : Reporter := { colors := color.useColors host.terminal, file := none }
      return .failure (← (reporter.attach path source).reportLexError e)

def list (host : Host) (arguments : List String) : Checked Exit :=
  match Options.parse arguments with
  | .error e => return .failure ("error: " ++ e.message ++ "\n" ++ listUsage)
  | .ok options =>
      match options.path with
      | none => return .failure ("error: missing file path\n" ++ listUsage)
      | some path =>
          match host.readText path with
          | .error e => return .failure ("error: " ++ e.message path ++ "\n")
          | .ok source => listSource host options.color path source

def explain : Option String → Exit
  | none => .failure explainUsage
  | some number =>
      match Diagnostic.Code.parse? number with
      | some code => .success (code.text ++ "\n\n" ++ code.explanation ++ "\n")
      | none =>
          .failure ("Unknown error code: " ++ number ++ "\n\n"
            ++ "Codes have the format EXXXX where X is a digit, e.g. E0001.\n")

namespace Command

/-- The command that the arguments spell. What a command does not need is ignored. -/
def parse : List String → Command
  | [] => .help
  | name :: arguments =>
      if name = "lex" then .list arguments
      else if name = "explain" then .explain arguments.head?
      else if name ∈ ["help", "--help", "-h"] then .help
      else if name ∈ ["version", "--version", "-V"] then .version
      else .unknown name

def run (host : Host) : Command → Checked Exit
  | .help => return .success usage
  | .version => return .success "whyc 0.1.0\n"
  | .list arguments => Cli.list host arguments
  | .explain number => return Cli.explain number
  | .unknown name => return ⟨1, usage, "Unknown command: " ++ name ++ "\n\n"⟩

end Command

def run (host : Host) (arguments : List String) : Checked Exit :=
  (Command.parse arguments).run host

end Lexis.Cli
