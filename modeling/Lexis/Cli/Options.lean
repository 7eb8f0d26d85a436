import Lexis.ColorMode

/-!
The arguments of the listing command: at most one path and any number of colour settings, in any
order. Of several colour settings the last one counts; of several faults the first one is told.
-/

namespace Lexis.Cli

structure Options where
  path : Option String
  color : ColorMode
  deriving DecidableEq, Repr

instance : Inhabited Options := ⟨⟨none, default⟩⟩

namespace Options

/-- The first argument that does not belong. -/
inductive Error where
  | badColor (value : String)
  | unknownOption (argument : String)
  | extraArgument (argument : String)
  deriving DecidableEq, Repr

def Error.message : Error → String
  | badColor value =>
      "invalid --color value '" ++ value ++ "' (expected auto, always or never)"
  | unknownOption argument => "unknown option '" ++ argument ++ "'"
  | extraArgument argument => "unexpected argument '" ++ argument ++ "'"

def colorValue? (argument : String) : Option String :=
  ("--color=".toList.isPrefixOf? argument.toList).map String.ofList

/-- Takes one more argument into account. -/
def add (o : Options) (argument : String) : Except Error Options :=
  match colorValue? argument with
  | some value =>
      match ColorMode.parse? value with
      | some color => .ok { o with color }
      | none => .error (.badColor value)
  | none =>
      if argument.toList.head? = some '-' then .error (.unknownOption argument)
      else match o.path with
        | none => .ok { o with path := some argument }
        | some _ => .error (.extraArgument argument)

def parse (arguments : List String) : Except Error Options :=
  arguments.foldlM add default

end Options

end Lexis.Cli
