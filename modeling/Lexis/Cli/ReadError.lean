namespace Lexis.Cli

inductive ReadError where
  | notFound
  | permissionDenied
  | notText
  | isDirectory
  /-- The path leads through a file. -/
  | notDirectory
  /-- The path, or a name in it, has more bytes than the system allows. -/
  | nameTooLong
  /-- Anything else, in the words of the system. -/
  | other (description : String)
  deriving DecidableEq, Repr

namespace ReadError

def message (path : String) : ReadError → String
  | notFound => "cannot find file '" ++ path ++ "'"
  | permissionDenied => "permission denied reading '" ++ path ++ "'"
  | notText => "'" ++ path ++ "' contains invalid UTF-8 data"
  | isDirectory => "cannot read '" ++ path ++ "': Is a directory (os error 21)"
  | notDirectory => "cannot read '" ++ path ++ "': Not a directory (os error 20)"
  | nameTooLong => "cannot read '" ++ path ++ "': File name too long (os error 36)"
  | other description => "cannot read '" ++ path ++ "': " ++ description

end ReadError

end Lexis.Cli
