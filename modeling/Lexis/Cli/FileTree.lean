import Lexis.Cli.ReadError

/-!
A snapshot of a working directory, so that commands can be run without a disk. Paths are followed
name by name: empty names and `.` stay, `..` goes up, and every name but the last has to be a
directory. Files are laid out by the same rule, with the directories on the way made as needed.
Nothing is known of what lies outside the directory except that it is there.
-/

namespace Lexis.Cli

inductive FileTree.Entry where
  | file (bytes : ByteArray)
  | directory

/-- The entries below a directory at any depth, each under its names from the top. The first entry
under given names counts. -/
structure FileTree where
  entries : List (List String × FileTree.Entry)

namespace FileTree

def nameLimit : Nat := 255

def pathLimit : Nat := 4095

/-- The names of a path; a slash at the end asks for a directory as `.` does. -/
def names (path : String) : List String :=
  let parts := path.splitOn "/"
  parts.filter (· ≠ "") ++ if parts.getLast? = some "" then ["."] else []

/-- A place in the file system: inside the snapshot, or in a directory outside it. -/
inductive Place where
  | inside (names : List String)
  | outside

/-- Where a name leads from a directory. -/
def Place.follow : Place → String → Place
  | outside, _ => outside
  | inside names, name =>
      if name = "." then inside names
      else if name = ".." then if names = [] then outside else inside names.dropLast
      else inside (names ++ [name])

/-- The entry under the given names; without a name, the directory itself. -/
def entry? (t : FileTree) (names : List String) : Option Entry :=
  if names = [] then some .directory
  else (t.entries.find? (·.1 = names)).map (·.2)

/-- Follows names from a place, and makes a directory of every place on the way that is new. -/
def makeDirectories (t : FileTree) (place : Place) : List String → FileTree × Place
  | [] => (t, place)
  | name :: names =>
      let t := match place with
        | .inside here => if (t.entry? here).isSome then t else ⟨(here, .directory) :: t.entries⟩
        | .outside => t
      t.makeDirectories (place.follow name) names

/-- Puts an entry at the end of a path, in the stead of what was there. -/
def put (t : FileTree) (path : String) (entry : Entry) : FileTree :=
  match t.makeDirectories (.inside []) (names path) with
  | (t, .inside here) => ⟨(here, entry) :: t.entries⟩
  | (t, .outside) => t

/-- The snapshot with the given files and directories, put there in order. -/
def ofFiles (files : List (String × Entry)) : FileTree :=
  files.foldl (fun t file => t.put file.1 file.2) ⟨[]⟩

/-- Follows one name from a place that exists to a place that exists. -/
def enter (t : FileTree) (place : Place) (name : String) : Except ReadError Place :=
  match place with
  | .outside =>
      if name = "." || name = ".." then .ok .outside
      else if nameLimit < name.utf8ByteSize then .error .nameTooLong
      else .error .notFound
  | .inside here =>
      match t.entry? here with
      | none => .error .notFound
      | some (.file _) => .error .notDirectory
      | some .directory =>
          if nameLimit < name.utf8ByteSize then .error .nameTooLong
          else match place.follow name with
            | .outside => .ok .outside
            | .inside there =>
                if (t.entry? there).isSome then .ok (.inside there) else .error .notFound

def read (t : FileTree) (path : String) : Except ReadError ByteArray :=
  if path = "" then .error .notFound
  else if pathLimit < path.utf8ByteSize then .error .nameTooLong
  else
    let start := if path.toList.head? = some '/' then Place.outside else .inside []
    match (names path).foldlM t.enter start with
    | .error e => .error e
    | .ok .outside => .error .isDirectory
    | .ok (.inside here) =>
        match t.entry? here with
        | some (.file bytes) => .ok bytes
        | some .directory => .error .isDirectory
        | none => .error .notFound

end FileTree

end Lexis.Cli
