import ZoneServer.Settings.Configuration

/-!
# Configuration files

A configuration is kept in a file whose extension is `toml`. A path names the file itself; if there is no
such file, the path with the extension added is tried. What files there are is given by a `Directory`.
-/

namespace ZoneServer

/-- The extension of a file name: what comes after its last dot, if something comes before it. -/
def extension? (fileName : List Char) : Option (List Char) :=
  let (after, before) := fileName.reverse.span (· ≠ '.')
  match before with
  | '.' :: _ :: _ => some after.reverse
  | _ => none

/-- The extension of configuration files. -/
def configurationExtension : List Char := ['t', 'o', 'm', 'l']

/-- Files by the names that lead to them. -/
structure Directory where
  /-- The names from the directory down to each file, and its text. -/
  files : List (List (List Char) × String)
  deriving Repr, Inhabited

namespace Directory

/-- The names that a path goes through, if there are any. A path from the root begins with the empty
name. -/
def namesOf (path : String) : Option (List (List Char)) :=
  let names := (path.toList.splitOn '/').filter fun part => part ≠ [] && part ≠ ['.']
  if names = [] then none
  else some (if path.toList.head? = some '/' then [] :: names else names)

/-- Whether a path can only lead to a directory, since it ends in a slash or a single dot. -/
def endsInDirectory (path : String) : Bool :=
  match (path.toList.splitOn '/').getLast? with
  | some last => last = [] || last = ['.']
  | none => true

/-- The text of the file that names lead to. -/
def file? (d : Directory) (names : List (List Char)) : Option String := d.files.lookup names

/-- The names with the extension added to the last; the way up is no name of a file. -/
def withExtension? (names : List (List Char)) : Option (List (List Char)) :=
  match names.getLast? with
  | some last =>
    if last = ['.', '.'] then none
    else some (names.dropLast ++ [last ++ '.' :: configurationExtension])
  | none => none

/-- The text of the configuration file that a path leads to. -/
def configuration? (d : Directory) (path : String) : Option String := do
  let names ← namesOf path
  match if endsInDirectory path then none else d.file? names with
  | some text =>
    if extension? (names.getLast?.getD []) = some configurationExtension then some text else none
  | none => do d.file? (← withExtension? names)

end Directory

/-- The configuration in the file that a path leads to. -/
def Configuration.load (d : Directory) (path : String) : Reading Configuration :=
  match d.configuration? path with
  | some text => parse text
  | none => .error .unavailable

end ZoneServer
