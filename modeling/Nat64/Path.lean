/-!
# Paths

Paths are texts with slashes between their parts. A path that starts with a tilde is relative to the home directory.
-/

namespace Nat64.Path

/-- Whether a path starts at the root. -/
def isAbsolute (path : String) : Bool := path.toList.head? == some '/'

/-- A path seen from a directory; an absolute one stays as it is. -/
def join (directory path : String) : String :=
  if isAbsolute path then path
  else if directory = "" ∨ directory.toList.getLast? = some '/' then directory ++ path
  else directory ++ "/" ++ path

/-- A path with the home directory in place of a leading tilde. -/
def expandHome (home path : String) : String :=
  match path.toList with
  | ['~'] => home
  | '~' :: '/' :: rest => join home (String.ofList rest)
  | _ => path

/-- Where the configuration is looked for when no path is given. -/
def defaultConfig (home : String) : String := [".config", "tunnel-rs", "nat64.toml"].foldl join home

end Nat64.Path
