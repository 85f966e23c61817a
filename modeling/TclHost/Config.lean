import TclHost.Text.Blank
import TclHost.Text.Quoted

/-!
What a new session is asked for: which library to load, and whether to restrict the session to the
safe commands. An explicit path, from the caller or from the environment, is the only candidate;
without one the usual names are searched in order.
-/

namespace TclHost

def libraryVariable : String := "TCL_RS_LIBRARY"

def safeVariable : String := "TCL_RS_SAFE"

def defaultLibraries : List String :=
  ["libtcl8.6.so", "libtcl.so", "libtcl8.6.so.0", "libtcl8.5.so"]

structure Config where
  library : Option String := none
  safe : Bool := false
  deriving DecidableEq, Repr, Inhabited

def isTruthy (value : String) : Bool :=
  ["1", "true", "yes", "on"].contains
    (String.ofList ((Text.trim value).toList.map Char.toLower))

def Config.ofLookup (lookup : String → Option String) : Config where
  library := (lookup libraryVariable).filter (· ≠ "")
  safe := (lookup safeVariable).any isTruthy

def Config.withLibrary (config : Config) (path : String) : Config :=
  { config with library := some path }

def Config.withSafe (config : Config) (safe : Bool) : Config :=
  { config with safe }

def Config.candidates (config : Config) : List String :=
  match config.library with
  | some path => [path]
  | none => defaultLibraries

def Config.describe (config : Config) : String :=
  let library := match config.library with
    | some path => "Some(" ++ Text.quoted path ++ ")"
    | none => "None"
  "Config \x7b library: " ++ library ++ ", safe: " ++ toString config.safe ++ " \x7d"

end TclHost
