import TclHost.Host.Script

/-!
Global variables: scalars and arrays, read afresh from the interpreter each time.
-/

namespace TclHost.Host

variable {H N : Type}

def knownVars : List String :=
  ["argc", "argv", "argv0", "auto_index", "auto_path", "env", "errorCode", "errorInfo",
    "tcl_interactive", "tcl_library", "tcl_patchLevel", "tcl_pkgPath", "tcl_platform",
    "tcl_rcFileName", "tcl_version"]

def isBuiltinVar (session : SessionId) (name : String) : Host H N Bool := do
  let state : Session H ← inspect session
  return knownVars.contains name || state.builtins.any (·.vars.contains name)

def varExists (session : SessionId) (name : String) : Attempt H N Bool := do
  return (← invoke session ["info", "exists", name]) = "1"

def findVar (session : SessionId) (name : String) : Attempt H N Var := do
  if (← invoke session ["array", "exists", name]) = "1" then
    return ⟨session, name, .array⟩
  let _value ← invoke session ["set", name]
  return ⟨session, name, .scalar⟩

def setVar (session : SessionId) (name value : String) : Attempt H N Var := do
  let _value ← invoke session ["set", name, value]
  findVar session name

def pairUp : List String → List (String × String)
  | key :: value :: rest => (key, value) :: pairUp rest
  | _ => []

def flattenPairs (pairs : List (String × String)) : List String :=
  pairs.flatMap fun (key, value) => [key, value]

def pairLe (left right : String × String) : Bool :=
  left.1 < right.1 || (left.1 = right.1 && left.2 ≤ right.2)

def sortPairs (pairs : List (String × String)) : List (String × String) :=
  pairs.mergeSort pairLe

end TclHost.Host

namespace TclHost.Var

variable {H N : Type}

def value (var : Var) : Attempt H N String :=
  match var.kind with
  | .scalar => Host.invoke var.session ["set", var.name]
  | .array => Host.invoke var.session ["array", "get", var.name]

def elements (var : Var) : Attempt H N (List (String × String)) := do
  match var.kind with
  | .scalar => return []
  | .array =>
      let items ← ExceptT.lift (Host.splitLenient var.session (← var.value))
      return Host.sortPairs (Host.pairUp items)

def script (var : Var) : Attempt H N String := do
  match var.kind with
  | .scalar =>
      let value ← var.value
      ExceptT.lift (Host.quoteList var.session ["set", var.name, value])
  | .array =>
      let pairs ← var.elements
      let contents ← ExceptT.lift (Host.quoteList var.session (Host.flattenPairs pairs))
      ExceptT.lift (Host.quoteList var.session ["array", "set", var.name, contents])

def isBuiltin (var : Var) : Host H N Bool :=
  Host.isBuiltinVar var.session var.name

end TclHost.Var
