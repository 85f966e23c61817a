import TclHost.Host.Script

/-!
Global procedures: looking them up, calling them, and the command that defines one again.
-/

namespace TclHost.Host

variable {H N : Type}

/-- Applied to a procedure and a parameter it yields `1` and the default, or `0` without one. -/
def defaultLambda : String :=
  "\x7bproc arg\x7d " ++
    "\x7bif \x7b[info default $proc $arg value]\x7d \x7blist 1 $value\x7d else \x7blist 0\x7d\x7d"

def findProc (session : SessionId) (name : String) : Attempt H N Proc := do
  let _parameters ← invoke session ["info", "args", name]
  return ⟨session, name⟩

def defineProc (session : SessionId) (name : String) (parameters : List Word) (body : String) :
    Attempt H N Proc := do
  let list ← ExceptT.lift (quoteWords session parameters)
  let _nothing ← invoke session ["proc", name, list, body]
  findProc session name

def isSnapshotProc (session : SessionId) (name : String) : Host H N Bool := do
  let state : Session H ← inspect session
  return state.builtins.any (·.procs.contains name)

end TclHost.Host

namespace TclHost.Proc

variable {H N : Type}

def parameters (proc : Proc) : Attempt H N (List String) := do
  let list ← Host.invoke proc.session ["info", "args", proc.name]
  ExceptT.lift (Host.splitLenient proc.session list)

def body (proc : Proc) : Attempt H N String :=
  Host.invoke proc.session ["info", "body", proc.name]

def readDefault : List String → Option String
  | ["1", value] => some value
  | _ => none

def defaultOf (proc : Proc) (parameter : String) : Attempt H N (Option String) := do
  let reply ← Host.invoke proc.session ["apply", Host.defaultLambda, proc.name, parameter]
  let parts ← ExceptT.lift (Host.splitLenient proc.session reply)
  return readDefault parts

def callWith (proc : Proc) (arguments : List Word) : Attempt H N String :=
  Host.invoke proc.session (proc.name :: arguments.map Word.render)

def declarations (proc : Proc) : List String → Attempt H N (List String)
  | [] => return []
  | parameter :: rest => do
      let declaration ← match ← proc.defaultOf parameter with
        | some value => ExceptT.lift (Host.quoteList proc.session [parameter, value])
        | none => pure parameter
      return declaration :: (← proc.declarations rest)

def script (proc : Proc) : Attempt H N String := do
  let declared ← proc.declarations (← proc.parameters)
  let list ← ExceptT.lift (Host.quoteList proc.session declared)
  let body ← proc.body
  ExceptT.lift (Host.quoteList proc.session ["proc", proc.name, list, body])

/-- Whether the procedure was there from the start or is loaded on demand. A failing query counts
as not. -/
def isBuiltin (proc : Proc) : Host H N Bool := do
  if ← Host.isSnapshotProc proc.session proc.name then return true
  let index := "::auto_index(" ++ proc.name ++ ")"
  let reply ← (Host.invoke proc.session ["info", "exists", index]).run
  match reply with
  | .ok "1" => return true
  | _ => return false

end TclHost.Proc
