import TclHost.Host.Proc
import TclHost.Host.Var

/-!
The script that recreates what a session's user has defined: variables first, then procedures, each
in the order of their names, one command a line.
-/

namespace TclHost.Host

variable {H N : Type}

def sortNames (names : List String) : List String :=
  names.mergeSort fun left right => left ≤ right

def linesOf (line : String → Attempt H N (Option String)) :
    List String → Attempt H N (List String)
  | [] => return []
  | name :: rest => do
      match ← line name with
      | none => linesOf line rest
      | some text => return text :: (← linesOf line rest)

def varLine (session : SessionId) (name : String) : Attempt H N (Option String) := do
  if ← ExceptT.lift (isBuiltinVar session name) then return none
  if !(← varExists session name) then return none
  let var ← findVar session name
  return some (← var.script)

def procLine (session : SessionId) (name : String) : Attempt H N (Option String) := do
  let proc ← findProc session name
  if ← ExceptT.lift proc.isBuiltin then return none
  return some (← proc.script)

def serialise (session : SessionId) : Attempt H N String := do
  let varLines ← linesOf (varLine session) (sortNames (← vars session))
  let procLines ← linesOf (procLine session) (sortNames (← procs session))
  return String.intercalate "\n" (varLines ++ procLines)

end TclHost.Host
