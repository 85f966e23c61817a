import TclHost.Host.Script

/-!
Host commands of a session. A registered command is reached through the send command; an exposed
one has in addition an alias of its own name in the interpreter.
-/

namespace TclHost.Host

variable {H N : Type}

def register (session : SessionId) (name : String) (handler : H) : Attempt H N Unit := do
  if name.toList.contains '\x00' then throw (.invalidName name)
  let _existed : Bool ← ExceptT.lift (insertCommand session name handler)

def expose (session : SessionId) (name : String) (handler : H) : Attempt H N Unit := do
  register session name handler
  let created ← ExceptT.lift
    (invoke session ["interp", "alias", "", name, "", sendCommand, name]).run
  match created with
  | .ok _ => return
  | .error cause => do
      let _existed : Bool ← ExceptT.lift (eraseCommand session name)
      throw cause

def unexpose (session : SessionId) (name : String) : Attempt H N Bool := do
  let existed : Bool ← ExceptT.lift (eraseCommand session name)
  if !existed then return false
  let delete ← ExceptT.lift (quoteList session ["interp", "alias", "", name, ""])
  let _caught ← invoke session ["catch", delete]
  return true

def commandNames (session : SessionId) : Host H N (List String) := do
  let state : Session H ← inspect session
  return state.commands.names

end TclHost.Host
