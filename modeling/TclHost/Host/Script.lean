import TclHost.Host.Request
import TclHost.Word

/-!
Evaluating scripts. A command is handed over as a list of words, so that each word arrives as one
argument whatever characters it holds.
-/

namespace TclHost.Host

variable {H N : Type}

def eval (session : SessionId) (script : String) : Attempt H N String := do
  return (← evaluate? session script).getD ""

def invoke (session : SessionId) (words : List String) : Attempt H N String := do
  let script ← ExceptT.lift (quoteList session words)
  eval session script

def quoteWords (session : SessionId) (words : List Word) : Host H N String :=
  quoteList session (words.map Word.render)

def invokeWords (session : SessionId) (words : List Word) : Attempt H N String :=
  invoke session (words.map Word.render)

def splitLenient (session : SessionId) (list : String) : Host H N (List String) := do
  let elements : Option (List String) ← splitList session list
  return elements.getD []

def listResult (session : SessionId) (script : String) : Attempt H N (List String) := do
  let list ← eval session script
  ExceptT.lift (splitLenient session list)

def procs (session : SessionId) : Attempt H N (List String) :=
  listResult session "info procs"

def vars (session : SessionId) : Attempt H N (List String) :=
  listResult session "info vars"

def environmentConfig : Host H N Config := do
  let lookup : String → Option String ← environment
  return Config.ofLookup lookup

end TclHost.Host
