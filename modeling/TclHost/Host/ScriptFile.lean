import TclHost.Host.Script

/-!
Loading script files. All files are read before anything is evaluated.
-/

namespace TclHost.Host

variable {H N : Type}

def readScripts : List String → Attempt H N String
  | [] => return ""
  | path :: rest => do
      let content : Except String String ← ExceptT.lift (readFile path)
      match content with
      | .error cause => throw (.unreadable path cause)
      | .ok text => return text ++ "\n" ++ (← readScripts rest)

def loadFiles (session : SessionId) (paths : List String) : Attempt H N String := do
  eval session (← readScripts paths)

def openWithFiles (config : Config) (paths : List String) : Attempt H N SessionId := do
  let session ← openSession config
  match ← ExceptT.lift (loadFiles session paths).run with
  | .ok _ => return session
  | .error cause => do
      ExceptT.lift letGo
      throw cause

end TclHost.Host
