import TclHost.Scenario.Handler
import TclHost.Session
import TclHost.Word

/-!
Scripted steps on sessions. Steps name the handles they work on and the handles they make.
-/

namespace TclHost.Scenario

inductive Opening where
  | plain
  | safe
  | configured (safe : Bool) (library : Option String)
  deriving Repr

inductive Source where
  | text (script : String)
  | argument (index : Nat)
  deriving Repr

inductive Action (Step : Type) where
  | openSession (opening : Opening)
  | openWithFiles (paths : List String)
  | clone
  | drop
  | eval (source : Source)
  | tryEval (source : Source)
  | invoke (words : List Word)
  | quoteList (words : List Word)
  | splitList (list : String)
  | result
  | stage
  | isSafe
  | commandNames
  | procs
  | vars
  | serialise
  | describe
  | makeSafe
  | expose (name : String) (handler : Handler Step)
  | register (name : String) (handler : Handler Step)
  | unexpose (name : String)
  | setReceiver (receiver : Option (Handler Step))
  | loadFiles (paths : List String)
  | findProc (name : String)
  | defineProc (name : String) (parameters : List Word) (body : String)
  | findVar (name : String)
  | setVar (name value : String)
  | procName
  | procParameters
  | procBody
  | procDefault (parameter : String)
  | procCall (arguments : List Word)
  | procScript
  | procIsBuiltin
  | procDescribe
  | procUnknown
  | varName
  | varKind
  | varValue
  | varElements
  | varScript
  | varIsBuiltin
  | varDescribe
  | varUnknown
  | unknown

inductive SessionStep where
  | step (on : Option String) (makes : Option String) (strict : Bool) (action : Action SessionStep)

instance : Inhabited SessionStep := ⟨.step none none false .unknown⟩

abbrev SessionHandler := Handler SessionStep

def SessionStep.isStrict : SessionStep → Bool
  | .step _ _ strict _ => strict

structure Answer where
  result : Except Fault Shown
  stage : Option Stage

inductive SessionNote where
  | called (label : Option String) (arguments : List String)
  | took (answer : Answer)

end TclHost.Scenario
