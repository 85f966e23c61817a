import TclHost.Text.Quoted

/-!
Why an operation failed, and the text that reports it.
-/

namespace TclHost

inductive LoadError where
  | notFound (tried : List String)
  | openFailed (path reason : String)
  | missingSymbol (symbol reason : String)
  deriving DecidableEq, Repr

def LoadError.message : LoadError → String
  | .notFound tried => "Tcl library not found (tried: " ++ String.intercalate ", " tried ++ ")"
  | .openFailed path reason => "failed to open " ++ path ++ ": " ++ reason
  | .missingSymbol symbol reason => "symbol '" ++ symbol ++ "' not found: " ++ reason

inductive Error where
  | eval (text : String)
  | load (cause : LoadError)
  | createFailed
  | invalidName (name : String)
  | unreadable (path cause : String)
  deriving DecidableEq, Repr

def Error.message : Error → String
  | .eval text => text
  | .load cause => cause.message
  | .createFailed => "Tcl_CreateInterp returned no interpreter"
  | .invalidName name => "invalid command name " ++ Text.quoted name
  | .unreadable path cause => "cannot read " ++ path ++ ": " ++ cause

def Error.evalMessage? : Error → Option String
  | .eval text => some text
  | _ => none

def Error.cause? : Error → Option String
  | .unreadable _ cause => some cause
  | _ => none

inductive CommandError where
  | failed (message : String)
  /-- The process is to end with this status once control returns to the evaluation that ran the
  command. -/
  | exit (status : Int)
  deriving DecidableEq, Repr

def CommandError.message : CommandError → String
  | .failed message => message
  | .exit status => "exit " ++ toString status

def CommandError.ofError (error : Error) : CommandError :=
  .failed error.message

def CommandError.describe : CommandError → String
  | .failed message => "Failed(" ++ Text.quoted message ++ ")"
  | .exit status => "Exit(" ++ toString status ++ ")"

inductive Outcome where
  | value (text : String)
  | error (cause : CommandError)
  /-- The handler broke off; the text is absent where the payload was none. -/
  | panic (message : Option String)
  deriving DecidableEq, Repr

def Outcome.exitStatus? : Outcome → Option Int
  | .error (.exit status) => some status
  | _ => none

def panicText (message : Option String) : String :=
  message.getD "unknown panic"

end TclHost
