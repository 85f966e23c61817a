/-!
Completion codes of an evaluation.
-/

namespace TclHost

def statusName (code : Int) : String :=
  if code = 0 then "TCL_OK"
  else if code = 1 then "TCL_ERROR"
  else if code = 2 then "TCL_RETURN"
  else if code = 3 then "TCL_BREAK"
  else if code = 4 then "TCL_CONTINUE"
  else "unknown"

inductive Completion where
  | success
  | error
  | other (code : Int)
  deriving DecidableEq, Repr

def Completion.ofCode (code : Int) : Completion :=
  if code = 0 then .success else if code = 1 then .error else .other code

end TclHost
