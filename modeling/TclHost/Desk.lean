import Std.Data.TreeMap
import TclHost.Session
import TclHost.Text.Quoted

/-!
Handles. Whoever holds an interpreter, a procedure or a variable keeps its session alive. The desk
is where programs leave handles under a name, one name space for each kind.
-/

namespace TclHost

structure Proc where
  session : SessionId
  name : String
  deriving DecidableEq, Repr

inductive VarKind where
  | scalar
  | array
  deriving DecidableEq, Repr

def VarKind.name : VarKind → String
  | .scalar => "Scalar"
  | .array => "Array"

structure Var where
  session : SessionId
  name : String
  kind : VarKind
  deriving DecidableEq, Repr

def Proc.describe (proc : Proc) (session : String) : String :=
  "Proc \x7b interp: " ++ session ++ ", name: " ++ Text.quoted proc.name ++ " \x7d"

def Var.describe (var : Var) (session : String) : String :=
  "Var \x7b interp: " ++ session ++ ", name: " ++ Text.quoted var.name ++ ", kind: " ++
    var.kind.name ++ " \x7d"

structure Desk where
  interps : Std.TreeMap String SessionId := ∅
  procs : Std.TreeMap String Proc := ∅
  vars : Std.TreeMap String Var := ∅
  deriving Inhabited

def Desk.holds (desk : Desk) (session : SessionId) : Bool :=
  desk.interps.toList.any (·.2 = session) ||
    desk.procs.toList.any (·.2.session = session) ||
    desk.vars.toList.any (·.2.session = session)

theorem Desk.holds_iff (desk : Desk) (session : SessionId) :
    desk.holds session = true ↔
      (∃ name : String, desk.interps[name]? = some session) ∨
      (∃ name : String, ∃ proc, desk.procs[name]? = some proc ∧ proc.session = session) ∨
      ∃ name : String, ∃ var, desk.vars[name]? = some var ∧ var.session = session := by
  simp [holds, or_assoc, Std.TreeMap.mem_toList_iff_getElem?_eq_some]

end TclHost
