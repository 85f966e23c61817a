import TclHost.CommandTable
import TclHost.Engine
import TclHost.Status

/-!
What the host keeps about one session: its stage, how deep its evaluations are nested, and the
exit that a handler has asked for.
-/

namespace TclHost

abbrev SessionId := InterpId

inductive Stage where
  | fresh
  | ready
  | exiting
  deriving DecidableEq, Repr

def Stage.name : Stage → String
  | .fresh => "Fresh"
  | .ready => "Ready"
  | .exiting => "Exiting"

structure PendingExit where
  status : Int
  depth : Nat
  deriving DecidableEq, Repr

structure Builtins where
  procs : List String
  vars : List String
  deriving DecidableEq, Repr

structure Session (H : Type) where
  stage : Stage := .fresh
  safe : Bool := false
  depth : Nat := 0
  pending : Option PendingExit := none
  commands : CommandTable H := {}
  builtins : Option Builtins := none
  deriving Inhabited

namespace Session

variable {H : Type}

def enter (session : Session H) : Session H :=
  { session with depth := session.depth + 1 }

def leave (session : Session H) : Session H :=
  { session with depth := session.depth - 1 }

/-- There is one pending exit at most: a later request replaces an earlier one. -/
def requestExit (session : Session H) (status : Int) : Session H :=
  { session with pending := some ⟨status, session.depth⟩, stage := .exiting }

def exitAt? (session : Session H) (depth : Nat) : Option Int :=
  match session.pending with
  | some exit => if depth ≤ exit.depth then some exit.status else none
  | none => none

def dropExit (session : Session H) (depth : Nat) : Session H :=
  match session.exitAt? depth with
  | some _ => { session with pending := none, stage := .ready }
  | none => session

def answer (session : Session H) (outcome : Outcome) : Session H :=
  match outcome.exitStatus? with
  | some status => session.requestExit status
  | none => session

def exitStatus? (session : Session H) (depth : Nat) : Completion → Option Int
  | .error => session.exitAt? depth
  | _ => none

def settle (session : Session H) (depth : Nat) : Completion → Session H
  | .error => session
  | _ => session.dropExit depth

def terminate (session : Session H) : Session H :=
  { session with pending := none, stage := .exiting }

@[simp] theorem exitAt?_dropExit (session : Session H) (depth : Nat) :
    (session.dropExit depth).exitAt? depth = none := by
  cases pending : session.exitAt? depth with
  | none => simp [dropExit, pending]
  | some status =>
      simp only [dropExit, pending]
      rfl

def describe (session : Session H) : String :=
  "Interp \x7b state: " ++ session.stage.name ++ ", safe: " ++ toString session.safe ++
    ", depth: " ++ toString session.depth ++ ", .. \x7d"

end Session

end TclHost
