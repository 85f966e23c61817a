import TclHost.Files
import TclHost.Host.Run
import TclHost.Scenario.SessionScript
import TclHost.Scripted.Engine

/-!
Whole runs: scripted steps on sessions of a scripted library, with the record of each step.
-/

namespace TclHost.Scenario

structure Surroundings where
  roles : List Scripted.Role := []
  noLists : Bool := false
  environment : String → Option String := fun _ => none
  files : Files.Tree (List UInt8) := []

abbrev SessionWorld := World Scripted.State SessionHandler SessionNote

def Surroundings.setup (surroundings : Surroundings) :
    Setup Scripted.State SessionHandler SessionNote where
  engine := Scripted.engine (fun id => surroundings.roles[id]?.getD {}) surroundings.noLists
  behave := sessionBehaviour
  libraries _ := .complete
  environment := surroundings.environment
  files path :=
    match surroundings.files.read path with
    | .ok bytes => .ok bytes
    | .error problem => .error problem.message

def initialWorld : SessionWorld where
  scene := { store := {} }
  library := { outcome := some (.ok "libtcl8.6.so") }

inductive StepReport where
  | answered (answer : Answer) (events : List (Event SessionNote))
  | ended (events : List (Event SessionNote)) (live : Nat)
  | exited (status : Int) (events : List (Event SessionNote))
  | stopped (halt : Halt) (events : List (Event SessionNote))

def StepReport.events : StepReport → List (Event SessionNote)
  | .answered _ events | .ended events _ | .exited _ events | .stopped _ events => events

def exitByte (status : Int) : Int :=
  status % 256

def clearEvents (world : SessionWorld) : SessionWorld :=
  { world with scene := { world.scene with events := #[] } }

abbrev SessionRun (α : Type) := Run Scripted.State SessionHandler SessionNote α

def clearDesk (setup : Setup Scripted.State SessionHandler SessionNote) (fuel : Nat) :
    SessionRun Unit := do
  Run.clearProcs setup.engine (Run.dispatch setup fuel)
  Run.clearVars setup.engine (Run.dispatch setup fuel)
  Run.clearInterps setup.engine (Run.dispatch setup fuel)

/-- When the process ends the handles of interpreters are dropped first. Programs that were running
then hold on to their sessions. -/
def abandonDesk (setup : Setup Scripted.State SessionHandler SessionNote) (fuel : Nat) :
    SessionRun Unit := do
  Run.clearInterps setup.engine (Run.dispatch setup fuel)
  Run.clearProcs setup.engine (Run.dispatch setup fuel)
  Run.clearVars setup.engine (Run.dispatch setup fuel)

def closeWorld (work : SessionRun Unit) (world : SessionWorld) : SessionWorld :=
  match work.exec world with
  | .ok _ world | .error _ world => world

def runSteps (surroundings : Surroundings) (fuel : Nat) :
    List SessionStep → SessionWorld → List StepReport
  | [], world =>
      let world := closeWorld (clearDesk surroundings.setup fuel) world
      [.ended world.scene.events.toList world.scene.store.live]
  | step :: rest, world =>
      match (Host.run surroundings.setup fuel (step.take {})).exec world with
      | .ok answer world =>
          .answered answer world.scene.events.toList ::
            runSteps surroundings fuel rest (clearEvents world)
      | .error (.exited status) world =>
          let world := closeWorld (abandonDesk surroundings.setup fuel) world
          [.exited (exitByte status) world.scene.events.toList]
      | .error halt world => [.stopped halt world.scene.events.toList]

def runSession (surroundings : Surroundings) (fuel : Nat) (steps : List SessionStep) :
    List StepReport :=
  runSteps surroundings fuel steps initialWorld

def objectNumber (mentioned : List Obj) (object : Obj) : Nat :=
  mentioned.idxOf object + 1

def mentionedObjects (reports : List StepReport) : List Obj :=
  (reports.flatMap fun report => report.events.flatMap Event.objects).eraseDups

end TclHost.Scenario
