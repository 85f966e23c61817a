import TclHost.Host.Command
import TclHost.Host.ScriptFile
import TclHost.Host.Serialise
import TclHost.Scenario.Step

/-!
Taking scripted steps on sessions. A step inside a handler works on the session that runs the
handler unless it names another.
-/

namespace TclHost.Scenario

abbrev SessionWork (α : Type) := Host SessionHandler SessionNote α
abbrev SessionAttempt (α : Type) := Attempt SessionHandler SessionNote α

structure Actor where
  session : Option SessionId := none
  arguments : List String := []

def Actor.script (actor : Actor) : Source → String
  | .text script => script
  | .argument index => actor.arguments[index]?.getD ""

def attempt {α : Type} (work : SessionAttempt α) (view : α → Shown) :
    SessionWork (Except Fault Shown) := do
  match ← work.run with
  | .ok value => return .ok (view value)
  | .error cause => return .error (.error cause)

def report {α : Type} (work : SessionWork α) (view : α → Shown) :
    SessionWork (Except Fault Shown) := do
  return .ok (view (← work))

def succeed (value : Shown) : SessionWork (Except Fault Shown) :=
  return .ok value

def fail (fault : Fault) : SessionWork (Except Fault Shown) :=
  return .error fault

def showNothing {α : Type} (_ : α) : Shown := .nothing

def configOf (fromEnvironment : Config) : Opening → Config
  | .plain => fromEnvironment
  | .safe => fromEnvironment.withSafe true
  | .configured safe none => fromEnvironment.withSafe safe
  | .configured safe (some path) => (fromEnvironment.withSafe safe).withLibrary path

def openStep (name : String) (opening : Opening) : SessionWork (Except Fault Shown) := do
  let config ← Host.environmentConfig
  match ← (Host.openSession (configOf config opening)).run with
  | .error cause => fail (.error cause)
  | .ok session => do
      let state : Session SessionHandler ← Host.inspect session
      Host.putInterp name session
      Host.letGo
      succeed (.text state.stage.name)

def openWithFilesStep (name : String) (paths : List String) :
    SessionWork (Except Fault Shown) := do
  let config ← Host.environmentConfig
  match ← (Host.openWithFiles config paths).run with
  | .error cause => fail (.error cause)
  | .ok session => do
      Host.putInterp name session
      Host.letGo
      succeed .nothing

def dropStep (name : String) : SessionWork (Except Fault Shown) := do
  let interp : Bool ← Host.dropInterp name
  let proc : Bool ← Host.dropProc name
  let var : Bool ← Host.dropVar name
  succeed (.truth (interp || proc || var))

def storeStep {α : Type} (work : SessionAttempt α) (put : α → SessionWork Unit) :
    SessionWork (Except Fault Shown) :=
  attempt (do let found ← work; ExceptT.lift (put found)) showNothing

def procStep (name : String) (work : Proc → SessionWork (Except Fault Shown)) :
    SessionWork (Except Fault Shown) := do
  let found : Option Proc ← Host.takeProc name
  match found with
  | none => fail .noHandle
  | some proc => do
      let result ← work proc
      Host.letGo
      return result

def varStep (name : String) (work : Var → SessionWork (Except Fault Shown)) :
    SessionWork (Except Fault Shown) := do
  let found : Option Var ← Host.takeVar name
  match found with
  | none => fail .noHandle
  | some var => do
      let result ← work var
      Host.letGo
      return result

def interpStep (actor : Actor) (makes : Option String) (session : SessionId) :
    Action SessionStep → SessionWork (Except Fault Shown)
  | .clone => report (Host.putInterp (makes.getD "i") session) showNothing
  | .eval source => attempt (Host.eval session (actor.script source)) .text
  | .tryEval source => attempt (Host.evaluate? session (actor.script source)) ofOption
  | .invoke words => attempt (Host.invokeWords session words) .text
  | .quoteList words => report (Host.quoteWords session words) .text
  | .splitList list => report (Host.splitList session list) fun (items : Option (List String)) =>
      match items with
      | some items => .texts items
      | none => .nothing
  | .result => report (Host.result session) .text
  | .stage => report (Host.inspect session) fun (state : Session SessionHandler) =>
      .text state.stage.name
  | .isSafe => report (Host.inspect session) fun (state : Session SessionHandler) =>
      .truth state.safe
  | .commandNames => report (Host.commandNames session) .texts
  | .procs => attempt (Host.procs session) .texts
  | .vars => attempt (Host.vars session) .texts
  | .serialise => attempt (Host.serialise session) .text
  | .describe => report (Host.inspect session) fun (state : Session SessionHandler) =>
      .text state.describe
  | .makeSafe => attempt (Host.makeSafe session) showNothing
  | .expose name handler => attempt (Host.expose session name handler) showNothing
  | .register name handler => attempt (Host.register session name handler) showNothing
  | .unexpose name => attempt (Host.unexpose session name) .truth
  | .setReceiver receiver => report (Host.setReceiver session receiver) showNothing
  | .loadFiles paths => attempt (Host.loadFiles session paths) .text
  | .findProc name => storeStep (Host.findProc session name) (Host.putProc (makes.getD "p"))
  | .defineProc name parameters body =>
      storeStep (Host.defineProc session name parameters body) (Host.putProc (makes.getD "p"))
  | .findVar name => storeStep (Host.findVar session name) (Host.putVar (makes.getD "v"))
  | .setVar name value =>
      storeStep (Host.setVar session name value) (Host.putVar (makes.getD "v"))
  | _ => fail .badStep

def actionStep (actor : Actor) (on makes : Option String) (target : Option SessionId) :
    Action SessionStep → SessionWork (Except Fault Shown)
  | .openSession opening => openStep (makes.getD "i") opening
  | .openWithFiles paths => openWithFilesStep (makes.getD "i") paths
  | .drop => dropStep (on.getD "i")
  | .procName => procStep (on.getD "i") fun proc => succeed (.text proc.name)
  | .procParameters => procStep (on.getD "i") fun proc => attempt proc.parameters .texts
  | .procBody => procStep (on.getD "i") fun proc => attempt proc.body .text
  | .procDefault parameter =>
      procStep (on.getD "i") fun proc => attempt (proc.defaultOf parameter) ofOption
  | .procCall arguments => procStep (on.getD "i") fun proc => attempt (proc.callWith arguments) .text
  | .procScript => procStep (on.getD "i") fun proc => attempt proc.script .text
  | .procIsBuiltin => procStep (on.getD "i") fun proc => report proc.isBuiltin .truth
  | .procDescribe => procStep (on.getD "i") fun proc =>
      report (Host.inspect proc.session) fun (state : Session SessionHandler) =>
        .text (proc.describe state.describe)
  | .procUnknown => procStep (on.getD "i") fun _ => fail .badStep
  | .varName => varStep (on.getD "i") fun var => succeed (.text var.name)
  | .varKind => varStep (on.getD "i") fun var => succeed (.text var.kind.name)
  | .varValue => varStep (on.getD "i") fun var => attempt var.value .text
  | .varElements => varStep (on.getD "i") fun var => attempt var.elements .pairs
  | .varScript => varStep (on.getD "i") fun var => attempt var.script .text
  | .varIsBuiltin => varStep (on.getD "i") fun var => report var.isBuiltin .truth
  | .varDescribe => varStep (on.getD "i") fun var =>
      report (Host.inspect var.session) fun (state : Session SessionHandler) =>
        .text (var.describe state.describe)
  | .varUnknown => varStep (on.getD "i") fun _ => fail .badStep
  | action =>
      match target with
      | none => fail .noHandle
      | some session => interpStep actor makes session action

def stageOf (target : Option SessionId) : SessionWork (Option Stage) := do
  match target with
  | none => return none
  | some session =>
      let state : Session SessionHandler ← Host.inspect session
      return some state.stage

/-- Takes one step. The session it works on is held until the step is over, so that its stage can
be told even if the step dropped the handle. -/
def SessionStep.take (actor : Actor) : SessionStep → SessionWork Answer
  | .step on makes _ action => do
      match on, actor.session with
      | none, some session =>
          let result ← actionStep actor on makes (some session) action
          return ⟨result, ← stageOf (some session)⟩
      | _, _ =>
          let target : Option SessionId ← Host.takeInterp (on.getD "i")
          let result ← actionStep actor on makes target action
          let stage ← stageOf target
          if target.isSome then Host.letGo
          return ⟨result, stage⟩

def sessionOutcome (session : SessionId) (arguments : List String)
    (last : Option (Except Fault Shown)) : Ending → SessionWork Outcome
  | .quoteArguments => do
      let list : String ← Host.quoteList session arguments
      return .value list
  | .value text => return .value text
  | .join separator => return .value (String.intercalate separator arguments)
  | .fail message => return .error (.failed message)
  | .exit status => return .error (.exit status)
  | .panic message => return .panic message
  | .last => return lastOutcome last

def sessionSteps (session : SessionId) (arguments : List String) (ending : Ending) :
    Option (Except Fault Shown) → List SessionStep → SessionWork Outcome
  | last, [] => sessionOutcome session arguments last ending
  | _, step :: rest => do
      let answer ← step.take { session, arguments }
      Host.note (.took answer)
      match answer.result, step.isStrict with
      | .error fault, true => return .error fault.toCommandError
      | result, _ => sessionSteps session arguments ending (some result) rest

def sessionBehaviour (handler : SessionHandler) (session : SessionId) (arguments : List String) :
    SessionWork Outcome := do
  Host.note (.called handler.label arguments)
  sessionSteps session arguments handler.ending none handler.steps

end TclHost.Scenario
