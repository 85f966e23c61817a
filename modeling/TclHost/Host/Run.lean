import TclHost.Host.Request
import TclHost.Process
import TclHost.World

/-!
What requests do. Evaluating a script enters the library, which may run the host's command and
with it another program; `Dispatch` stands for that way back, and fuel bounds how often it can be
taken within itself.
-/

namespace TclHost

structure Setup (σ H N : Type) where
  engine : Engine σ
  /-- The program of a handler, given the session that runs it and its arguments. -/
  behave : H → SessionId → List String → Host H N Outcome
  libraries : String → LibraryFile
  environment : String → Option String
  files : String → Except String (List UInt8)

abbrev Run (σ H N α : Type) : Type 1 :=
  Process (World σ H N) Halt α

abbrev Dispatch (σ H N : Type) : Type 1 :=
  InterpId → List Obj → Run σ H N Reply

namespace Run

variable {σ H N α : Type}

def stop (cause : Halt) : Run σ H N α :=
  Process.halt cause id

def call (call : Call σ N α) : Run σ H N α :=
  modifyGet fun world =>
    let (answer, scene) := call.run world.scene
    (answer, { world with scene })

def store : Run σ H N σ := do
  return (← get).scene.store

def setStore (store : σ) : Run σ H N Unit :=
  modify fun world => { world with scene := { world.scene with store } }

def emit (event : Event N) : Run σ H N Unit :=
  call (Call.emit event)

def update (session : SessionId) (change : Session H → Session H) : Run σ H N Unit :=
  modify fun world => world.update session change

def held (session : SessionId) : Run σ H N (Session H) := do
  let world ← get
  match world.sessions[session]? with
  | some state => if world.mayUse session then return state else stop (.unheld session)
  | none => stop (.unheld session)

theorem discard_held_bind (session : SessionId) (next : PUnit → Run σ H N α) :
    discard (held session) >>= next = held session >>= fun _ => next ⟨⟩ :=
  bind_assoc (held session) (fun _ => (pure ⟨⟩ : Run σ H N PUnit)) next

def follow (dispatch : Dispatch σ H N) : Reaction σ → Run σ H N Int
  | .finished code store => do
      setStore store
      return code
  | .callback interp words store resume => do
      setStore store
      emit (.called interp)
      let reply ← dispatch interp words
      emit (.sent interp reply)
      follow dispatch (resume reply.code (← Run.store))

/-- Takes a session down. It can no longer be reached when the interpreter is deleted, so a
callback from there runs no handler. -/
def tearDown (engine : Engine σ) (dispatch : Dispatch σ H N) (session : SessionId) :
    Run σ H N Unit := do
  modify (·.takeDown session)
  discard (follow dispatch (engine.delete session (← store)))
  call (Call.release engine session)

def sweep (engine : Engine σ) (dispatch : Dispatch σ H N) (session : SessionId) :
    Run σ H N Unit := do
  let world ← get
  if world.sessions.contains session && !world.holds session then
    tearDown engine dispatch session

def letGo (engine : Engine σ) (dispatch : Dispatch σ H N) : Run σ H N Unit := do
  let world ← get
  match world.frames with
  | frame :: rest =>
      match frame.kept with
      | session :: kept =>
          set { world with frames := { frame with kept } :: rest }
          sweep engine dispatch session
      | [] => return
  | [] => return

def dropKept (engine : Engine σ) (dispatch : Dispatch σ H N) : Run σ H N Unit := do
  match (← get).frames with
  | frame :: _ => frame.kept.forM fun _ => letGo engine dispatch
  | [] => return

def endFrame (engine : Engine σ) (dispatch : Dispatch σ H N) (caller : SessionId) :
    Run σ H N Unit := do
  modify fun world => { world with frames := world.frames.tail }
  sweep engine dispatch caller

/-- Decides what the end of an evaluation at this depth means for exits. After an error a pending
exit of this depth or a greater one ends the process; after anything else it is dropped. -/
def complete (session : SessionId) (depth : Nat) (code : Int) : Run σ H N Unit := do
  match (← get).sessions[session]?.bind (·.exitStatus? depth (Completion.ofCode code)) with
  | some status => Process.halt (.exited status) (·.terminate session code)
  | none => modify (·.complete session depth code)

def evaluationResult (engine : Engine σ) (session : SessionId) :
    Completion → Run σ H N (Except Error (Option String))
  | .success => return .ok (some (← call (Call.result engine session)))
  | .error => return .error (.eval (← call (Call.result engine session)))
  | .other _ => return .ok none

def evaluate (engine : Engine σ) (dispatch : Dispatch σ H N) (session : SessionId)
    (script : String) : Run σ H N (Except Error (Option String)) := do
  let bytes := Text.encode script
  modify (·.begin session bytes)
  let depth := (← get).depthOf session
  let code ← follow dispatch (engine.evaluate session bytes (← store))
  complete session depth code
  let answer ← evaluationResult engine session (Completion.ofCode code)
  modify (·.leave session)
  return answer

def makeSafe (engine : Engine σ) (dispatch : Dispatch σ H N) (session : SessionId) :
    Run σ H N (Except Error Unit) := do
  if (← get).sessions[session]?.any (·.safe) then return .ok ()
  emit (.makeSafe session)
  let code ← follow dispatch (engine.makeSafe session (← store))
  modify (·.restrict session code)
  if code ≠ 0 then return .error (.eval (← call (Call.result engine session)))
  return .ok ()

def listResult (engine : Engine σ) (dispatch : Dispatch σ H N) (session : SessionId)
    (script : String) : ExceptT Error (Run σ H N) (List String) := do
  let text ← ExceptT.mk (evaluate engine dispatch session script)
  let items ← ExceptT.lift (call (Call.splitList engine session (text.getD "")))
  return items.getD []

def prepare (engine : Engine σ) (dispatch : Dispatch σ H N) (session : SessionId) (safe : Bool) :
    ExceptT Error (Run σ H N) Unit := do
  let procs ← listResult engine dispatch session "info procs"
  let vars ← listResult engine dispatch session "info vars"
  ExceptT.lift (update session fun state => { state with builtins := some ⟨procs, vars⟩ })
  if safe then ExceptT.mk (makeSafe engine dispatch session)
  ExceptT.lift (modify (·.ready session))

/-- Asks for an interpreter and sets it up far enough to run scripts. A failed initialisation is
tolerated: the session then lacks the library of scripts. -/
def allocate (engine : Engine σ) : Run σ H N (Except Error SessionId) := do
  let session := (← get).created
  modify fun world => { world with created := session + 1 }
  if !(← call (Call.create engine session)) then return .error .createFailed
  discard (call (Call.init engine session))
  call (Call.preserve engine session)
  modify (·.enrol session)
  call (Call.createCommand engine session sendCommand)
  return .ok session

def handOut (engine : Engine σ) (dispatch : Dispatch σ H N) (session : SessionId) (safe : Bool) :
    Run σ H N (Except Error SessionId) := do
  match ← (prepare engine dispatch session safe).run with
  | .error cause =>
      letGo engine dispatch
      return .error cause
  | .ok () => return .ok session

def openSession (setup : Setup σ H N) (dispatch : Dispatch σ H N) (config : Config) :
    Run σ H N (Except Error SessionId) := do
  let (outcome, library) := (← get).library.load setup.libraries config
  modify fun world => { world with library }
  match outcome with
  | .error cause => return .error (.load cause)
  | .ok _ =>
      match ← allocate setup.engine with
      | .error cause => return .error cause
      | .ok session => handOut setup.engine dispatch session config.safe

def sweepReplaced (engine : Engine σ) (dispatch : Dispatch σ H N) :
    Option SessionId → Run σ H N Unit
  | none => return
  | some session => sweep engine dispatch session

def dropInterp (engine : Engine σ) (dispatch : Dispatch σ H N) (name : String) :
    Run σ H N Bool := do
  let desk := (← get).desk
  match desk.interps[name]? with
  | none => return false
  | some session =>
      modify fun world => { world with desk.interps := desk.interps.erase name }
      sweep engine dispatch session
      return true

def dropProc (engine : Engine σ) (dispatch : Dispatch σ H N) (name : String) :
    Run σ H N Bool := do
  let desk := (← get).desk
  match desk.procs[name]? with
  | none => return false
  | some proc =>
      modify fun world => { world with desk.procs := desk.procs.erase name }
      sweep engine dispatch proc.session
      return true

def dropVar (engine : Engine σ) (dispatch : Dispatch σ H N) (name : String) :
    Run σ H N Bool := do
  let desk := (← get).desk
  match desk.vars[name]? with
  | none => return false
  | some var =>
      modify fun world => { world with desk.vars := desk.vars.erase name }
      sweep engine dispatch var.session
      return true

def clearInterps (engine : Engine σ) (dispatch : Dispatch σ H N) : Run σ H N Unit := do
  (← get).desk.interps.keys.forM fun name => discard (dropInterp engine dispatch name)

def clearProcs (engine : Engine σ) (dispatch : Dispatch σ H N) : Run σ H N Unit := do
  (← get).desk.procs.keys.forM fun name => discard (dropProc engine dispatch name)

def clearVars (engine : Engine σ) (dispatch : Dispatch σ H N) : Run σ H N Unit := do
  (← get).desk.vars.keys.forM fun name => discard (dropVar engine dispatch name)

def perform (setup : Setup σ H N) (dispatch : Dispatch σ H N) :
    (request : Request H N) → Run σ H N request.Answer
  | .evaluate session script => do
      discard (held session)
      evaluate setup.engine dispatch session script
  | .makeSafe session => do
      discard (held session)
      makeSafe setup.engine dispatch session
  | .result session => do
      discard (held session)
      call (Call.result setup.engine session)
  | .quoteList session words => do
      discard (held session)
      call (Call.quoteList setup.engine session words)
  | .splitList session list => do
      discard (held session)
      call (Call.splitList setup.engine session list)
  | .inspect session => held session
  | .insertCommand session name handler => do
      let state ← held session
      update session fun state => { state with commands := state.commands.insert name handler }
      return state.commands.contains name
  | .eraseCommand session name => do
      let state ← held session
      update session fun state => { state with commands := state.commands.erase name }
      return state.commands.contains name
  | .setReceiver session receiver => do
      discard (held session)
      update session fun state => { state with commands := state.commands.withReceiver receiver }
  | .openSession config => openSession setup dispatch config
  | .takeInterp name => do
      match (← get).desk.interps[name]? with
      | none => return none
      | some session =>
          modify (·.keep session)
          return some session
  | .takeProc name => do
      match (← get).desk.procs[name]? with
      | none => return none
      | some proc =>
          modify (·.keep proc.session)
          return some proc
  | .takeVar name => do
      match (← get).desk.vars[name]? with
      | none => return none
      | some var =>
          modify (·.keep var.session)
          return some var
  | .letGo => letGo setup.engine dispatch
  | .putInterp name session => do
      discard (held session)
      let desk := (← get).desk
      modify fun world => { world with desk.interps := desk.interps.insert name session }
      sweepReplaced setup.engine dispatch desk.interps[name]?
  | .putProc name proc => do
      discard (held proc.session)
      let desk := (← get).desk
      modify fun world => { world with desk.procs := desk.procs.insert name proc }
      sweepReplaced setup.engine dispatch (desk.procs[name]?.map Proc.session)
  | .putVar name var => do
      discard (held var.session)
      let desk := (← get).desk
      modify fun world => { world with desk.vars := desk.vars.insert name var }
      sweepReplaced setup.engine dispatch (desk.vars[name]?.map Var.session)
  | .dropInterp name => dropInterp setup.engine dispatch name
  | .dropProc name => dropProc setup.engine dispatch name
  | .dropVar name => dropVar setup.engine dispatch name
  | .environment => return setup.environment
  | .readFile path =>
      return match setup.files path with
      | .error cause => .error cause
      | .ok bytes =>
          match Text.decodeStrict? bytes with
          | none => .error "stream did not contain valid UTF-8"
          | some text => .ok text
  | .note entry => emit (.note entry)

def runHandler (setup : Setup σ H N) (dispatch : Dispatch σ H N) (session : SessionId)
    (words : List String) : Run σ H N Outcome := do
  let commands := match (← get).sessions[session]? with
    | some state => state.commands
    | none => {}
  match commands.route words with
  | .nowhere message => return .error (.failed message)
  | .handler handler arguments =>
      (setup.behave handler session arguments).run (perform setup dispatch)

def answerCall (setup : Setup σ H N) (dispatch : Dispatch σ H N) (session : SessionId)
    (words : List Obj) : Run σ H N Outcome := do
  modify fun world => { world with frames := { caller := some session } :: world.frames }
  let arguments ← call (words.tail.mapM fun word => Call.text setup.engine (some word))
  let outcome ← runHandler setup dispatch session arguments
  dropKept setup.engine dispatch
  modify (·.answer session outcome)
  call (Call.setResult setup.engine session (Reply.outcome outcome).text)
  endFrame setup.engine dispatch session
  return outcome

def dispatch (setup : Setup σ H N) : Nat → Dispatch σ H N
  | 0, _, _ => stop .outOfFuel
  | fuel + 1, session, words => do
      if (← get).sessions.contains session then
        return .outcome (← answerCall setup (dispatch setup fuel) session words)
      else
        call (Call.setResult setup.engine session Reply.gone.text)
        return .gone

end Run

def Host.run {σ H N α : Type} (setup : Setup σ H N) (fuel : Nat) (program : Host H N α) :
    Run σ H N α :=
  Program.run (Run.perform setup (Run.dispatch setup fuel)) program

end TclHost
