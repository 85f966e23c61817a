import TclHost.Host.Script
import TclHost.Proofs.Run.Request

/-!
What an evaluation answers once the library is done with the script, and that the library is given
the bytes of each script that a program asks to be evaluated.
-/

namespace TclHost

open Process

variable {σ H N α : Type}

def Completion.answer (text : String) : Completion → Except Error (Option String)
  | .success => .ok (some text)
  | .error => .error (.eval text)
  | .other _ => .ok none

theorem Call.result_eq {engine : Engine σ} {interp : InterpId} {scene : Scene σ N} {object : Obj}
    {store : σ} (given : engine.result interp scene.store = (some object, store)) :
    ((Call.result engine interp).run scene).1 =
        Text.decode (engine.bytes (some object) store).1 ∧
      ((Call.result engine interp).run scene).2.store = (engine.bytes (some object) store).2 := by
  have asked : (act (engine.result interp)).run scene =
      (some object, { scene with store }) := by
    rw [show (act (engine.result interp)).run scene = ((engine.result interp scene.store).1,
      { scene with store := (engine.result interp scene.store).2 }) from rfl, given]
  rw [result, StateT.run_bind, asked]
  exact ⟨rfl, rfl⟩

namespace Run

variable {engine : Engine σ} {dispatch : Dispatch σ H N} {world left : World σ H N}
  {session : SessionId} {script : String} {code : Int}

def submitted (engine : Engine σ) (dispatch : Dispatch σ H N) (session : SessionId)
    (bytes : List UInt8) (world : World σ H N) : EStateM.Result Halt (World σ H N) Int :=
  (follow dispatch (engine.evaluate session bytes (world.begin session bytes).scene.store)).exec
    (world.begin session bytes)

theorem exec_evaluationResult (engine : Engine σ) (session : SessionId) (completion : Completion)
    (world : World σ H N) :
    ∃ scene, (evaluationResult engine session completion).exec world =
      .ok (completion.answer ((Call.result engine session : Call σ N String).run world.scene).1)
        { world with scene } := by
  cases completion with
  | success => exact ⟨_, rfl⟩
  | error => exact ⟨_, rfl⟩
  | other other => exact ⟨world.scene, rfl⟩

/-- The library is done with the script, and no exit is due. -/
theorem exec_evaluate_settled {depth : Nat}
    (level : (world.begin session (Text.encode script)).depthOf session = depth)
    (followed : submitted engine dispatch session (Text.encode script) world = .ok code left)
    (unasked : left.sessions[session]?.bind (·.exitStatus? depth (Completion.ofCode code)) = none) :
    (evaluate engine dispatch session script).exec world =
      (do let answer ← evaluationResult engine session (Completion.ofCode code)
          modify (·.leave session)
          return answer : Run σ H N _).exec (left.complete session depth code) := by
  have completed : (complete session depth code : Run σ H N Unit).exec left =
      .ok () (left.complete session depth code) := by
    refine exec_bind_ok.mpr ⟨left, left, rfl, ?_⟩
    rw [unasked]
    rfl
  refine (exec_bind_of_ok rfl).trans ((exec_bind_of_ok rfl).trans ?_)
  refine (exec_bind_of_ok rfl).trans ((exec_bind_of_ok followed).trans ?_)
  rw [show _ = depth from level]
  exact exec_bind_of_ok completed

theorem exec_evaluate_ok {depth : Nat}
    (level : (world.begin session (Text.encode script)).depthOf session = depth)
    (followed : submitted engine dispatch session (Text.encode script) world = .ok code left)
    (unasked : left.sessions[session]?.bind (·.exitStatus? depth (Completion.ofCode code)) = none)
    (known : ∀ other, Completion.ofCode code ≠ .other other) :
    let told := (Call.result engine session : Call σ N String).run
      (left.complete session depth code).scene
    (evaluate engine dispatch session script).exec world =
      .ok ((Completion.ofCode code).answer told.1)
        (World.leave { left.complete session depth code with scene := told.2 } session) := by
  intro told
  rw [exec_evaluate_settled level followed unasked]
  cases completion : Completion.ofCode code with
  | success => rfl
  | error => rfl
  | other other => exact absurd completion (known other)

theorem exec_evaluate_answered {depth : Nat}
    (level : (world.begin session (Text.encode script)).depthOf session = depth)
    (followed : submitted engine dispatch session (Text.encode script) world = .ok code left)
    (unasked : left.sessions[session]?.bind (·.exitStatus? depth (Completion.ofCode code)) = none) :
    ∃ scene, (evaluate engine dispatch session script).exec world =
      .ok ((Completion.ofCode code).answer
          ((Call.result engine session : Call σ N String).run
            (left.complete session depth code).scene).1)
        (World.leave { left.complete session depth code with scene } session) := by
  obtain ⟨scene, told⟩ := exec_evaluationResult engine session (Completion.ofCode code)
    (left.complete session depth code)
  refine ⟨scene, ?_⟩
  rw [exec_evaluate_settled level followed unasked]
  exact exec_bind_of_ok told

theorem exec_evaluate_halted {cause : Halt}
    (followed : submitted engine dispatch session (Text.encode script) world = .error cause left) :
    (evaluate engine dispatch session script).exec world = .error cause left := by
  refine (exec_bind_of_ok rfl).trans ((exec_bind_of_ok rfl).trans ?_)
  refine (exec_bind_of_ok rfl).trans ?_
  rw [exec_bind, show (follow dispatch _).exec _ = _ from followed]

/-- The library is done with the script, and an exit is due. -/
theorem exec_evaluate_exited {depth : Nat} {status : Int}
    (level : (world.begin session (Text.encode script)).depthOf session = depth)
    (followed : submitted engine dispatch session (Text.encode script) world = .ok code left)
    (asked : left.sessions[session]?.bind (·.exitStatus? depth (Completion.ofCode code)) =
      some status) :
    (evaluate engine dispatch session script).exec world =
      .error (.exited status) (left.terminate session code) := by
  have completed : (complete session depth code : Run σ H N Unit).exec left =
      .error (.exited status) (left.terminate session code) := by
    refine (exec_bind_of_ok rfl).trans ?_
    rw [asked]
    rfl
  refine (exec_bind_of_ok rfl).trans ((exec_bind_of_ok rfl).trans ?_)
  refine (exec_bind_of_ok rfl).trans ((exec_bind_of_ok followed).trans ?_)
  rw [exec_bind, show _ = depth from level, completed]

/-- The library is given these bytes to evaluate, and what it makes of them decides the ending. The
answer is the one that `read` takes from that of the evaluation. -/
structure Submits (engine : Engine σ) (dispatch : Dispatch σ H N) (session : SessionId)
    (bytes : List UInt8) (world : World σ H N) (read : Except Error (Option String) → α)
    (ending : EStateM.Result Halt (World σ H N) α) : Prop where
  halted : ∀ cause left, submitted engine dispatch session bytes world = .error cause left →
    ending = .error cause left
  exited : ∀ code left, submitted engine dispatch session bytes world = .ok code left →
    let depth := (world.begin session bytes).depthOf session
    ∀ status,
      left.sessions[session]?.bind (·.exitStatus? depth (Completion.ofCode code)) = some status →
      ending = .error (.exited status) (left.terminate session code)
  answered : ∀ code left, submitted engine dispatch session bytes world = .ok code left →
    let depth := (world.begin session bytes).depthOf session
    left.sessions[session]?.bind (·.exitStatus? depth (Completion.ofCode code)) = none →
    ∃ scene, ending = .ok
      (read ((Completion.ofCode code).answer
        ((Call.result engine session : Call σ N String).run
          (left.complete session depth code).scene).1))
      (World.leave { left.complete session depth code with scene } session)

theorem submits_evaluate (engine : Engine σ) (dispatch : Dispatch σ H N) (session : SessionId)
    (script : String) (world : World σ H N) :
    Submits engine dispatch session (Text.encode script) world id
      ((evaluate engine dispatch session script).exec world) where
  halted _ _ followed := exec_evaluate_halted followed
  exited _ _ followed _ asked := exec_evaluate_exited rfl followed asked
  answered _ _ followed unasked := exec_evaluate_answered rfl followed unasked

theorem exec_perform_evaluate {setup : Setup σ H N}
    (present : ∃ state, world.sessions[session]? = some state)
    (mayUse : world.mayUse session = true) :
    (perform setup dispatch (.evaluate session script)).exec world =
      (evaluate setup.engine dispatch session script).exec world := by
  obtain ⟨state, found⟩ := present
  change (discard (held session) >>= fun _ =>
    evaluate setup.engine dispatch session script : Run σ H N _).exec world = _
  rw [discard_held_bind]
  exact exec_bind_of_ok (exec_held_ok.mpr ⟨rfl, found, mayUse⟩)

end Run

namespace Host

variable {setup : Setup σ H N} {fuel : Nat} {world : World σ H N} {session : SessionId}
  {script : String}

theorem eval_run (session : SessionId) (script : String) :
    (eval session script : Attempt H N String).run =
      .ask (.evaluate session script) fun answer => .done (answer.map (·.getD "")) := by
  refine congrArg (Program.ask _) (funext fun answer => ?_)
  cases answer <;> rfl

theorem exec_run_ask (setup : Setup σ H N) (fuel : Nat) (request : Request H N)
    (next : request.Answer → Host H N α) (world : World σ H N) :
    (Host.run setup fuel (.ask request next)).exec world =
      match (Run.perform setup (Run.dispatch setup fuel) request).exec world with
      | .ok answer later => (Host.run setup fuel (next answer)).exec later
      | .error cause final => .error cause final := by
  refine (Process.exec_bind _ _ _).trans ?_
  cases (Run.perform setup (Run.dispatch setup fuel) request).exec world <;> rfl

theorem exec_eval (present : ∃ state, world.sessions[session]? = some state)
    (mayUse : world.mayUse session = true) :
    (Host.run setup fuel (eval session script).run).exec world =
      match (Run.evaluate setup.engine (Run.dispatch setup fuel) session script).exec world with
      | .ok answer later => .ok (answer.map (·.getD "")) later
      | .error cause final => .error cause final := by
  rw [eval_run, exec_run_ask, Run.exec_perform_evaluate present mayUse]
  cases (Run.evaluate setup.engine (Run.dispatch setup fuel) session script).exec world <;> rfl

theorem submits_eval (present : ∃ state, world.sessions[session]? = some state)
    (mayUse : world.mayUse session = true) :
    Run.Submits setup.engine (Run.dispatch setup fuel) session (Text.encode script) world
      (·.map (·.getD "")) ((Host.run setup fuel (eval session script).run).exec world) := by
  have submits := Run.submits_evaluate setup.engine (Run.dispatch setup fuel) session script world
  rw [exec_eval present mayUse]
  constructor
  · intro cause left followed
    rw [submits.halted cause left followed]
  · intro code left followed depth status asked
    rw [submits.exited code left followed status asked]
  · intro code left followed depth unasked
    obtain ⟨scene, answered⟩ := submits.answered code left followed unasked
    exact ⟨scene, by rw [answered]; rfl⟩

end Host

end TclHost
