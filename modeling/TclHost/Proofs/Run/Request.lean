import TclHost.Host.Run

/-!
Runs that return, request by request. What a request did to the world is read off the answer that
it returned with.
-/

namespace TclHost

namespace Process

variable {S E α β : Type}

theorem exec_bind_ok {process : Process S E α} {next : α → Process S E β} {state final : S}
    {result : β} :
    (process >>= next).exec state = .ok result final ↔
      ∃ answer later, process.exec state = .ok answer later ∧
        (next answer).exec later = .ok result final := by
  induction process generalizing state with
  | done answer =>
      constructor
      · exact fun returned => ⟨answer, state, rfl, returned⟩
      · rintro ⟨_, _, same, returned⟩
        cases same
        exact returned
  | halt cause last =>
      constructor
      · intro returned
        cases returned
      · rintro ⟨_, _, returned, _⟩
        cases returned
  | step act rest ih => exact ih _

theorem exec_bind (process : Process S E α) (next : α → Process S E β) (state : S) :
    (process >>= next).exec state =
      match process.exec state with
      | .ok result later => (next result).exec later
      | .error cause final => .error cause final := by
  induction process generalizing state with
  | done result => rfl
  | halt cause last => rfl
  | step act rest ih => exact ih _ _

theorem exec_bind_of_ok {process : Process S E α} {next : α → Process S E β} {state later : S}
    {result : α} (returned : process.exec state = .ok result later) :
    (process >>= next).exec state = (next result).exec later := by
  rw [exec_bind, returned]

theorem exec_done_ok {result answer : α} {state final : S} :
    (done result : Process S E α).exec state = .ok answer final ↔
      result = answer ∧ state = final := by
  simp [exec]

def result? : EStateM.Result E S α → Option α
  | .ok result _ => some result
  | .error _ _ => none

theorem result?_eq_some_iff {outcome : EStateM.Result E S α} {result : α} :
    result? outcome = some result ↔ ∃ final, outcome = .ok result final := by
  cases outcome <;> simp [result?]

end Process

variable {σ H N α β : Type} {world final : World σ H N} {session : SessionId}

namespace Run

open Process

theorem exec_held_ok {state : Session H} :
    (held session).exec world = .ok state final ↔
      world = final ∧ world.sessions[session]? = some state ∧ world.mayUse session = true := by
  unfold held
  rw [exec_bind_ok]
  constructor
  · rintro ⟨answer, between, same, returned⟩
    cases same
    split at returned
    · split at returned
      · rename_i present usable
        cases returned
        exact ⟨rfl, present, usable⟩
      · cases returned
    · cases returned
  · rintro ⟨rfl, present, usable⟩
    refine ⟨_, _, rfl, ?_⟩
    simp only [present, usable]
    rfl

theorem exec_using_ok {run : Run σ H N α} {answer : α} :
    (discard (held session) >>= fun _ => run : Run σ H N α).exec world = .ok answer final ↔
      (∃ state, world.sessions[session]? = some state) ∧ world.mayUse session = true ∧
        run.exec world = .ok answer final := by
  rw [discard_held_bind, exec_bind_ok]
  constructor
  · rintro ⟨state, between, found, returned⟩
    obtain ⟨rfl, present, usable⟩ := exec_held_ok.mp found
    exact ⟨⟨state, present⟩, usable, returned⟩
  · rintro ⟨⟨state, present⟩, usable, returned⟩
    exact ⟨state, world, exec_held_ok.mpr ⟨rfl, present, usable⟩, returned⟩

theorem exec_call_ok {call : Call σ N α} {answer : α} :
    (Run.call call).exec world = .ok answer final ↔
      answer = (call.run world.scene).1 ∧
        final = { world with scene := (call.run world.scene).2 } := by
  change (EStateM.Result.ok _ _ : EStateM.Result Halt (World σ H N) α) = .ok answer final ↔ _
  rw [EStateM.Result.ok.injEq]
  constructor
  · rintro ⟨rfl, rfl⟩
    exact ⟨rfl, rfl⟩
  · rintro ⟨rfl, rfl⟩
    exact ⟨rfl, rfl⟩

theorem exec_attempt_ok {attempt : ExceptT Error (Run σ H N) α}
    {next : α → ExceptT Error (Run σ H N) β} {result : β} :
    (attempt >>= next).run.exec world = .ok (.ok result) final ↔
      ∃ answer later, attempt.run.exec world = .ok (.ok answer) later ∧
        (next answer).run.exec later = .ok (.ok result) final := by
  rw [ExceptT.run_bind, exec_bind_ok]
  constructor
  · rintro ⟨outcome, later, attempted, onward⟩
    cases outcome with
    | error cause => cases onward
    | ok answer => exact ⟨answer, later, attempted, onward⟩
  · rintro ⟨answer, later, attempted, onward⟩
    exact ⟨.ok answer, later, attempted, onward⟩

/-- An attempt that fails, fails at its first part or after it. -/
theorem exec_attempt_error {attempt : ExceptT Error (Run σ H N) α}
    {next : α → ExceptT Error (Run σ H N) β} {cause : Error}
    (failed : (attempt >>= next).run.exec world = .ok (.error cause) final) :
    attempt.run.exec world = .ok (.error cause) final ∨
      ∃ answer later, attempt.run.exec world = .ok (.ok answer) later ∧
        (next answer).run.exec later = .ok (.error cause) final := by
  rw [ExceptT.run_bind, exec_bind_ok] at failed
  obtain ⟨outcome, later, attempted, onward⟩ := failed
  cases outcome with
  | error first =>
      cases onward
      exact .inl attempted
  | ok answer => exact .inr ⟨answer, later, attempted, onward⟩

theorem exec_lift_ok {run : Run σ H N α} {outcome : Except Error α}
    (lifted : (ExceptT.lift run : ExceptT Error (Run σ H N) α).run.exec world = .ok outcome final) :
    ∃ answer, outcome = .ok answer ∧ run.exec world = .ok answer final := by
  obtain ⟨answer, later, returned, same⟩ := exec_bind_ok.mp
    (show (run >>= fun answer => pure (Except.ok answer)).exec world = _ from lifted)
  cases same
  exact ⟨answer, rfl, returned⟩

variable {setup : Setup σ H N} {dispatch : Dispatch σ H N}

theorem exec_quoteList_ok {words : List String} {list : String} :
    (perform setup dispatch (.quoteList session words)).exec world = .ok list final ↔
      (∃ state, world.sessions[session]? = some state) ∧ world.mayUse session = true ∧
        list = ((Call.quoteList setup.engine session words).run world.scene).1 ∧
          final = { world with
            scene := ((Call.quoteList setup.engine session words).run world.scene).2 } := by
  have performed : (discard (held session) >>= fun _ =>
      Run.call (Call.quoteList setup.engine session words) : Run σ H N String).exec world =
        .ok list final ↔ _ := exec_using_ok
  rw [exec_call_ok] at performed
  exact performed

/-- How the library ended when it was asked, and what was made of that. -/
theorem exec_makeSafe_ok {engine : Engine σ} {outcome : Except Error Unit}
    (made : (makeSafe engine dispatch session).exec world = .ok outcome final) :
    (outcome = .ok () ∧ final = world ∧ world.sessions[session]?.any (·.safe) = true) ∨
      ∃ code left, (follow dispatch (engine.makeSafe session world.scene.store)).exec
          (world.push (.makeSafe session)) = .ok code left ∧
        ((code = 0 ∧ outcome = .ok () ∧ final = left.restrict session code) ∨
          (code ≠ 0 ∧
            let told := (Call.result engine session : Call σ N String).run
              (left.restrict session code).scene
            outcome = .error (.eval told.1) ∧
              final = { left.restrict session code with scene := told.2 })) := by
  change (if world.sessions[session]?.any (·.safe) then _ else _ : Run σ H N _).exec world = _
    at made
  split at made
  · rename_i safe
    cases made
    exact .inl ⟨rfl, rfl, safe⟩
  · right
    obtain ⟨code, left, followed, made⟩ := exec_bind_ok.mp
      (show (follow dispatch (engine.makeSafe session world.scene.store) >>= _).exec
        (world.push (.makeSafe session)) = _ from made)
    refine ⟨code, left, followed, ?_⟩
    change (if code ≠ 0 then _ else _ : Run σ H N _).exec (left.restrict session code) = _ at made
    split at made
    · rename_i refused
      cases made
      exact .inr ⟨refused, rfl, rfl⟩
    · rename_i agreed
      cases made
      exact .inl ⟨Decidable.not_not.mp agreed, rfl, rfl⟩

theorem exec_handOut_ok {engine : Engine σ} {safe : Bool} {answer : Except Error SessionId}
    (returned : (handOut engine dispatch session safe).exec world = .ok answer final) :
    ∃ outcome later, (prepare engine dispatch session safe).run.exec world = .ok outcome later ∧
      ((outcome = .ok () ∧ answer = .ok session ∧ final = later) ∨
        ∃ cause, outcome = .error cause ∧ answer = .error cause) := by
  obtain ⟨outcome, later, prepared, returned⟩ := exec_bind_ok.mp returned
  refine ⟨outcome, later, prepared, ?_⟩
  cases outcome with
  | error cause =>
      obtain ⟨_, _, _, same⟩ := exec_bind_ok.mp returned
      cases same
      exact .inr ⟨cause, rfl, rfl⟩
  | ok _ =>
      cases returned
      exact .inl ⟨rfl, rfl, rfl⟩

/-- The library is asked first, and a session is only made with one that was found. -/
theorem exec_openSession_ok {config : Config} {answer : Except Error SessionId}
    (returned : (openSession setup dispatch config).exec world = .ok answer final) :
    (∃ cause, (world.library.load setup.libraries config).1 = .error cause ∧
        answer = .error (.load cause) ∧
        final = { world with library := (world.library.load setup.libraries config).2 }) ∨
      ∃ path, (world.library.load setup.libraries config).1 = .ok path ∧
        (answer = .error .createFailed ∨ ∃ session between,
          (handOut setup.engine dispatch session config.safe).exec between = .ok answer final) := by
  unfold openSession at returned
  obtain ⟨seen, _, got, returned⟩ := exec_bind_ok.mp returned
  cases got
  generalize world.library.load setup.libraries config = loaded at returned ⊢
  obtain ⟨outcome, library⟩ := loaded
  obtain ⟨_, noted, noting, returned⟩ := exec_bind_ok.mp returned
  cases noting
  cases outcome with
  | error cause =>
      cases returned
      exact .inl ⟨cause, rfl, rfl, rfl⟩
  | ok path =>
      refine .inr ⟨path, rfl, ?_⟩
      obtain ⟨allocated, between, created, returned⟩ := exec_bind_ok.mp returned
      cases allocated with
      | error cause =>
          cases returned
          left
          obtain ⟨_, _, got, created⟩ := exec_bind_ok.mp created
          cases got
          obtain ⟨_, _, noting, created⟩ := exec_bind_ok.mp created
          obtain ⟨granted, _, _, created⟩ := exec_bind_ok.mp created
          cases granted with
          | false =>
              cases created
              rfl
          | true =>
              obtain ⟨_, _, _, created⟩ := exec_bind_ok.mp created
              obtain ⟨_, _, _, created⟩ := exec_bind_ok.mp created
              obtain ⟨_, _, _, created⟩ := exec_bind_ok.mp created
              obtain ⟨_, _, _, created⟩ := exec_bind_ok.mp created
              cases created
      | ok session => exact .inr ⟨session, between, returned⟩

end Run

namespace Host

variable {setup : Setup σ H N} {fuel : Nat}

theorem exec_ask_ok {request : Request H N} {next : request.Answer → Host H N α} {result : α} :
    (Host.run setup fuel (.ask request next)).exec world = .ok result final ↔
      ∃ answer later, (Run.perform setup (Run.dispatch setup fuel) request).exec world =
          .ok answer later ∧
        (Host.run setup fuel (next answer)).exec later = .ok result final :=
  Process.exec_bind_ok

end Host

end TclHost
