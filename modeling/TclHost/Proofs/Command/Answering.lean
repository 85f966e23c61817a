import TclHost.Proofs.Levels.Chain

/-!
The answer to a call of the host's command. Whatever the handler did meanwhile to the interpreter,
the session and the table, its outcome is what the library finds: as the result, as the code, and
as the pending exit.
-/

namespace TclHost

variable {σ H N : Type}

namespace Engine

def readAll (engine : Engine σ) : List Obj → σ → List (List UInt8) × σ
  | [], store => ([], store)
  | object :: objects, store =>
      let (bytes, store) := engine.bytes (some object) store
      let (others, store) := engine.readAll objects store
      (bytes :: others, store)

def ReturnsResults (engine : Engine σ) : Prop :=
  ∀ interp bytes store, ∃ object later,
    engine.result interp (engine.setResult interp (engine.newString bytes store).1
      (engine.newString bytes store).2) = (some object, later) ∧
    (engine.bytes (some object) later).1 = bytes

end Engine

/-- A handler gets the words after its name, and the receiver gets all of them. -/
theorem CommandTable.route_eq_handler_iff {table : CommandTable H} {words arguments : List String}
    {handler : H} : table.route words = .handler handler arguments ↔
      (∃ name, words = name :: arguments ∧ table.get? name = some handler) ∨
      (words = arguments ∧ table.receiver = some handler ∧
        ∃ name ∈ words.head?, table.get? name = none) := by
  cases words with
  | nil => simp [route]
  | cons name rest =>
      cases named : table.get? name with
      | some found => simp [route, named, and_comm]
      | none =>
          cases received : table.receiver with
          | none => simp [route, named, received]
          | some found => simp [route, named, received, and_comm]

def Outcome.report : Outcome → String
  | .value text => text
  | .error (.failed message) => message
  | .error (.exit status) => "exit " ++ toString status
  | .panic (some message) => "host command panicked: " ++ message
  | .panic none => "host command panicked: unknown panic"

theorem Outcome.reply_text (outcome : Outcome) : (Reply.outcome outcome).text = outcome.report := by
  rcases outcome with text | ⟨message | status⟩ | ⟨_ | message⟩ <;> rfl

theorem Outcome.reply_code (outcome : Outcome) :
    (Reply.outcome outcome).code = 0 ↔ ∃ text, outcome = .value text := by
  cases outcome <;> simp [Reply.code]

/-- How a session is left by the answer to a call at this depth. Only an exit of its own makes the
handler's answer change anything. -/
def Outcome.settles (outcome : Outcome) (depth : Nat) (inner : Session H) : Session H :=
  match outcome with
  | .error (.exit status) => { inner with pending := some ⟨status, depth⟩, stage := .exiting }
  | _ => inner

theorem Session.answer_eq {state : Session H} {depth : Nat} (level : state.depth = depth)
    (outcome : Outcome) : state.answer outcome = outcome.settles depth state := by
  subst level
  rcases outcome with text | ⟨message | status⟩ | message <;> rfl

theorem Call.texts_eq (engine : Engine σ) (objects : List Obj) (scene : Scene σ N) :
    let texts := (objects.mapM fun object => text engine (some object)).run scene
    texts.1 = (engine.readAll objects scene.store).1.map Text.decode ∧
      texts.2.store = (engine.readAll objects scene.store).2 := by
  induction objects generalizing scene with
  | nil => exact ⟨rfl, rfl⟩
  | cons object objects ih =>
      obtain ⟨words, store⟩ := ih ((text engine (some object)).run scene).2
      rw [List.mapM_cons]
      exact ⟨congrArg (Text.decode (engine.bytes (some object) scene.store).1 :: ·) words, store⟩

/-- The answer has been handed over: `left` is where the handler's program ended, with the session
in the state `inner`, and `after` is where the library goes on. -/
structure World.HandedOver (engine : Engine σ) (session : SessionId) (depth : Nat)
    (outcome : Outcome) (inner : Session H) (left after : World σ H N) : Prop where
  state : after.sessions[session]? = some (outcome.settles depth inner)
  level : (outcome.settles depth inner).depth = depth
  others : ∀ other ≠ session, after.sessions[other]? = left.sessions[other]?
  store : after.scene.store =
    engine.setResult session (engine.newString (Text.encode outcome.report) left.scene.store).1
      (engine.newString (Text.encode outcome.report) left.scene.store).2
  result : engine.ReturnsResults → ∃ object later,
    engine.result session after.scene.store = (some object, later) ∧
      (engine.bytes (some object) later).1 = Text.encode outcome.report

theorem World.handedOver_replied {left : World σ H N} {session : SessionId} {inner : Session H}
    (present : left.sessions[session]? = some inner) (engine : Engine σ) (outcome : Outcome) :
    HandedOver engine session inner.depth outcome inner left
      (left.replied engine session outcome) := by
  have stored : (left.replied engine session outcome).scene.store =
      engine.setResult session (engine.newString (Text.encode outcome.report) left.scene.store).1
        (engine.newString (Text.encode outcome.report) left.scene.store).2 := by
    have same : (left.answer session outcome).scene.store = left.scene.store := by
      simp [answer, push]
    rw [← Outcome.reply_text, ← same]
    rfl
  refine ⟨?_, ?_, fun other different => ?_, stored, fun returns => ?_⟩
  · rw [← Session.answer_eq rfl]
    simp [replied, answer, push, sessions_update, present]
  · rw [← Session.answer_eq rfl, Session.depth_answer]
  · simp [replied, answer, push, sessions_update, different.symm]
  · rw [stored]
    exact returns session _ left.scene.store

theorem World.secured_called {world : World σ H N} {session : SessionId} {state : Session H}
    {frame : Frame} {rest : List Frame} (secured : Secured rest world)
    (frames : world.frames = frame :: rest) (held : frame.holds session = true)
    (present : world.sessions[session]? = some state) (script : List UInt8) (store : σ) :
    Secured ((world.begin session script).called session store).frames
      ((world.begin session script).called session store) := by
  have same : ((world.begin session script).called session store).frames = frame :: rest :=
    (frames_update world session Session.enter).trans frames
  rw [same]
  exact secured_begin present script secured held

namespace Run

open Process

variable {setup : Setup σ H N} {world : World σ H N} {session : SessionId} {state : Session H}

theorem exec_sweep_unheld {engine : Engine σ} {dispatch : Dispatch σ H N}
    (reachable : world.sessions.contains session = true) (unheld : world.holds session = false) :
    (sweep engine dispatch session).exec world = (tearDown engine dispatch session).exec world := by
  refine (exec_bind_of_ok rfl).trans (congrArg (Process.exec · _) (if_pos ?_))
  simp [reachable, unheld]

def chosen (setup : Setup σ H N) (dispatch : Dispatch σ H N) (session : SessionId) :
    CommandTable.Route H → Run σ H N Outcome
  | .handler handler arguments =>
      Program.run (perform setup dispatch) (setup.behave handler session arguments)
  | .nowhere message => return .error (.failed message)

def serve (setup : Setup σ H N) (dispatch : Dispatch σ H N) (session : SessionId)
    (commands : CommandTable H) (words : List String) : Run σ H N Outcome := do
  let outcome ← chosen setup dispatch session (commands.route words)
  dropKept setup.engine dispatch
  return outcome

theorem exec_attend_eq_serve {dispatch : Dispatch σ H N} {words : List String} :
    (attend setup dispatch session words).exec world =
      (serve setup dispatch session (world.commandsOf session) words).exec world := by
  have ran : (runHandler setup dispatch session words).exec world =
      (chosen setup dispatch session ((world.commandsOf session).route words)).exec world := by
    rw [exec_runHandler_eq]
    cases (world.commandsOf session).route words <;> rfl
  rw [attend, serve, exec_bind, exec_bind, ran]

/-- At any call of a session that can be reached, with any words. The handler that the table has
for the decoded words is run with them. If its program ends the process, the call goes no further.
Otherwise the library goes on from the answer, with the depth as it was, and only a session that
nobody holds any more is taken down first; none is while it is being evaluated. -/
theorem dispatch_hands_over (fuel : Nat) (sound : world.Sound)
    (secured : World.Secured world.frames world)
    (present : world.sessions[session]? = some state) (objects : List Obj) :
    let words := (setup.engine.readAll objects.tail world.scene.store).1.map Text.decode
    let entered := world.arrived setup.engine session objects.tail
    let answering := (Run.dispatch setup (fuel + 1) session objects).exec world
    (∀ handler arguments, state.commands.route words = .handler handler arguments ↔
      (∃ name, words = name :: arguments ∧ state.commands.get? name = some handler) ∨
      (words = arguments ∧ state.commands.receiver = some handler ∧
        ∃ name ∈ words.head?, state.commands.get? name = none)) ∧
    match (serve setup (Run.dispatch setup fuel) session state.commands words).exec entered with
    | .error cause final => answering = .error cause final
    | .ok outcome left =>
        let after := left.replied setup.engine session outcome
        (∃ inner, left.sessions[session]? = some inner ∧
          World.HandedOver setup.engine session state.depth outcome inner left after) ∧
        ((Reply.outcome outcome).code = 0 ↔ ∃ text, outcome = .value text) ∧
        (after.holds session = true → answering = .ok (.outcome outcome) after) ∧
        (after.holds session = false → answering = (do
          tearDown setup.engine (Run.dispatch setup fuel) session
          return Reply.outcome outcome : Run σ H N Reply).exec after) ∧
        (0 < state.depth → after.holds session = true) := by
  intro words entered answering
  have heard : world.heard setup.engine objects.tail = words :=
    (Call.texts_eq setup.engine objects.tail world.scene).1
  have known : entered.commandsOf session = state.commands := by
    change world.commandsOf session = _
    rw [World.commandsOf, present]
  have attended : (attend setup (Run.dispatch setup fuel) session
      (world.heard setup.engine objects.tail)).exec entered =
        (serve setup (Run.dispatch setup fuel) session state.commands words).exec entered := by
    rw [exec_attend_eq_serve, known, heard]
  have answered : answering = _ := exec_dispatch present objects
  rw [show world.arrived setup.engine session objects.tail = entered from rfl, attended] at answered
  refine ⟨fun _ _ => CommandTable.route_eq_handler_iff, ?_⟩
  cases served : (serve setup (Run.dispatch setup fuel) session state.commands words).exec
      entered with
  | error cause final => rw [answered, served]
  | ok outcome left =>
      rw [served] at answered attended
      have soundEntered : entered.Sound :=
        World.sound_arrived present setup.engine objects.tail sound
      obtain ⟨soundLeft, frames, inner, presentLeft, level⟩ :=
        left_of_attend soundEntered secured rfl attended
      have depthOf : world.depthOf session = state.depth := by rw [World.depthOf, present]
      have depth : inner.depth = state.depth := level.trans depthOf
      refine ⟨⟨inner, presentLeft, depth ▸ World.handedOver_replied presentLeft _ outcome⟩,
        Outcome.reply_code outcome, fun held => ?_, fun unheld => ?_, fun running => ?_⟩
      · rw [answered]
        exact (exec_bind_of_ok (exec_sweep_held held)).trans rfl
      · have reachable : (left.replied setup.engine session outcome).sessions.contains session =
            true := by
          simp [Std.TreeMap.contains_eq_isSome_getElem?,
            (World.handedOver_replied presentLeft setup.engine outcome).state]
        rw [answered]
        dsimp only
        rw [exec_bind, exec_bind, exec_sweep_unheld reachable unheld]
      · have outside := secured session (depthOf ▸ running)
        simp [World.holds, World.replied, frames, outside]

end Run

/-! The handler `outer` relays a nested evaluation, in which `inner` has answered already. -/

namespace Echo

theorem returnsResults : engine.ReturnsResults :=
  fun _ _ _ => ⟨⟨0⟩, _, rfl, rfl⟩

def asked : World (Nat → List UInt8) Bool Empty :=
  (opened.begin 0 (Text.encode "interp_send outer")).called 0
    (lend [Text.encode sendCommand, Text.encode "outer"] opened.scene.store)

theorem relayed_answer : asked.Sound ∧ World.Secured asked.frames asked ∧
    ∃ final, (Run.dispatch setup 2 0 [⟨2⟩, ⟨3⟩]).exec asked =
        .ok (.outcome (.value "a\x00b")) final ∧
      ∃ object later, engine.result 0 final.scene.store = (some object, later) ∧
        (engine.bytes (some object) later).1 = Text.encode "a\x00b" := by
  obtain ⟨sound, standing⟩ := opened_stands
  obtain ⟨kept, frames⟩ := standing.frames
  have held : (⟨none, kept⟩ : Frame).holds 0 = true := by
    rw [← World.mayUse_eq frames]
    decide +kernel
  obtain ⟨state, present⟩ := sound.alive frames held
  have soundAsked : asked.Sound := World.sound_called present _ _ sound
  have secured : World.Secured asked.frames asked :=
    World.secured_called standing.secured frames held present _ _
  have presentAsked : asked.sessions[0]? = some state.enter :=
    World.sessions_called present _ _
  let objects : List Obj := [⟨2⟩, ⟨3⟩]
  have heard : (setup.engine.readAll objects.tail asked.scene.store).1.map Text.decode =
      ["outer"] := by
    decide +kernel
  have commands : opened.commandsOf 0 = state.enter.commands := by
    rw [World.commandsOf, present]
    rfl
  have ran : Process.result? ((Run.serve setup (Run.dispatch setup 1) 0 (opened.commandsOf 0)
      ["outer"]).exec (asked.arrived setup.engine 0 objects.tail)) = some (.value "a\x00b") := by
    decide +kernel
  obtain ⟨left, served⟩ := Process.result?_eq_some_iff.mp ran
  rw [commands, ← heard] at served
  obtain ⟨_, given⟩ := Run.dispatch_hands_over 1 soundAsked secured presentAsked objects
  rw [served] at given
  obtain ⟨⟨inner, _, handed⟩, _, returns, _, holds⟩ := given
  exact ⟨soundAsked, secured, _, returns (holds (Nat.succ_pos _)), handed.result returnsResults⟩

end Echo

end TclHost
