import TclHost.Proofs.Command.Expose
import TclHost.Proofs.Levels.Home
import TclHost.Proofs.Objects.Calls
import TclHost.Proofs.Run.Answer
import TclHost.Proofs.Run.Orderly
import TclHost.Proofs.Text.Spelling

/-!
One script that calls the host's command once. What its handler comes to is what the evaluation comes
to, character for character, unless the handler asks for an exit, which ends the process.
-/

namespace TclHost

variable {σ H N α : Type}

/-! What is relied on of the library. -/

/-- The bytes are the text, each character in any of the forms that the interpreter may use. -/
def Text.Spells (text : String) (bytes : List UInt8) : Prop :=
  ∃ pieces : List (Char × Form), text = String.ofList (pieces.map Prod.fst) ∧
    bytes = pieces.flatMap fun piece => spell piece.1 piece.2

theorem Text.Spells.decode_eq {text : String} {bytes : List UInt8} (spells : Spells text bytes) :
    decode bytes = text := by
  obtain ⟨pieces, rfl, rfl⟩ := spells
  exact decode_flatMap_spell pieces

theorem Text.spells_encode (text : String) : Spells text (encode text) := by
  refine ⟨text.toList.map fun char => (char, encodedForm char), ?_, encode_eq_spell text⟩
  simp [Function.comp_def]

namespace Engine

def Tells (engine : Engine σ) (interp : InterpId) (text : String) (store : σ) : Prop :=
  ∃ object later, engine.result interp store = (some object, later) ∧
    Text.Spells text (engine.bytes (some object) later).1

def KeepsResults (engine : Engine σ) : Prop :=
  ∀ interp text store, engine.Tells interp text
    (engine.setResult interp (engine.newString (Text.encode text) store).1
      (engine.newString (Text.encode text) store).2)

inductive Reads (engine : Engine σ) : List Obj → List String → σ → σ → Prop
  | nil (store : σ) : Reads engine [] [] store store
  | cons {object : Obj} {objects : List Obj} {word : String} {words : List String}
      {store read : σ} (spelled : Text.Spells word (engine.bytes (some object) store).1)
      (rest : Reads engine objects words (engine.bytes (some object) store).2 read) :
      Reads engine (object :: objects) (word :: words) store read

/-- Evaluated in this state, the script calls the host's command once, with these words. It
completes with the code of the command, whose result it leaves as it is. -/
def Sends (engine : Engine σ) (interp : InterpId) (script : String) (words : List String)
    (store read : σ) : Prop :=
  ∃ command objects entered resume,
    engine.evaluate interp (Text.encode script) store =
      .callback interp (command :: objects) entered resume ∧
    engine.Reads objects words entered read ∧
    ∀ code text later, engine.Tells interp text later →
      ∃ left, resume code later = .finished code left ∧ engine.Tells interp text left

end Engine

/-- What the evaluation that ran the command comes to, unless the command asks for an exit. -/
def Outcome.received : Outcome → Option (Except Error String)
  | .value text => some (.ok text)
  | .error (.failed message) => some (.error (.eval message))
  | .error (.exit _) => none
  | .panic message => some (.error (.eval ("host command panicked: " ++ panicText message)))

theorem Outcome.reply_of_received {outcome : Outcome} {answer : Except Error String}
    (received : outcome.received = some answer) :
    outcome.exitStatus? = none ∧
      (∀ other, Completion.ofCode (Reply.outcome outcome).code ≠ .other other) ∧
      (Completion.ofCode (Reply.outcome outcome).code).answer (Reply.outcome outcome).text =
        answer.map some := by
  cases outcome with
  | value text =>
      cases received
      exact ⟨rfl, by simp [Reply.code, Completion.ofCode], rfl⟩
  | panic message =>
      cases received
      exact ⟨rfl, by simp [Reply.code, Completion.ofCode], rfl⟩
  | error cause =>
      cases cause with
      | exit status => cases received
      | failed message =>
          cases received
          exact ⟨rfl, by simp [Reply.code, Completion.ofCode], rfl⟩

def Run.attend (setup : Setup σ H N) (dispatch : Dispatch σ H N) (session : SessionId)
    (words : List String) : Run σ H N Outcome := do
  let outcome ← runHandler setup dispatch session words
  dropKept setup.engine dispatch
  return outcome

def Run.handle (setup : Setup σ H N) (dispatch : Dispatch σ H N) (session : SessionId)
    (handler : H) (arguments : List String) : Run σ H N Outcome := do
  let outcome ← Program.run (perform setup dispatch) (setup.behave handler session arguments)
  dropKept setup.engine dispatch
  return outcome

/-! One level. -/

namespace Call

variable {engine : Engine σ} {objects : List Obj} {words : List String} {read : σ}

theorem meets_texts {scene : Scene σ N} (reads : engine.Reads objects words scene.store read) :
    (objects.mapM fun object => text engine (some object)).Meets
      (fun answer later => answer = words ∧ later.store = read) scene := by
  generalize same : scene.store = store at reads
  induction reads generalizing scene with
  | nil store => exact ⟨rfl, same⟩
  | cons spelled rest ih =>
      rename_i object objects word words store read
      subst same
      rw [List.mapM_cons]
      have first : (text engine (some object)).Meets (fun answer later => answer = word ∧
          later.store = (engine.bytes (some object) scene.store).2) scene :=
        ⟨spelled.decode_eq, rfl⟩
      refine first.bind ?_
      rintro _ between ⟨rfl, store⟩
      refine (ih store).bind ?_
      rintro _ later ⟨rfl, stored⟩
      exact meets_pure ⟨rfl, stored⟩

end Call

namespace World

variable {world : World σ H N} {session : SessionId}

def called (world : World σ H N) (session : SessionId) (store : σ) : World σ H N :=
  { world with scene := { world.scene with store } }.push (.called session)

def heard (world : World σ H N) (engine : Engine σ) (objects : List Obj) : List String :=
  ((objects.mapM fun object => Call.text engine (some object)).run world.scene).1

def arrived (world : World σ H N) (engine : Engine σ) (session : SessionId) (objects : List Obj) :
    World σ H N :=
  { world with
    frames := { caller := some session } :: world.frames
    scene := ((objects.mapM fun object => Call.text engine (some object)).run world.scene).2 }

def replied (world : World σ H N) (engine : Engine σ) (session : SessionId) (outcome : Outcome) :
    World σ H N :=
  { world.answer session outcome with
    frames := world.frames.tail
    scene := ((Call.setResult engine session (Reply.outcome outcome).text).run
      (world.answer session outcome).scene).2 }

def told (world : World σ H N) (engine : Engine σ) (session : SessionId) (outcome : Outcome)
    (store : σ) : World σ H N :=
  let noted := (world.replied engine session outcome).push (.sent session (.outcome outcome))
  { noted with scene := { noted.scene with store } }

def inside (world : World σ H N) (engine : Engine σ) (session : SessionId) (script : List UInt8)
    (store : σ) (objects : List Obj) : World σ H N :=
  ((world.begin session script).called session store).arrived engine session objects

variable {state : Session H} (present : world.sessions[session]? = some state)
  (script : List UInt8) (store : σ)
include present

theorem sessions_called :
    ((world.begin session script).called session store).sessions[session]? =
      some state.enter := by
  simp [called, push, begin, sessions_update, present]

theorem commandsOf_called :
    ((world.begin session script).called session store).commandsOf session =
      world.commandsOf session := by
  rw [commandsOf, sessions_called present, commandsOf, present]
  rfl

theorem sessions_inside (engine : Engine σ) (objects : List Obj) :
    (world.inside engine session script store objects).sessions[session]? = some state.enter :=
  sessions_called present script store

theorem commandsOf_inside (engine : Engine σ) (objects : List Obj) :
    (world.inside engine session script store objects).commandsOf session =
      world.commandsOf session :=
  commandsOf_called present script store

theorem sound_arrived (engine : Engine σ) (objects : List Obj) (sound : world.Sound) :
    (world.arrived engine session objects).Sound := by
  have answering := Step.answering sound present
  have reading : Call.Quiet (objects.mapM fun object => Call.text engine (some object) :
      Call σ N (List String)) := (Call.emits_mapM fun object => Call.emits_text engine _).quiet
  obtain ⟨entries, grown, silent⟩ := reading world.scene
  refine Step.sound ?_ (answering.sound sound)
  exact Step.scene _ _ entries grown silent

theorem sound_called (sound : world.Sound) :
    ((world.begin session script).called session store).Sound := by
  have begun : Step world (world.begin session script) :=
    Step.update present (Session.Change.begin state script)
  have calling : Beside (world.begin session script)
      ((world.begin session script).called session store) :=
    ⟨rfl, [.called session], Array.toList_push, by simp [Event.session?]⟩
  exact calling.step.sound (begun.sound sound)

theorem sound_inside (engine : Engine σ) (objects : List Obj) (sound : world.Sound) :
    (world.inside engine session script store objects).Sound :=
  sound_arrived (sessions_called present script store) engine objects
    (sound_called present script store sound)

omit present in
theorem frames_inside (world : World σ H N) (session : SessionId) (engine : Engine σ) (objects : List Obj) :
    (world.inside engine session script store objects).frames =
      ⟨some session, []⟩ :: world.frames := by
  simp [inside, arrived, called, begin, push]

omit present in
theorem record_inside (world : World σ H N) (session : SessionId) (engine : Engine σ) (objects : List Obj) :
    ∃ entries, (world.inside engine session script store objects).record =
        world.record ++ .evaluate session script :: entries ∧
      ∀ event ∈ entries, event.session? = none := by
  have reading : Call.Quiet (objects.mapM fun object => Call.text engine (some object) :
      Call σ N (List String)) := (Call.emits_mapM fun object => Call.emits_text engine _).quiet
  obtain ⟨entries, grown, silent⟩ := reading ((world.begin session script).called session store).scene
  refine ⟨.called session :: entries, grown.trans ?_, by simpa [Event.session?] using silent⟩
  simp [called, begin, push, record]

omit present in
theorem store_inside {engine : Engine σ} {objects : List Obj} {words : List String} {read : σ}
    (reads : engine.Reads objects words store read) :
    (world.inside engine session script store objects).scene.store = read := by
  have met : Call.Meets _ _ ((world.begin session script).called session store).scene :=
    Call.meets_texts reads
  exact met.2

omit present in
theorem tells_replied {engine : Engine σ} (laws : engine.KeepsResults) (session : SessionId)
    (outcome : Outcome) :
    engine.Tells session (Reply.outcome outcome).text
      (world.replied engine session outcome).scene.store :=
  laws session _ (world.answer session outcome).scene.store

theorem sessions_told (engine : Engine σ) (outcome : Outcome) :
    (world.told engine session outcome store).sessions[session]? =
      some (state.answer outcome) := by
  simp [told, replied, answer, push, sessions_update, present]

end World

namespace Run

open Process World

variable {setup : Setup σ H N} {dispatch : Dispatch σ H N} {world : World σ H N}
  {session : SessionId} {commands : CommandTable H} {handler : H} {arguments words : List String}
  {command : Obj} {objects : List Obj} {read : σ}

theorem exec_runHandler_eq :
    (runHandler setup dispatch session words).exec world =
      (match (world.commandsOf session).route words with
        | .nowhere message => pure (.error (.failed message))
        | .handler handler arguments =>
            Program.run (perform setup dispatch) (setup.behave handler session arguments) :
        Run σ H N Outcome).exec world :=
  exec_bind_of_ok rfl

theorem exec_runHandler (known : world.commandsOf session = commands)
    (routed : commands.route words = .handler handler arguments) :
    (runHandler setup dispatch session words).exec world =
      (Program.run (perform setup dispatch) (setup.behave handler session arguments)).exec
        world := by
  rw [exec_runHandler_eq, known, routed]

theorem exec_attend (known : world.commandsOf session = commands)
    (routed : commands.route words = .handler handler arguments) :
    (attend setup dispatch session words).exec world =
      (handle setup dispatch session handler arguments).exec world := by
  rw [attend, exec_bind, exec_runHandler known routed, handle, exec_bind]

theorem exec_sweep_held {engine : Engine σ} (held : world.holds session = true) :
    (sweep engine dispatch session).exec world = .ok ⟨⟩ world := by
  refine (exec_bind_of_ok rfl).trans ?_
  refine (congrArg (Process.exec · _) (if_neg ?_)).trans rfl
  simp [held]

/-- Who answers starts once the words have been read, and its answer is handed over when it has
ended. -/
theorem exec_answerCall (objects : List Obj) :
    (answerCall setup dispatch session objects).exec world =
      match (attend setup dispatch session (world.heard setup.engine objects.tail)).exec
          (world.arrived setup.engine session objects.tail) with
      | .ok outcome left => (do
          sweep setup.engine dispatch session
          return outcome : Run σ H N Outcome).exec (left.replied setup.engine session outcome)
      | .error cause final => .error cause final := by
  have read : (call (objects.tail.mapM fun object => Call.text setup.engine (some object)) :
      Run σ H N (List String)).exec
        { world with frames := { caller := some session } :: world.frames } =
      .ok (world.heard setup.engine objects.tail)
        (world.arrived setup.engine session objects.tail) :=
    exec_call_ok.mpr ⟨rfl, rfl⟩
  refine (exec_bind_of_ok rfl).trans ((exec_bind_of_ok read).trans ?_)
  rw [exec_bind, attend, exec_bind]
  cases (runHandler setup dispatch session (world.heard setup.engine objects.tail)).exec
      (world.arrived setup.engine session objects.tail) with
  | error cause final => rfl
  | ok outcome ended =>
      dsimp only
      rw [exec_bind, exec_bind]
      cases (dropKept setup.engine dispatch).exec ended with
      | error cause final => rfl
      | ok _ left =>
          refine (exec_bind_of_ok rfl).trans ((exec_bind_of_ok rfl).trans ?_)
          have popped : { left.answer session outcome with
                scene := ((Call.setResult setup.engine session (Reply.outcome outcome).text).run
                  (left.answer session outcome).scene).2
                frames := (left.answer session outcome).frames.tail } =
              left.replied setup.engine session outcome := by
            rw [World.replied, answer, push, frames_update]
          rw [endFrame, bind_assoc]
          exact (exec_bind_of_ok rfl).trans (congrArg (Process.exec _) popped)

section Calls

variable {state : Session H} (present : world.sessions[session]? = some state) {fuel : Nat}
include present

/-- While the session can be reached its command is answered. If nobody holds the session any more,
it goes once the answer has been handed over. -/
theorem exec_dispatch (objects : List Obj) :
    (Run.dispatch setup (fuel + 1) session objects).exec world =
      match (attend setup (Run.dispatch setup fuel) session
          (world.heard setup.engine objects.tail)).exec
          (world.arrived setup.engine session objects.tail) with
      | .ok outcome left => (do
          sweep setup.engine (Run.dispatch setup fuel) session
          return .outcome outcome : Run σ H N Reply).exec
            (left.replied setup.engine session outcome)
      | .error cause final => .error cause final := by
  have contains : world.sessions.contains session = true := by
    simp [Std.TreeMap.contains_eq_isSome_getElem?, present]
  refine (exec_bind_of_ok rfl).trans ?_
  rw [if_pos contains, exec_bind, exec_answerCall]
  cases (attend setup (Run.dispatch setup fuel) session
      (world.heard setup.engine objects.tail)).exec
      (world.arrived setup.engine session objects.tail) with
  | error cause final => rfl
  | ok outcome left =>
      dsimp only
      rw [exec_bind, exec_bind]
      cases (sweep setup.engine (Run.dispatch setup fuel) session).exec
        (left.replied setup.engine session outcome) <;> rfl

variable (known : world.commandsOf session = commands)
  (routed : commands.route words = .handler handler arguments)
  (reads : setup.engine.Reads objects words world.scene.store read)
include known routed reads

omit present in
theorem exec_attend_arrived :
    (attend setup dispatch session (world.heard setup.engine objects)).exec
        (world.arrived setup.engine session objects) =
      (handle setup dispatch session handler arguments).exec
        (world.arrived setup.engine session objects) := by
  have heard : world.heard setup.engine objects = words := (Call.meets_texts reads).1
  have knownThere : (world.arrived setup.engine session objects).commandsOf session = commands :=
    known
  exact exec_attend knownThere (heard ▸ routed)

theorem exec_dispatch_error {cause : Halt} {final : World σ H N}
    (halted : (handle setup (Run.dispatch setup fuel) session handler arguments).exec
      (world.arrived setup.engine session objects) = .error cause final) :
    (Run.dispatch setup (fuel + 1) session (command :: objects)).exec world =
      .error cause final := by
  rw [exec_dispatch present, List.tail_cons, exec_attend_arrived known routed reads, halted]

theorem exec_dispatch_ok {outcome : Outcome} {left : World σ H N} {frame : Frame}
    {rest : List Frame}
    (returned : (handle setup (Run.dispatch setup fuel) session handler arguments).exec
      (world.arrived setup.engine session objects) = .ok outcome left)
    (frames : left.frames = frame :: rest) (held : rest.any (·.holds session) = true) :
    (Run.dispatch setup (fuel + 1) session (command :: objects)).exec world =
      .ok (.outcome outcome) (left.replied setup.engine session outcome) := by
  have holds : (left.replied setup.engine session outcome).holds session = true := by
    simp [World.holds, World.replied, frames, held]
  rw [exec_dispatch present, List.tail_cons, exec_attend_arrived known routed reads, returned]
  exact (exec_bind_of_ok (exec_sweep_held holds)).trans rfl

end Calls

/-! One level: the evaluation of a script that calls the host's command once. -/

section Level

variable {script : String} {entered : σ} {resume : Int → σ → Reaction σ} {fuel : Nat}
  {state : Session H}

theorem exec_follow_callback {callee : InterpId} :
    (follow dispatch (.callback callee objects entered resume)).exec world =
      match (dispatch callee objects).exec (world.called callee entered) with
      | .ok reply later => (follow dispatch (resume reply.code later.scene.store)).exec
          (later.push (.sent callee reply))
      | .error cause final => .error cause final := by
  have noted : (emit (.called callee) : Run σ H N Unit).exec
      { world with scene := { world.scene with store := entered } } =
        .ok ⟨⟩ (world.called callee entered) := rfl
  refine (exec_bind_of_ok rfl).trans ((exec_bind_of_ok noted).trans ?_)
  rw [exec_bind]
  cases (dispatch callee objects).exec (world.called callee entered) <;> rfl

variable (present : world.sessions[session]? = some state)
  (known : world.commandsOf session = commands)
  (routed : commands.route words = .handler handler arguments)
  (evaluated : setup.engine.evaluate session (Text.encode script) world.scene.store =
    .callback session (command :: objects) entered resume)
  (reads : setup.engine.Reads objects words entered read)
include present known routed evaluated reads

theorem exec_level_error {cause : Halt} {final : World σ H N}
    (halted : (handle setup (Run.dispatch setup fuel) session handler arguments).exec
      (world.inside setup.engine session (Text.encode script) entered objects) =
        .error cause final) :
    (evaluate setup.engine (Run.dispatch setup (fuel + 1)) session script).exec world =
      .error cause final := by
  have stored : (world.begin session (Text.encode script)).scene.store = world.scene.store := by
    simp [World.begin, World.push]
  have knownCalled := (commandsOf_called present (Text.encode script) entered).trans known
  refine exec_evaluate_halted ?_
  rw [submitted, stored, evaluated, exec_follow_callback, exec_dispatch_error
    (sessions_called present (Text.encode script) entered) knownCalled routed reads halted]

theorem exec_level_followed {outcome : Outcome} {left : World σ H N} {frame : Frame}
    {rest : List Frame} {code : Int} {resumed : σ}
    (returned : (handle setup (Run.dispatch setup fuel) session handler arguments).exec
      (world.inside setup.engine session (Text.encode script) entered objects) =
        .ok outcome left)
    (frames : left.frames = frame :: rest) (held : rest.any (·.holds session) = true)
    (finished : resume (Reply.outcome outcome).code
      (left.replied setup.engine session outcome).scene.store = .finished code resumed) :
    submitted setup.engine (Run.dispatch setup (fuel + 1)) session (Text.encode script) world =
      .ok code (left.told setup.engine session outcome resumed) := by
  have stored : (world.begin session (Text.encode script)).scene.store = world.scene.store := by
    simp [World.begin, World.push]
  have knownCalled := (commandsOf_called present (Text.encode script) entered).trans known
  rw [submitted, stored, evaluated, exec_follow_callback, exec_dispatch_ok
    (sessions_called present (Text.encode script) entered) knownCalled routed reads returned frames
    held]
  dsimp only
  rw [finished]
  rfl

/-! The handler has returned, to an evaluation that is still the innermost one. -/

variable {rest : List Frame} {outcome : Outcome} {left : World σ H N} {inner : Session H}
  (laws : setup.engine.KeepsResults)
  (resumes : ∀ code text later, setup.engine.Tells session text later →
    ∃ left, resume code later = .finished code left ∧ setup.engine.Tells session text left)
  (returned : (handle setup (Run.dispatch setup fuel) session handler arguments).exec
    (world.inside setup.engine session (Text.encode script) entered objects) = .ok outcome left)
  (frames : left.frames = ⟨some session, []⟩ :: rest)
  (held : rest.any (·.holds session) = true)
  (presentLeft : left.sessions[session]? = some inner)
  (depth : inner.depth = world.depthOf session + 1)
include laws resumes returned frames held presentLeft depth

theorem exec_level_exited {status : Int} (asked : outcome = .error (.exit status)) :
    ∃ final, (evaluate setup.engine (Run.dispatch setup (fuel + 1)) session script).exec world =
        .error (.exited status) final ∧ final.depthOf session = inner.depth := by
  obtain ⟨resumed, finished, _⟩ := resumes _ _ _ (tells_replied laws session outcome)
  have followed := exec_level_followed present known routed evaluated reads returned frames held
    finished
  have level : (world.begin session (Text.encode script)).depthOf session = inner.depth := by
    rw [depthOf_begin present, if_pos rfl, depth]
  have told := sessions_told presentLeft resumed setup.engine outcome
  have due : (inner.answer outcome).exitStatus? inner.depth
      (Completion.ofCode (Reply.outcome outcome).code) = some status := by
    subst asked
    simp [Reply.code, Completion.ofCode, Session.exitStatus?, Session.answer,
      Outcome.exitStatus?, Session.requestExit, Session.exitAt?]
  have exited := exec_evaluate_exited level followed (by rw [told, Option.bind_some, due])
  refine ⟨_, exited, (depthOf_update told Session.terminate session).trans ?_⟩
  rw [if_pos rfl]
  exact Session.depth_answer inner outcome

theorem exec_level_answered {answer : Except Error String}
    (received : outcome.received = some answer)
    (calm : ∀ exit, inner.pending = some exit → exit.depth ≤ world.depthOf session) :
    ∃ later, (evaluate setup.engine (Run.dispatch setup (fuel + 1)) session script).exec world =
        .ok (answer.map some) later ∧
      ∀ state exit, later.sessions[session]? = some state → state.pending = some exit →
        inner.pending = some exit := by
  obtain ⟨resumed, finished, telling⟩ := resumes _ _ _ (tells_replied laws session outcome)
  have followed := exec_level_followed present known routed evaluated reads returned frames held
    finished
  have level : (world.begin session (Text.encode script)).depthOf session = inner.depth := by
    rw [depthOf_begin present, if_pos rfl, depth]
  obtain ⟨asksNothing, known, conveyed⟩ := Outcome.reply_of_received received
  have told := sessions_told presentLeft resumed setup.engine outcome
  rw [Session.answer, asksNothing] at told
  have unasked : (left.told setup.engine session outcome resumed).sessions[session]?.bind
      (·.exitStatus? inner.depth (Completion.ofCode (Reply.outcome outcome).code)) = none := by
    have settled : inner.exitAt? inner.depth = none := by
      refine (Session.exitAt?_eq_none_iff inner inner.depth).mpr fun exit pending => ?_
      have outside := calm exit pending
      omega
    rw [told, Option.bind_some]
    cases Completion.ofCode (Reply.outcome outcome).code with
    | error => exact settled
    | success | other code => rfl
  have stored : ((left.told setup.engine session outcome resumed).complete session inner.depth
      (Reply.outcome outcome).code).scene.store = resumed := by
    simp [World.complete, World.push, World.told]
  obtain ⟨object, store, given, spelled⟩ := telling
  rw [← stored] at given
  have read := (Call.result_eq given).1
  rw [spelled.decode_eq] at read
  have answered := exec_evaluate_ok level followed unasked known
  simp only [read, conveyed] at answered
  refine ⟨_, answered, fun state exit found pending => ?_⟩
  have settling := sessions_complete told inner.depth (Reply.outcome outcome).code
  rw [World.leave, World.push, sessions_update, if_pos rfl, settling] at found
  cases found
  rcases Session.settle_eq_or inner inner.depth (Completion.ofCode (Reply.outcome outcome).code)
    with same | ⟨_, same⟩
  · rw [same] at pending
    exact pending
  · rw [same] at pending
    cases pending

end Level

/-! The handler itself, at one level. -/

section Handler

variable {frame : Frame} {rest : List Frame} {fuel : Nat}

theorem asks_handle (home : setup.engine.CallsHome) :
    Asks (fun _ => False) (handle setup (Run.dispatch setup fuel) session handler arguments) := by
  have homely := homely_dispatch home fuel
  refine (asks_program home homely _).bind fun outcome => ?_
  exact (asks_dropKept home homely).bind fun _ => asks_done outcome

/-- Who answers leaves its evaluation the innermost one. -/
theorem left_of_attend {outcome : Outcome} {left : World σ H N} (sound : world.Sound)
    (secured : Secured rest world) (frames : world.frames = ⟨some session, []⟩ :: rest)
    (returned : (attend setup (Run.dispatch setup fuel) session words).exec world =
      .ok outcome left) :
    left.Sound ∧ left.frames = ⟨some session, []⟩ :: rest ∧ ∃ inner,
      left.sessions[session]? = some inner ∧ inner.depth = world.depthOf session := by
  obtain ⟨_, ended, ran, dropped⟩ := exec_bind_ok.mp returned
  obtain ⟨_, _, dropping, ⟨⟩⟩ := exec_bind_ok.mp dropped
  have answers := answers_dispatch setup fuel
  have handled := obeys_runHandler answers setup session words sound secured frames
  obtain ⟨⟨⟨kept, framesEnded⟩, since, _⟩, reached⟩ := handled.exec_ok ran
  have soundEnded := reached.preserved (fun _ _ step => step.sound) sound
  obtain ⟨⟨framesLeft, sinceLeft⟩, reachedLeft⟩ := (obeys_dropKept answers setup.engine soundEnded
    (since.secured secured) framesEnded).exec_ok dropping
  have soundLeft := reachedLeft.preserved (fun _ _ step => step.sound) soundEnded
  obtain ⟨inner, present⟩ := soundLeft.alive framesLeft (holds_caller session [])
  refine ⟨soundLeft, framesLeft, inner, present, ?_⟩
  rw [← since.depth, ← sinceLeft.depth, depthOf, present]

theorem left_of_handle {outcome : Outcome} {left : World σ H N} (sound : world.Sound)
    (secured : Secured rest world) (frames : world.frames = ⟨some session, []⟩ :: rest)
    (known : world.commandsOf session = commands)
    (routed : commands.route words = .handler handler arguments)
    (returned : (handle setup (Run.dispatch setup fuel) session handler arguments).exec world =
      .ok outcome left) :
    left.Sound ∧ left.frames = ⟨some session, []⟩ :: rest ∧ ∃ inner,
      left.sessions[session]? = some inner ∧ inner.depth = world.depthOf session :=
  left_of_attend sound secured frames ((exec_attend known routed).trans returned)

end Handler

end Run

end TclHost
