import TclHost.Proofs.Levels.Level
import TclHost.Scripted.ListFormat

/-!
Handlers that evaluate a script and pass on what comes of it, one inside another. What the innermost
of them comes to arrives at the outermost evaluation as it is, through any number of levels.
-/

namespace TclHost

variable {σ H N α : Type}

def Host.relay (session : SessionId) (script : String) : Host H N Outcome := do
  match ← (Host.eval session script).run with
  | .ok text => return .value text
  | .error cause => return .error (.ofError cause)

def Outcome.relayed : Except Error (Option String) → Outcome
  | .ok text => .value (text.getD "")
  | .error cause => .error (.ofError cause)

theorem Host.relay_eq (session : SessionId) (script : String) :
    (relay session script : Host H N Outcome) =
      .ask (.evaluate session script) fun answer => .done (.relayed answer) := by
  refine congrArg (Program.ask _) (funext fun answer => ?_)
  cases answer <;> rfl

/-- Evaluating the script leads to the handler through so many calls, each but the last from a
handler that passes on what comes of the next script. -/
inductive Leads (setup : Setup σ H N) (session : SessionId) (commands : CommandTable H)
    (handler : H) (arguments : List String) (read : σ) : Nat → String → σ → Prop
  | last {script : String} {words : List String} {store : σ}
      (sends : setup.engine.Sends session script words store read)
      (routed : commands.route words = .handler handler arguments) :
      Leads setup session commands handler arguments read 1 script store
  | relay {script next : String} {words passed : List String} {store between : σ} {relaying : H}
      {count : Nat} (sends : setup.engine.Sends session script words store between)
      (routed : commands.route words = .handler relaying passed)
      (relays : setup.behave relaying session passed = Host.relay session next)
      (rest : Leads setup session commands handler arguments read count next between) :
      Leads setup session commands handler arguments read (count + 1) script store

/-- Passed on, it arrives as the same once more. -/
theorem Outcome.received_relayed {outcome : Outcome} {answer : Except Error String}
    (received : outcome.received = some answer) :
    (Outcome.relayed (answer.map some)).received = some answer := by
  cases outcome with
  | value text =>
      cases received
      rfl
  | panic message =>
      cases received
      rfl
  | error cause =>
      cases cause with
      | exit status => cases received
      | failed message =>
          cases received
          rfl

namespace Record

/-- So many evaluations of the session begin in the entries and are still under way after them. In
those around them no exit is asked for. -/
def Deepens (session : SessionId) (count : Nat) (entries : List (Event N)) : Prop :=
  ∀ view, ∃ last, entries.foldlM (View.next session) view = some last ∧
    last.nested = view.nested + count ∧ last.own = view.own

variable {session : SessionId} {entries rest : List (Event N)}

theorem AsksOnly.deepens (asks : AsksOnly (fun _ => False) entries) :
    Deepens session 0 entries := by
  intro view
  obtain ⟨last, followed, level, own⟩ := asks session view
  exact ⟨last, followed, level, own.resolve_right fun asking => asking.1⟩

theorem Deepens.append {count more : Nat} (first : Deepens session count entries)
    (second : Deepens session more rest) : Deepens session (count + more) (entries ++ rest) := by
  intro view
  obtain ⟨between, followed, level, own⟩ := first view
  obtain ⟨last, followedOn, levelOn, ownOn⟩ := second between
  refine ⟨last, ?_, by omega, ownOn.trans own⟩
  rw [List.foldlM_append, followed]
  exact followedOn

theorem deepens_evaluate (script : List UInt8) :
    Deepens session 1 [(.evaluate session script : Event N)] :=
  fun view => ⟨{ view with nested := view.nested + 1 }, by simp [View.next], rfl, rfl⟩

end Record

/-- No exit that is pending was asked for in an evaluation whose handlers have asked for none. -/
theorem Session.Sound.calm {session : SessionId} {record before body : List (Event N)}
    {state : Session H} {script : List UInt8} {count depth : Nat}
    (sound : state.Sound session record)
    (split : record = before ++ .evaluate session script :: body)
    (deepens : Record.Deepens session count body) (level : state.depth = depth + 1 + count)
    (bounded : ∀ exit, state.pending = some exit → exit.depth ≤ depth + 1) :
    ∀ exit, state.pending = some exit → exit.depth ≤ depth := by
  intro exit pending
  obtain ⟨view, seen, nested, own⟩ := deepens {}
  obtain ⟨_, due⟩ := sound.under_way before script body view split seen
  have bound := bounded exit pending
  by_contra deeper
  have same : exit.depth = state.depth - view.nested := by
    rw [Nat.zero_add] at nested
    omega
  have asked := (due exit.status).mp (by rw [← same]; exact pending)
  rw [Record.View.due?_eq_some_iff, own] at asked
  cases asked.1

namespace Run

open Process World

variable {setup : Setup σ H N} {session : SessionId} {commands : CommandTable H} {handler : H}
  {arguments : List String} {read : σ}

/-! A handler that passes on what comes of a script. -/

theorem exec_dropKept_nothing {engine : Engine σ} {dispatch : Dispatch σ H N} {world : World σ H N}
    {caller : Option SessionId} {rest : List Frame} (frames : world.frames = ⟨caller, []⟩ :: rest) :
    (dropKept engine dispatch).exec world = .ok ⟨⟩ world := by
  refine (exec_bind_of_ok rfl).trans ?_
  simp only [frames]
  rfl

section Relay

variable {dispatch : Dispatch σ H N} {world : World σ H N} {next : String} (present : ∃ state, world.sessions[session]? = some state)
  (mayUse : world.mayUse session = true)
include present mayUse

variable (relays : setup.behave handler session arguments = Host.relay session next)
include relays

theorem exec_handle_relay_error {cause : Halt} {final : World σ H N}
    (halted : (evaluate setup.engine dispatch session next).exec world = .error cause final) :
    (handle setup dispatch session handler arguments).exec world = .error cause final := by
  rw [handle, relays, Host.relay_eq, Program.run, exec_bind, exec_bind,
    exec_perform_evaluate present mayUse, halted]

/-- The handler keeps no handles, so there is nothing that it lets go of. -/
theorem exec_handle_relay_ok {answer : Except Error (Option String)} {later : World σ H N}
    {caller : Option SessionId} {rest : List Frame}
    (returned : (evaluate setup.engine dispatch session next).exec world = .ok answer later)
    (frames : later.frames = ⟨caller, []⟩ :: rest) :
    (handle setup dispatch session handler arguments).exec world =
      .ok (.relayed answer) later := by
  rw [handle, relays, Host.relay_eq, Program.run, exec_bind, exec_bind,
    exec_perform_evaluate present mayUse, returned]
  exact (exec_bind_of_ok (exec_dropKept_nothing frames)).trans rfl

end Relay

/-! All levels. -/

variable {fuel : Nat}

structure Reached (world entered : World σ H N) (session : SessionId) (read : σ) (count : Nat) :
    Prop where
  sound : entered.Sound
  store : entered.scene.store = read
  frames : ∃ outer, entered.frames = ⟨some session, []⟩ :: outer
  depth : entered.depthOf session = world.depthOf session + count
  recorded : ∃ script body further, count = further + 1 ∧
    entered.record = world.record ++ .evaluate session script :: body ∧
    Record.Deepens session further body

structure Conveyed (evaluating : Run σ H N (Except Error (Option String)))
    (world left : World σ H N) (session : SessionId) (count : Nat) (outcome : Outcome)
    (inner : Session H) : Prop where
  sound : left.Sound
  present : left.sessions[session]? = some inner
  depth : inner.depth = world.depthOf session + count
  calm : ∀ exit, inner.pending = some exit → exit.depth ≤ world.depthOf session
  exited : ∀ status, outcome = .error (.exit status) → ∃ final,
    evaluating.exec world = .error (.exited status) final ∧
      final.depthOf session = world.depthOf session + count
  answered : ∀ answer, outcome.received = some answer → ∃ later,
    evaluating.exec world = .ok (answer.map some) later ∧
      ∀ state exit, later.sessions[session]? = some state → state.pending = some exit →
        inner.pending = some exit

def Conveys (evaluating : Run σ H N (Except Error (Option String))) (handling : Run σ H N Outcome)
    (world entered : World σ H N) (session : SessionId) (count : Nat) : Prop :=
  (∀ cause final, handling.exec entered = .error cause final →
    evaluating.exec world = .error cause final) ∧
  ∀ outcome left, handling.exec entered = .ok outcome left →
    ∃ inner, Conveyed evaluating world left session count outcome inner

theorem secured_inside {world : World σ H N} {frame : Frame} {rest : List Frame}
    {state : Session H} (secured : Secured rest world) (frames : world.frames = frame :: rest)
    (held : frame.holds session = true) (present : world.sessions[session]? = some state)
    (engine : Engine σ) (script : List UInt8) (store : σ) (objects : List Obj) :
    Secured world.frames (world.inside engine session script store objects) := by
  intro other running
  rw [frames]
  exact secured_begin present script secured held other running

theorem reached_inside {world : World σ H N} {state : Session H} (sound : world.Sound)
    (present : world.sessions[session]? = some state) {engine : Engine σ} {words : List String}
    (script : List UInt8) {store : σ} {objects : List Obj}
    (reads : engine.Reads objects words store read) :
    Reached world (world.inside engine session script store objects) session read 1 := by
  refine ⟨sound_inside present script store engine objects sound, store_inside script store reads,
    ⟨_, frames_inside script store world session engine objects⟩, ?_, ?_⟩
  · have level := depthOf_begin present script session
    rw [if_pos rfl] at level
    exact level
  · obtain ⟨entries, grown, silent⟩ := record_inside script store world session engine objects
    exact ⟨script, entries, 0, rfl, grown, (Record.asksOnly_of_silent silent).deepens⟩

theorem Reached.trans {world between entered : World σ H N} {given : σ} {count more : Nat}
    (first : Reached world between session given count)
    (second : Reached between entered session read more) :
    Reached world entered session read (count + more) := by
  obtain ⟨script, body, further, rfl, grown, deepens⟩ := first.recorded
  obtain ⟨next, bodyOn, furtherOn, rfl, grownOn, deepensOn⟩ := second.recorded
  have level := first.depth
  have levelOn := second.depth
  refine ⟨second.sound, second.store, second.frames, by omega, script, body ++ .evaluate session next :: bodyOn,
    further + (1 + furtherOn), by omega, ?_, ?_⟩
  · rw [grownOn, grown, List.append_assoc]
    rfl
  · exact deepens.append ((Record.deepens_evaluate next).append deepensOn)

theorem Reached.calm {world entered left : World σ H N} {count : Nat}
    (reached : Reached world entered session read count) {inner : Session H}
    (home : setup.engine.CallsHome) {outcome : Outcome}
    (returned : (handle setup (Run.dispatch setup fuel) session handler arguments).exec entered =
      .ok outcome left) (soundLeft : left.Sound)
    (present : left.sessions[session]? = some inner)
    (depth : inner.depth = world.depthOf session + count)
    (bounded : ∀ exit, inner.pending = some exit → exit.depth ≤ world.depthOf session + 1) :
    ∀ exit, inner.pending = some exit → exit.depth ≤ world.depthOf session := by
  obtain ⟨script, body, further, rfl, grown, deepens⟩ := reached.recorded
  obtain ⟨entries, grownOn, asks⟩ := asks_handle home entered outcome left returned
  have split : left.record = world.record ++ .evaluate session script :: (body ++ entries) := by
    rw [grownOn, grown, List.append_assoc]
    rfl
  have known := soundLeft.sessions session inner present
  exact known.calm split (deepens.append asks.deepens) (by omega) bounded

section Level

variable {world : World σ H N} {frame : Frame} {rest : List Frame} {state : Session H}
  {script : String} {words : List String} {command : Obj} {objects : List Obj} {entered : σ}
  {resume : Int → σ → Reaction σ} (sound : world.Sound) (secured : Secured rest world)
  (frames : world.frames = frame :: rest) (held : frame.holds session = true)
  (known : world.commandsOf session = commands)
  (routed : commands.route words = .handler handler arguments)
  (present : world.sessions[session]? = some state)
  (evaluated : setup.engine.evaluate session (Text.encode script) world.scene.store =
    .callback session (command :: objects) entered resume)
  (reads : setup.engine.Reads objects words entered read)
  (laws : setup.engine.KeepsResults)
  (resumes : ∀ code text later, setup.engine.Tells session text later →
    ∃ left, resume code later = .finished code left ∧ setup.engine.Tells session text left)
include sound secured frames held known routed present evaluated reads laws resumes

/-- What a handler comes to arrives at the evaluation that ran it. -/
theorem level_conveys {outcome : Outcome} {left : World σ H N}
    (returned : (handle setup (Run.dispatch setup fuel) session handler arguments).exec
      (world.inside setup.engine session (Text.encode script) entered objects) =
        .ok outcome left) :
    ∃ inner, left.Sound ∧ left.sessions[session]? = some inner ∧
      inner.depth = world.depthOf session + 1 ∧
      (∀ status, outcome = .error (.exit status) → ∃ final,
        (evaluate setup.engine (Run.dispatch setup (fuel + 1)) session script).exec world =
            .error (.exited status) final ∧ final.depthOf session = world.depthOf session + 1) ∧
      ∀ answer, outcome.received = some answer →
        (∀ exit, inner.pending = some exit → exit.depth ≤ world.depthOf session) → ∃ later,
          (evaluate setup.engine (Run.dispatch setup (fuel + 1)) session script).exec world =
              .ok (answer.map some) later ∧
            ∀ state exit, later.sessions[session]? = some state → state.pending = some exit →
              inner.pending = some exit := by
  have reached := reached_inside sound present (Text.encode script) reads
  have framesInside := frames_inside (Text.encode script) entered world session setup.engine objects
  have waiting : world.frames.any (·.holds session) = true := by simp [frames, held]
  have securedInside := secured_inside secured frames held present setup.engine
    (Text.encode script) entered objects
  have knownInside := (commandsOf_inside present (Text.encode script) entered setup.engine
    objects).trans known
  obtain ⟨soundLeft, framesLeft, inner, presentLeft, level⟩ :=
    left_of_handle reached.sound securedInside framesInside knownInside routed returned
  rw [reached.depth] at level
  refine ⟨inner, soundLeft, presentLeft, level, fun status asked => ?_, fun answer => ?_⟩
  · have exited := exec_level_exited present known routed evaluated reads laws resumes returned
      framesLeft waiting presentLeft level asked
    rwa [level] at exited
  · exact exec_level_answered present known routed evaluated reads laws resumes returned framesLeft
      waiting presentLeft level

end Level

theorem conveys_of_leads (fuel : Nat) (laws : setup.engine.KeepsResults)
    (home : setup.engine.CallsHome) {count : Nat} {script : String} {store : σ}
    (leads : Leads setup session commands handler arguments read count script store)
    {world : World σ H N} {frame : Frame} {rest : List Frame} (sound : world.Sound)
    (secured : Secured rest world) (frames : world.frames = frame :: rest)
    (held : frame.holds session = true) (known : world.commandsOf session = commands)
    (stored : world.scene.store = store) :
    ∃ entered, Reached world entered session read count ∧
      Conveys (evaluate setup.engine (Run.dispatch setup (fuel + count)) session script)
        (handle setup (Run.dispatch setup fuel) session handler arguments) world entered session
        count := by
  induction leads generalizing world frame rest with
  | @last script words store sends routed =>
      obtain ⟨command, objects, entered, resume, evaluated, reads, resumes⟩ := sends
      obtain ⟨state, present⟩ := sound.alive frames held
      subst stored
      have reached := reached_inside sound present (Text.encode script) reads
      refine ⟨_, reached, fun cause final halted => ?_, fun outcome left returned => ?_⟩
      · exact exec_level_error present known routed evaluated reads halted
      · obtain ⟨inner, soundLeft, presentLeft, level, exited, answered⟩ := level_conveys sound
          secured frames held known routed present evaluated reads laws resumes returned
        have within := (soundLeft.sessions session inner presentLeft).within
        have calm := reached.calm home returned soundLeft presentLeft level fun exit pending =>
          level ▸ within exit pending
        exact ⟨inner, soundLeft, presentLeft, level, calm, exited,
          fun answer received => answered answer received calm⟩
  | @relay script next words passed store between relaying count sends routed relays leads ih =>
      obtain ⟨command, objects, entered, resume, evaluated, reads, resumes⟩ := sends
      obtain ⟨state, present⟩ := sound.alive frames held
      subst stored
      have reachedInside := reached_inside sound present (Text.encode script) reads
      have framesInside :=
        frames_inside (Text.encode script) entered world session setup.engine objects
      have securedInside := secured_inside secured frames held present setup.engine
        (Text.encode script) entered objects
      have presentInside := sessions_inside present (Text.encode script) entered setup.engine objects
      have knownInside := (commandsOf_inside present (Text.encode script) entered setup.engine
        objects).trans known
      have mayUse := (mayUse_eq framesInside session).trans (holds_caller session [])
      obtain ⟨innermost, reached, halts, returns⟩ := ih reachedInside.sound securedInside
        framesInside (holds_caller session []) knownInside reachedInside.store
      have reachedAll := reachedInside.trans reached
      have fails {cause : Halt} {final : World σ H N}
          (halted : (evaluate setup.engine (Run.dispatch setup (fuel + count)) session next).exec
            (world.inside setup.engine session (Text.encode script) entered objects) =
              .error cause final) :
          (evaluate setup.engine (Run.dispatch setup (fuel + count + 1)) session script).exec
            world = .error cause final :=
        exec_level_error present known routed evaluated reads
          (exec_handle_relay_error ⟨_, presentInside⟩ mayUse relays halted)
      refine ⟨innermost, Nat.add_comm 1 count ▸ reachedAll, fun cause final halted => ?_,
        fun outcome left returned => ?_⟩
      · exact fails (halts cause final halted)
      · obtain ⟨inner, conveyed⟩ := returns outcome left returned
        have base := reachedInside.depth
        have level : inner.depth = world.depthOf session + (1 + count) := by
          rw [conveyed.depth, base, Nat.add_assoc]
        have calm := reachedAll.calm home returned conveyed.sound conveyed.present level
          fun exit pending => base ▸ conveyed.calm exit pending
        refine ⟨inner, conveyed.sound, conveyed.present, by omega, calm, fun status asked => ?_,
          fun answer received => ?_⟩
        · obtain ⟨final, exited, depth⟩ := conveyed.exited status asked
          exact ⟨final, fails exited, by omega⟩
        · obtain ⟨later, answered, passed⟩ := conveyed.answered answer received
          have kept := ((obeys_evaluate (answers_dispatch setup (fuel + count)) setup.engine session
            next reachedInside.sound securedInside framesInside
            (holds_caller session [])).exec_ok answered).1
          have relayed := exec_handle_relay_ok ⟨_, presentInside⟩ mayUse relays answered
            (kept.frames.trans framesInside)
          obtain ⟨outer, _, presentLater, _, _, answers⟩ := level_conveys sound secured frames held
            known routed present evaluated reads laws resumes relayed
          obtain ⟨last, answeredOn, passedOn⟩ := answers answer (Outcome.received_relayed received)
            fun exit pending => calm exit (passed outer exit presentLater pending)
          refine ⟨last, answeredOn, fun state exit found pending => ?_⟩
          exact passed outer exit presentLater (passedOn state exit found pending)

end Run

/-- Wherever the outermost script is evaluated, the chain of handlers that it leads to is run down
to the innermost one, `entered` being where that one starts. However it ends, with a value, a
failure, a panic or an exit, and whatever characters that holds, is how the outermost evaluation
ends. -/
theorem Host.crosses_levels {setup : Setup σ H N} (results : setup.engine.KeepsResults)
    (home : setup.engine.CallsHome) {world : World σ H N} {caller : Option SessionId}
    {rest : List Frame} (sound : world.Sound) (standing : World.Standing caller rest world)
    {session : SessionId} (mayUse : world.mayUse session = true) {count : Nat} {script : String}
    {handler : H} {arguments : List String} {read : σ}
    (leads : Leads setup session (world.commandsOf session) handler arguments read count script
      world.scene.store) (fuel : Nat) :
    ∃ entered : World σ H N, entered.scene.store = read ∧
      (∃ outer, entered.frames = ⟨some session, []⟩ :: outer) ∧
      entered.depthOf session = world.depthOf session + count ∧
      let outermost := (Host.run setup (fuel + count) (Host.eval session script).run).exec world
      match (Run.handle setup (Run.dispatch setup fuel) session handler arguments).exec entered with
      | .ok (.value text) _ => ∃ later, outermost = .ok (.ok text) later
      | .ok (.error (.failed message)) _ => ∃ later, outermost = .ok (.error (.eval message)) later
      | .ok (.panic message) _ => ∃ later, outermost =
          .ok (.error (.eval ("host command panicked: " ++ panicText message))) later
      | .ok (.error (.exit status)) _ => ∃ final, outermost = .error (.exited status) final ∧
          final.depthOf session = world.depthOf session + count
      | .error cause final => outermost = .error cause final := by
  obtain ⟨kept, frames⟩ := standing.frames
  have held := (World.mayUse_eq frames session).symm.trans mayUse
  have present := sound.alive frames held
  obtain ⟨entered, reached, halts, returns⟩ := Run.conveys_of_leads fuel results home leads sound
    standing.secured frames held rfl rfl
  refine ⟨entered, reached.store, reached.frames, reached.depth, ?_⟩
  rw [Host.exec_eval present mayUse]
  have passes {outcome : Outcome} {left : World σ H N} {answer : Except Error String}
      (returned : (Run.handle setup (Run.dispatch setup fuel) session handler arguments).exec
        entered = .ok outcome left) (received : outcome.received = some answer) :
      ∃ later, (Run.evaluate setup.engine (Run.dispatch setup (fuel + count)) session script).exec
        world = .ok (answer.map some) later := by
    obtain ⟨inner, conveyed⟩ := returns outcome left returned
    obtain ⟨later, answered, _⟩ := conveyed.answered answer received
    exact ⟨later, answered⟩
  cases ending : (Run.handle setup (Run.dispatch setup fuel) session handler arguments).exec
      entered with
  | error cause final =>
      rw [halts cause final ending]
  | ok outcome left =>
      cases outcome with
      | value text =>
          obtain ⟨later, answered⟩ := passes ending rfl
          rw [answered]
          exact ⟨later, rfl⟩
      | panic message =>
          obtain ⟨later, answered⟩ := passes ending rfl
          rw [answered]
          exact ⟨later, rfl⟩
      | error cause =>
          cases cause with
          | failed message =>
              obtain ⟨later, answered⟩ := passes ending rfl
              rw [answered]
              exact ⟨later, rfl⟩
          | exit status =>
              obtain ⟨inner, conveyed⟩ := returns _ left ending
              obtain ⟨final, exited, depth⟩ := conveyed.exited status rfl
              rw [exited]
              exact ⟨final, rfl, depth⟩

/-! A library that keeps texts by their numbers, the first of them being its result. -/

namespace Echo

def lend (words : List (List UInt8)) (store : Nat → List UInt8) : Nat → List UInt8 :=
  fun number => if number < 2 then store number else words.getD (number - 2) []

def evaluate (interp : InterpId) (script : List UInt8) (store : Nat → List UInt8) :
    Reaction (Nat → List UInt8) :=
  match Scripted.splitElements? script with
  | none => .finished 1 store
  | some words =>
      if words.head? = some (Text.encode sendCommand) then
        .callback interp ((List.range' 2 words.length).map Obj.mk) (lend words store) .finished
      else .finished 0 store

def engine : Engine (Nat → List UInt8) where
  create _ store := (true, store)
  init _ store := (0, store)
  preserve _ store := store
  release _ store := store
  createCommand _ _ store := store
  evaluate := evaluate
  makeSafe _ store := .finished 0 store
  delete _ store := .finished 0 store
  newObj store := (none, store)
  newString text store := (⟨1⟩, Function.update store 1 text)
  increment _ store := store
  decrement _ store := store
  append _ _ _ store := (0, store)
  elements _ _ store := (some ⟨0, []⟩, store)
  bytes object store := ((object.map fun object => store object.id).getD [], store)
  result _ store := (some ⟨0⟩, store)
  setResult _ object store := Function.update store 0 (store object.id)

theorem keepsResults : engine.KeepsResults := by
  intro interp text store
  refine ⟨⟨0⟩, _, rfl, ?_⟩
  have kept : (engine.bytes (some ⟨0⟩) (engine.setResult interp
      (engine.newString (Text.encode text) store).1
      (engine.newString (Text.encode text) store).2)).1 = Text.encode text := by
    simp [engine]
  rw [kept]
  exact Text.spells_encode text

theorem callsHome : engine.CallsHome where
  evaluate interp script store := by
    change (evaluate interp script store).Calls (· = interp)
    unfold evaluate
    split
    · trivial
    · split
      · exact ⟨rfl, fun _ _ => trivial⟩
      · trivial
  makeSafe _ _ := trivial
  delete _ _ := trivial

theorem reads {words : List String} {start : Nat} {store : Nat → List UInt8}
    (lent : ∀ index word, words[index]? = some word → store (start + index) = Text.encode word) :
    engine.Reads ((List.range' start words.length).map Obj.mk) words store store := by
  induction words generalizing start with
  | nil => exact .nil store
  | cons word rest ih =>
      refine .cons ?_ (ih fun index other found => ?_)
      · have first : (engine.bytes (some ⟨start⟩) store).1 = Text.encode word := lent 0 word rfl
        rw [first]
        exact Text.spells_encode word
      · rw [Nat.add_right_comm]
        exact lent (index + 1) other found

theorem sends {script : String} {words : List String}
    (split : Scripted.splitElements? (Text.encode script) =
      some (Text.encode sendCommand :: words.map Text.encode)) (interp : InterpId)
    (store : Nat → List UInt8) :
    ∃ read, engine.Sends interp script words store read := by
  let lent := lend (Text.encode sendCommand :: words.map Text.encode) store
  refine ⟨lent, ⟨2⟩, (List.range' 3 words.length).map Obj.mk, lent, .finished, ?_, reads ?_, ?_⟩
  · change evaluate interp (Text.encode script) store = _
    simp [evaluate, split, List.range'_succ, lent]
  · intro index word found
    have number : 3 + index - 2 = index + 1 := by omega
    have later : ¬ 3 + index < 2 := by omega
    simp [lent, lend, number, later, found]
  · intro code text later tells
    exact ⟨later, rfl, tells⟩

def setup : Setup (Nat → List UInt8) Bool Empty where
  engine := engine
  behave
    | true, session, _ => Host.relay session "interp_send inner a\x00b"
    | false, _, arguments => return .value (arguments.headD "")
  libraries _ := .complete
  environment _ := none
  files _ := .ok []

def program : Host Bool Empty Unit := do
  match ← Host.openSession {} with
  | .error _ => return
  | .ok session =>
      discard (Host.insertCommand session "outer" true)
      discard (Host.insertCommand session "inner" false)

def blank : Nat → List UInt8 :=
  fun _ => []

def library : Library where
  outcome := some (.ok "")

def opened : World (Nat → List UInt8) Bool Empty :=
  Process.finalState ((Host.run setup 1 program).exec (World.start blank library))

theorem opened_stands : opened.Sound ∧ World.Standing none [] opened := by
  have ran : Process.result? ((Host.run setup 1 program).exec (World.start blank library)) =
      some () := by decide +kernel
  exact Host.stands_finally (Process.result?_eq_some_iff.mp ran)

theorem value_crosses : opened.Sound ∧ World.Standing none [] opened ∧
    ∃ later, (Host.run setup 3 (Host.eval 0 "interp_send outer").run).exec opened =
      .ok (.ok "a\x00b") later := by
  obtain ⟨sound, standing⟩ := opened_stands
  have mayUse : opened.mayUse 0 = true := by decide +kernel
  have outer : (opened.commandsOf 0).route ["outer"] = .handler true [] := by
    have known : (opened.commandsOf 0).get? "outer" = some true := by decide +kernel
    simp [CommandTable.route, known]
  have inner : (opened.commandsOf 0).route ["inner", "a\x00b"] = .handler false ["a\x00b"] := by
    have known : (opened.commandsOf 0).get? "inner" = some false := by decide +kernel
    simp [CommandTable.route, known]
  obtain ⟨between, first⟩ : ∃ read, engine.Sends 0 "interp_send outer" ["outer"] _ read :=
    sends (by decide +kernel) 0 opened.scene.store
  obtain ⟨read, second⟩ : ∃ read,
      engine.Sends 0 "interp_send inner a\x00b" ["inner", "a\x00b"] _ read :=
    sends (by decide +kernel) 0 between
  have leads : Leads setup 0 (opened.commandsOf 0) false ["a\x00b"] read 2 "interp_send outer"
      opened.scene.store :=
    .relay first outer rfl (.last second inner)
  obtain ⟨entered, _, ⟨waiting, frames⟩, _, ends⟩ :=
    Host.crosses_levels keepsResults callsHome sound standing mayUse leads 1
  have handled : (Run.handle setup (Run.dispatch setup 1) 0 false ["a\x00b"]).exec entered =
      .ok (.value "a\x00b") entered :=
    Process.exec_bind_of_ok (Run.exec_dropKept_nothing frames)
  rw [handled] at ends
  exact ⟨sound, standing, ends⟩

end Echo

end TclHost
