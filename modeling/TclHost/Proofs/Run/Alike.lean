import TclHost.Host.Run
import TclHost.Proofs.Process
import TclHost.Proofs.Run.Quiet

/-!
Two libraries that answer alike make for the same runs, even if one of them keeps more in its store
than the other. The handlers, too, may be others, so long as they do the same wherever they are
called.
-/

namespace TclHost

variable {σ τ H N α β : Type}

/-- The second reaction is the first one, for somebody who sees only part of the store. -/
def Reaction.Mirrors (view : σ → τ) : Reaction σ → Reaction τ → Prop
  | .finished code store, .finished other seen => other = code ∧ seen = view store
  | .callback interp words store resume, .callback other given seen proceed =>
      other = interp ∧ given = words ∧ seen = view store ∧
        ∀ code later, (resume code later).Mirrors view (proceed code (view later))
  | _, _ => False

structure Engine.Mirrors (view : σ → τ) (engine : Engine σ) (other : Engine τ) : Prop where
  create : ∀ interp store,
    other.create interp (view store) = Prod.map id view (engine.create interp store)
  init : ∀ interp store,
    other.init interp (view store) = Prod.map id view (engine.init interp store)
  preserve : ∀ interp store,
    other.preserve interp (view store) = view (engine.preserve interp store)
  release : ∀ interp store, other.release interp (view store) = view (engine.release interp store)
  createCommand : ∀ interp name store,
    other.createCommand interp name (view store) = view (engine.createCommand interp name store)
  evaluate : ∀ interp script store,
    (engine.evaluate interp script store).Mirrors view (other.evaluate interp script (view store))
  makeSafe : ∀ interp store,
    (engine.makeSafe interp store).Mirrors view (other.makeSafe interp (view store))
  delete : ∀ interp store,
    (engine.delete interp store).Mirrors view (other.delete interp (view store))
  newObj : ∀ store, other.newObj (view store) = Prod.map id view (engine.newObj store)
  newString : ∀ text store,
    other.newString text (view store) = Prod.map id view (engine.newString text store)
  increment : ∀ object store,
    other.increment object (view store) = view (engine.increment object store)
  decrement : ∀ object store,
    other.decrement object (view store) = view (engine.decrement object store)
  append : ∀ interp list element store, other.append interp list element (view store) =
    Prod.map id view (engine.append interp list element store)
  elements : ∀ interp object store, other.elements interp object (view store) =
    Prod.map id view (engine.elements interp object store)
  bytes : ∀ object store,
    other.bytes object (view store) = Prod.map id view (engine.bytes object store)
  result : ∀ interp store,
    other.result interp (view store) = Prod.map id view (engine.result interp store)
  setResult : ∀ interp object store,
    other.setResult interp object (view store) = view (engine.setResult interp object store)

def Scene.through (view : σ → τ) (scene : Scene σ N) : Scene τ N where
  store := view scene.store
  events := scene.events

namespace Call

def Mirrors (view : σ → τ) (call : Call σ N α) (other : Call τ N α) : Prop :=
  ∀ scene, other.run (scene.through view) = Prod.map id (Scene.through view) (call.run scene)

variable {view : σ → τ}

theorem mirrors_pure (answer : α) :
    Mirrors view (pure answer : Call σ N α) (pure answer : Call τ N α) :=
  fun _ => rfl

theorem Mirrors.bind {call : Call σ N α} {other : Call τ N α} {next : α → Call σ N β}
    {rest : α → Call τ N β} (mirrors : Mirrors view call other)
    (onward : ∀ answer, Mirrors view (next answer) (rest answer)) :
    Mirrors view (call >>= next) (other >>= rest) := by
  intro scene
  have first := mirrors scene
  have second := onward (call.run scene).1 (call.run scene).2
  calc (other >>= rest).run (scene.through view)
      = (rest (other.run (scene.through view)).1).run (other.run (scene.through view)).2 := rfl
    _ = (rest (call.run scene).1).run ((call.run scene).2.through view) := by rw [first]; rfl
    _ = Prod.map id (Scene.through view) ((call >>= next).run scene) := second

theorem mirrors_emit (event : Event N) :
    Mirrors view (emit event : Call σ N Unit) (emit event : Call τ N Unit) :=
  fun _ => rfl

theorem mirrors_act {call : σ → α × σ} {other : τ → α × τ}
    (same : ∀ store, other (view store) = Prod.map id view (call store)) :
    Mirrors view (act call : Call σ N α) (act other : Call τ N α) := by
  intro scene
  change Prod.map id (Scene.mk · scene.events) (other (view scene.store)) = _
  rw [same]
  rfl

theorem mirrors_change {call : σ → σ} {other : τ → τ}
    (same : ∀ store, other (view store) = view (call store)) :
    Mirrors view (change call : Call σ N Unit) (change other : Call τ N Unit) := by
  intro scene
  change (PUnit.unit, Scene.mk (other (view scene.store)) scene.events) = _
  rw [same]
  rfl

theorem mirrors_mapM {items : List α} {body : α → Call σ N β} {other : α → Call τ N β}
    (each : ∀ item, Mirrors view (body item) (other item)) :
    Mirrors view (items.mapM body) (items.mapM other) := by
  induction items with
  | nil => exact mirrors_pure []
  | cons item rest ih =>
      rw [List.mapM_cons, List.mapM_cons]
      exact (each item).bind fun _ => ih.bind fun _ => mirrors_pure _

theorem mirrors_forM {items : List α} {body : α → Call σ N PUnit} {other : α → Call τ N PUnit}
    (each : ∀ item, Mirrors view (body item) (other item)) :
    Mirrors view (items.forM body) (items.forM other) := by
  induction items with
  | nil => exact mirrors_pure _
  | cons item rest ih => exact (each item).bind fun _ => ih

variable {engine : Engine σ} {other : Engine τ} (mirrors : engine.Mirrors view other)
include mirrors

theorem mirrors_newText (text : String) :
    Mirrors view (newText engine text : Call σ N Obj) (newText other text) :=
  (mirrors_act (mirrors.newString _)).bind fun _ =>
    (mirrors_emit _).bind fun _ => mirrors_pure _

theorem mirrors_text (object : Option Obj) :
    Mirrors view (text engine object : Call σ N String) (text other object) :=
  (mirrors_act (mirrors.bytes object)).bind fun _ =>
    (mirrors_emit _).bind fun _ => mirrors_pure _

theorem mirrors_result (interp : InterpId) :
    Mirrors view (result engine interp : Call σ N String) (result other interp) := by
  refine (mirrors_act (mirrors.result interp)).bind fun object => (mirrors_emit _).bind fun _ => ?_
  cases object with
  | none => exact mirrors_pure ""
  | some object => exact mirrors_text mirrors (some object)

theorem mirrors_setResult (interp : InterpId) (text : String) :
    Mirrors view (setResult engine interp text : Call σ N Unit) (setResult other interp text) :=
  (mirrors_newText mirrors text).bind fun object =>
    (mirrors_change (mirrors.setResult interp object)).bind fun _ => mirrors_emit _

theorem mirrors_withReference (object : Option Obj) {body : Call σ N α} {same : Call τ N α}
    (inner : Mirrors view body same) :
    Mirrors view (withReference engine object body) (withReference other object same) := by
  cases object with
  | none => exact inner
  | some object =>
      refine Mirrors.bind ?_ fun _ => inner.bind fun _ => Mirrors.bind ?_ fun _ => mirrors_pure _
      · exact (mirrors_change (mirrors.increment object)).bind fun _ => mirrors_emit _
      · exact (mirrors_change (mirrors.decrement object)).bind fun _ => mirrors_emit _

theorem mirrors_quoteList (interp : InterpId) (words : List String) :
    Mirrors view (quoteList engine interp words : Call σ N String)
      (quoteList other interp words) := by
  have asked : Mirrors view (newObj engine : Call σ N (Option Obj)) (newObj other) :=
    (mirrors_act mirrors.newObj).bind fun _ => (mirrors_emit _).bind fun _ => mirrors_pure _
  refine asked.bind fun list => mirrors_withReference mirrors list ?_
  refine (mirrors_forM fun word => ?_).bind fun _ => mirrors_text mirrors list
  refine (mirrors_newText mirrors word).bind fun element => mirrors_withReference mirrors _ ?_
  have appended : Mirrors view (append engine interp list element : Call σ N Int)
      (append other interp list element) :=
    (mirrors_act (mirrors.append interp list element)).bind fun _ =>
      (mirrors_emit _).bind fun _ => mirrors_pure _
  exact appended.bind fun _ => mirrors_pure _

theorem mirrors_splitList (interp : InterpId) (list : String) :
    Mirrors view (splitList engine interp list : Call σ N (Option (List String)))
      (splitList other interp list) := by
  refine (mirrors_newText mirrors list).bind fun object => mirrors_withReference mirrors _ ?_
  have split : Mirrors view (elements engine interp object : Call σ N (Option (List Obj)))
      (elements other interp object) :=
    (mirrors_act (mirrors.elements interp object)).bind fun _ =>
      (mirrors_emit _).bind fun _ => mirrors_pure _
  refine split.bind fun items => ?_
  cases items with
  | none => exact mirrors_pure none
  | some items =>
      refine (mirrors_mapM fun item => ?_).bind fun _ => mirrors_pure _
      exact mirrors_withReference mirrors _ (mirrors_text mirrors (some item))

end Call

namespace World

structure Routes (world : World σ H N) (session : SessionId) (handler : H)
    (arguments : List String) : Prop where
  frames : ∃ rest, world.frames = ⟨some session, []⟩ :: rest
  called : ∃ before reads, world.record = before ++ .called session :: reads ∧
    ∀ event ∈ reads, event.IsObject
  routed : ∃ state words, world.sessions[session]? = some state ∧
    state.commands.route words = .handler handler arguments

variable {view : σ → τ}

def through (view : σ → τ) (world : World σ H N) : World τ H N where
  scene := world.scene.through view
  library := world.library
  created := world.created
  sessions := world.sessions
  desk := world.desk
  frames := world.frames

theorem desk_through (view : σ → τ) (world : World σ H N) :
    (world.through view).desk = world.desk := rfl

theorem sessions_through (view : σ → τ) (world : World σ H N) :
    (world.through view).sessions = world.sessions := rfl

theorem frames_through (view : σ → τ) (world : World σ H N) :
    (world.through view).frames = world.frames := rfl

theorem through_update (world : World σ H N) (session : SessionId) (change : Session H → Session H) :
    (world.through view).update session change = (world.update session change).through view := by
  cases found : world.sessions[session]? with
  | none => simp [update, World.through, found]
  | some state => simp [update, World.through, found]

theorem through_push (world : World σ H N) (event : Event N) :
    (world.through view).push event = (world.push event).through view := rfl

theorem through_keep (world : World σ H N) (session : SessionId) :
    (world.through view).keep session = (world.keep session).through view := by
  cases frames : world.frames with
  | nil => simp [keep, World.through, frames]
  | cons frame rest => simp [keep, World.through, frames]

theorem through_enrol (world : World σ H N) (session : SessionId) :
    (world.through view).enrol session = (world.enrol session).through view :=
  through_keep { world with sessions := world.sessions.insert session {} } session

theorem through_noted (world : World σ H N) (session : SessionId) (change : Session H → Session H)
    (event : Event N) : ((world.through view).update session change).push event =
      ((world.update session change).push event).through view := by
  rw [through_update, through_push]

end World

namespace Run

variable {granted : World σ H N → Prop} {view : σ → τ}

def Mirrors (granted : World σ H N → Prop) (view : σ → τ) (run : Run σ H N α)
    (other : Run τ H N α) : Prop :=
  ∀ world, Process.Mirrors granted (World.through view) run other world

theorem mirrors_pure (answer : α) :
    Mirrors granted view (pure answer : Run σ H N α) (pure answer : Run τ H N α) :=
  fun _ => rfl

theorem mirrors_stop (cause : Halt) :
    Mirrors granted view (stop cause : Run σ H N α) (stop cause : Run τ H N α) :=
  fun _ => ⟨rfl, rfl⟩

theorem Mirrors.bind {run : Run σ H N α} {other : Run τ H N α} {next : α → Run σ H N β}
    {rest : α → Run τ H N β} (mirrors : Mirrors granted view run other)
    (onward : ∀ answer, Mirrors granted view (next answer) (rest answer)) :
    Mirrors granted view (run >>= next) (other >>= rest) :=
  fun world => (mirrors world).bind fun answer later => onward answer later

theorem mirrors_get_bind {next : World σ H N → Run σ H N α} {rest : World τ H N → Run τ H N α}
    (onward : ∀ world, Mirrors granted view (next world) (rest (world.through view))) :
    Mirrors granted view (get >>= next) (get >>= rest) :=
  fun world => ⟨rfl, fun _ => onward world world⟩

theorem mirrors_get_bind_at {next : World σ H N → Run σ H N α} {rest : World τ H N → Run τ H N α}
    {world : World σ H N} (onward : granted world → Process.Mirrors granted (World.through view)
      (next world) (rest (world.through view)) world) :
    Process.Mirrors granted (World.through view) (get >>= next) (get >>= rest) world :=
  ⟨rfl, onward⟩

theorem mirrors_store_bind {next : σ → Run σ H N α} {rest : τ → Run τ H N α}
    (onward : ∀ store, Mirrors granted view (next store) (rest (view store))) :
    Mirrors granted view (store >>= next) (store >>= rest) :=
  fun world => ⟨rfl, fun _ => onward world.scene.store world⟩

theorem mirrors_modify {change : World σ H N → World σ H N} {other : World τ H N → World τ H N}
    (same : ∀ world, other (world.through view) = (change world).through view) :
    Mirrors granted view (modify change : Run σ H N PUnit) (modify other) :=
  fun world => ⟨same world, fun _ => rfl⟩

theorem mirrors_set {given : World σ H N} {other : World τ H N}
    (same : other = given.through view) : Mirrors granted view (set given : Run σ H N PUnit) (set other) :=
  fun _ => ⟨same, fun _ => rfl⟩

theorem mirrors_call {call : Call σ N α} {other : Call τ N α}
    (mirrors : Call.Mirrors view call other) :
    Mirrors granted view (Run.call call : Run σ H N α) (Run.call other) := by
  intro world
  have same := mirrors world.scene
  refine ⟨?_, ?_⟩
  · change ({ world.through view with scene := (other.run (world.scene.through view)).2 } :
      World τ H N) = _
    rw [same]
    rfl
  · exact fun _ => congrArg Prod.fst same

theorem mirrors_call_bind {call : Call σ N α} {other : Call τ N α} {next : α → Run σ H N β}
    {rest : α → Run τ H N β} {world : World σ H N} (mirrors : Call.Mirrors view call other)
    (onward : Process.Mirrors granted (World.through view) (next (call.run world.scene).1)
      (rest (call.run world.scene).1) { world with scene := (call.run world.scene).2 }) :
    Process.Mirrors granted (World.through view) (Run.call call >>= next) (Run.call other >>= rest)
      world := by
  have called : Mirrors granted view (Run.call call : Run σ H N α) (Run.call other) :=
    mirrors_call mirrors
  refine ⟨(called world).1, fun _ => ?_⟩
  have same : (other.run (world.scene.through view)).1 = (call.run world.scene).1 :=
    congrArg Prod.fst (mirrors world.scene)
  exact same ▸ onward

theorem mirrors_emit (event : Event N) :
    Mirrors granted view (emit event : Run σ H N Unit) (emit event) :=
  mirrors_call (Call.mirrors_emit event)

theorem mirrors_setStore (store : σ) :
    Mirrors granted view (setStore store : Run σ H N Unit) (setStore (view store)) :=
  mirrors_modify fun _ => rfl

theorem mirrors_update (session : SessionId) (change : Session H → Session H) :
    Mirrors granted view (update session change : Run σ H N Unit) (update session change) :=
  mirrors_modify fun world => world.through_update session change

theorem mirrors_discard {run : Run σ H N α} {other : Run τ H N α}
    (mirrors : Mirrors granted view run other) : Mirrors granted view (discard run) (discard other) :=
  mirrors.bind fun _ => mirrors_pure _

theorem mirrors_held (session : SessionId) :
    Mirrors granted view (held session : Run σ H N (Session H)) (held session) := by
  refine mirrors_get_bind fun world => ?_
  have usable : (world.through view).mayUse session = world.mayUse session := rfl
  rw [world.sessions_through view, usable]
  cases world.sessions[session]? with
  | none => exact mirrors_stop _
  | some state =>
      by_cases may : world.mayUse session = true
      · simp only [may, if_true]
        exact mirrors_pure state
      · simp only [may]
        exact mirrors_stop _

theorem mirrors_forM {items : List α} {body : α → Run σ H N PUnit} {other : α → Run τ H N PUnit}
    (each : ∀ item, Mirrors granted view (body item) (other item)) :
    Mirrors granted view (items.forM body) (items.forM other) := by
  induction items with
  | nil => exact mirrors_pure _
  | cons item rest ih => exact (each item).bind fun _ => ih

def DispatchMirrors (granted : World σ H N → Prop) (view : σ → τ) (dispatch : Dispatch σ H N)
    (other : Dispatch τ H N) : Prop :=
  ∀ (interp : InterpId) (words : List Obj) (world : World σ H N) (before : List (Event N)),
    world.record = before ++ [.called interp] → Process.Mirrors granted (World.through view)
      (dispatch interp words) (other interp words) world

variable {engine : Engine σ} {other : Engine τ} {dispatch : Dispatch σ H N}
  {respond : Dispatch τ H N}

theorem mirrors_follow (answers : DispatchMirrors granted view dispatch respond) {reaction : Reaction σ}
    {seen : Reaction τ} (same : reaction.Mirrors view seen) :
    Mirrors granted view (follow dispatch reaction) (follow respond seen) := by
  induction reaction generalizing seen with
  | finished code store =>
      cases seen with
      | finished =>
          obtain ⟨rfl, rfl⟩ := same
          exact (mirrors_setStore store).bind fun _ => mirrors_pure _
      | callback => cases same
  | callback interp words store resume ih =>
      cases seen with
      | finished => cases same
      | callback =>
          obtain ⟨rfl, rfl, rfl, resumed⟩ := same
          refine (mirrors_setStore store).bind fun _ world => ⟨rfl, fun _ => ?_⟩
          refine (answers _ _ _ world.record (World.record_push world _)).bind fun reply => ?_
          refine (mirrors_emit _).bind fun _ => mirrors_store_bind fun later => ?_
          exact ih _ later (resumed reply.code later)

variable (mirrors : engine.Mirrors view other) (answers : DispatchMirrors granted view dispatch respond)
include mirrors answers

theorem mirrors_sweep (session : SessionId) :
    Mirrors granted view (sweep engine dispatch session) (sweep other respond session) := by
  refine mirrors_get_bind fun world => ?_
  have unused : ((world.through view).sessions.contains session && !(world.through view).holds session) =
      (world.sessions.contains session && !world.holds session) := rfl
  rw [unused]
  by_cases goes : (world.sessions.contains session && !world.holds session) = true
  · simp only [goes, if_true]
    refine Mirrors.bind (mirrors_modify ?_) fun _ => mirrors_store_bind fun store => ?_
    · exact fun _ => rfl
    · refine (mirrors_discard (mirrors_follow answers (mirrors.delete session store))).bind ?_
      exact fun _ => mirrors_call ((Call.mirrors_emit _).bind fun _ =>
        Call.mirrors_change (mirrors.release session))
  · simp only [goes]
    exact mirrors_pure _

theorem mirrors_letGo :
    Mirrors granted view (letGo engine dispatch) (letGo other respond) := by
  refine mirrors_get_bind fun world => ?_
  rw [world.frames_through view]
  cases world.frames with
  | nil => exact mirrors_pure _
  | cons frame rest =>
      obtain ⟨caller, kept⟩ := frame
      cases kept with
      | nil => exact mirrors_pure _
      | cons session kept =>
          exact (mirrors_set rfl).bind fun _ => mirrors_sweep mirrors answers session

theorem mirrors_dropKept :
    Mirrors granted view (dropKept engine dispatch) (dropKept other respond) := by
  refine mirrors_get_bind fun world => ?_
  rw [world.frames_through view]
  cases world.frames with
  | nil => exact mirrors_pure _
  | cons frame rest => exact mirrors_forM fun _ => mirrors_letGo mirrors answers

theorem mirrors_endFrame (caller : SessionId) :
    Mirrors granted view (endFrame engine dispatch caller) (endFrame other respond caller) := by
  refine Mirrors.bind (mirrors_modify ?_) fun _ => mirrors_sweep mirrors answers caller
  exact fun _ => rfl

omit mirrors answers in
theorem mirrors_complete (session : SessionId) (depth : Nat) (code : Int) :
    Mirrors granted view (complete session depth code : Run σ H N Unit) (complete session depth code) := by
  refine mirrors_get_bind fun world => ?_
  rw [world.sessions_through view]
  cases world.sessions[session]?.bind (·.exitStatus? depth (Completion.ofCode code)) with
  | none => exact mirrors_modify fun world => world.through_noted session _ _
  | some status => exact fun world => ⟨rfl, world.through_noted session _ _⟩

omit answers in
theorem mirrors_result (session : SessionId) : Mirrors granted view
    (Run.call (Call.result engine session) : Run σ H N String)
    (Run.call (Call.result other session)) :=
  mirrors_call (Call.mirrors_result mirrors session)

theorem mirrors_evaluate (session : SessionId) (script : String) :
    Mirrors granted view (evaluate engine dispatch session script)
      (evaluate other respond session script) := by
  refine (mirrors_modify fun world => world.through_noted session _ _).bind fun _ => ?_
  refine mirrors_get_bind fun world => mirrors_store_bind fun store => ?_
  refine (mirrors_follow answers (mirrors.evaluate session _ store)).bind fun code => ?_
  refine (mirrors_complete session _ code).bind fun _ => Mirrors.bind ?_ fun answer => ?_
  · cases Completion.ofCode code with
    | success | error => exact (mirrors_result mirrors session).bind fun _ => mirrors_pure _
    | other code => exact mirrors_pure _
  · exact (mirrors_modify fun world => world.through_noted session _ _).bind fun _ => mirrors_pure _

theorem mirrors_makeSafe (session : SessionId) :
    Mirrors granted view (makeSafe engine dispatch session) (makeSafe other respond session) := by
  refine mirrors_get_bind fun world => ?_
  rw [world.sessions_through view]
  by_cases safe : (world.sessions[session]?.any (·.safe)) = true
  · simp only [safe, if_true]
    exact mirrors_pure _
  · simp only [safe]
    refine (mirrors_emit _).bind fun _ => mirrors_store_bind fun store => ?_
    refine (mirrors_follow answers (mirrors.makeSafe session store)).bind fun code => ?_
    refine (mirrors_modify fun world => world.through_noted session _ _).bind fun _ => ?_
    by_cases failed : code ≠ 0
    · rw [if_pos failed, if_pos failed]
      exact (mirrors_result mirrors session).bind fun _ => mirrors_pure _
    · rw [if_neg failed, if_neg failed]
      exact mirrors_pure _

/-! Opening sessions. -/

omit mirrors answers in
theorem mirrors_attempt {run : ExceptT Error (Run σ H N) α} {same : ExceptT Error (Run τ H N) α}
    {next : α → ExceptT Error (Run σ H N) β} {rest : α → ExceptT Error (Run τ H N) β}
    (first : Mirrors granted view run.run same.run)
    (onward : ∀ answer, Mirrors granted view (next answer).run (rest answer).run) :
    Mirrors granted view (run >>= next).run (same >>= rest).run := by
  rw [ExceptT.run_bind, ExceptT.run_bind]
  refine first.bind fun outcome => ?_
  cases outcome with
  | ok answer => exact onward answer
  | error cause => exact mirrors_pure _

theorem mirrors_listResult (session : SessionId) (script : String) :
    Mirrors granted view (listResult engine dispatch session script).run
      (listResult other respond session script).run := by
  refine mirrors_attempt (mirrors_evaluate mirrors answers session script) fun text => ?_
  rw [ExceptT.run_bind_lift, ExceptT.run_bind_lift]
  refine (mirrors_call (Call.mirrors_splitList mirrors session _)).bind fun items => ?_
  exact mirrors_pure _

theorem mirrors_prepare (session : SessionId) (safe : Bool) :
    Mirrors granted view (prepare engine dispatch session safe).run
      (prepare other respond session safe).run := by
  have finish : Mirrors granted view
      (ExceptT.lift (modify (·.ready session)) : ExceptT Error (Run σ H N) PUnit).run
      (ExceptT.lift (modify (·.ready session)) : ExceptT Error (Run τ H N) PUnit).run :=
    (mirrors_modify fun world => world.through_noted session _ _).bind fun _ => mirrors_pure _
  refine mirrors_attempt (mirrors_listResult mirrors answers session _) fun procs => ?_
  refine mirrors_attempt (mirrors_listResult mirrors answers session _) fun vars => ?_
  rw [ExceptT.run_bind_lift, ExceptT.run_bind_lift]
  refine (mirrors_update session _).bind fun _ => ?_
  cases safe with
  | false => exact finish
  | true => exact mirrors_attempt (mirrors_makeSafe mirrors answers session) fun _ => finish

omit answers in
theorem mirrors_allocate :
    Mirrors granted view (allocate engine : Run σ H N (Except Error SessionId)) (allocate other) := by
  refine mirrors_get_bind fun world => Mirrors.bind (mirrors_modify ?_) fun _ => ?_
  · exact fun _ => rfl
  · have created : Call.Mirrors view (Call.create engine world.created : Call σ N Bool)
        (Call.create other world.created) :=
      (Call.mirrors_emit _).bind fun _ => Call.mirrors_act (mirrors.create _)
    refine (mirrors_call created).bind fun granted => ?_
    cases granted with
    | false => exact mirrors_pure _
    | true =>
        refine (mirrors_discard (mirrors_call ((Call.mirrors_emit _).bind fun _ =>
          Call.mirrors_act (mirrors.init _)))).bind fun _ => ?_
        refine (mirrors_call ((Call.mirrors_emit _).bind fun _ =>
          Call.mirrors_change (mirrors.preserve _))).bind fun _ => ?_
        refine Mirrors.bind (mirrors_modify ?_) fun _ => ?_
        · exact fun between => World.through_enrol between world.created
        · refine (mirrors_call ((Call.mirrors_emit _).bind fun _ =>
            Call.mirrors_change (mirrors.createCommand _ _))).bind fun _ => ?_
          exact mirrors_pure _

theorem mirrors_handOut (session : SessionId) (safe : Bool) :
    Mirrors granted view (handOut engine dispatch session safe) (handOut other respond session safe) := by
  refine (mirrors_prepare mirrors answers session safe).bind fun outcome => ?_
  cases outcome with
  | error cause => exact (mirrors_letGo mirrors answers).bind fun _ => mirrors_pure _
  | ok => exact mirrors_pure _

end Run

def Setup.withEngine (setup : Setup τ H N) (engine : Engine σ) : Setup σ H N where
  engine := engine
  behave := setup.behave
  libraries := setup.libraries
  environment := setup.environment
  files := setup.files

structure Setup.Mirrors (granted : World σ H N → Prop) (view : σ → τ) (setup : Setup σ H N)
    (other : Setup τ H N) : Prop where
  engine : setup.engine.Mirrors view other.engine
  behave : ∀ world session handler arguments, granted world →
    world.Routes session handler arguments →
    other.behave handler session arguments = setup.behave handler session arguments
  libraries : other.libraries = setup.libraries
  environment : other.environment = setup.environment
  files : other.files = setup.files

namespace Run

variable {granted : World σ H N → Prop} {view : σ → τ} {setup : Setup σ H N} {other : Setup τ H N}
  {dispatch : Dispatch σ H N} {respond : Dispatch τ H N} (mirrors : setup.Mirrors granted view other)
  (answers : DispatchMirrors granted view dispatch respond)
include mirrors answers

theorem mirrors_openSession (config : Config) :
    Mirrors granted view (openSession setup dispatch config)
      (openSession other respond config) := by
  refine mirrors_get_bind fun world => ?_
  have same : (world.through view).library.load other.libraries config =
      world.library.load setup.libraries config := by
    rw [mirrors.libraries]
    rfl
  rw [same]
  generalize world.library.load setup.libraries config = loaded
  obtain ⟨outcome, library⟩ := loaded
  refine Mirrors.bind (mirrors_modify ?_) fun _ => ?_
  · exact fun _ => rfl
  · cases outcome with
    | error cause => exact mirrors_pure _
    | ok path =>
        refine (mirrors_allocate mirrors.engine).bind fun outcome => ?_
        cases outcome with
        | error cause => exact mirrors_pure _
        | ok session => exact mirrors_handOut mirrors.engine answers session config.safe

/-! Requests. -/

omit mirrors answers in
theorem mirrors_using (session : SessionId) {run : Run σ H N α} {other : Run τ H N α}
    (same : Mirrors granted view run other) :
    Mirrors granted view (discard (held session) >>= fun _ => run)
      (discard (held session) >>= fun _ => other) :=
  (mirrors_discard (mirrors_held session)).bind fun _ => same

omit mirrors answers in
theorem mirrors_keep (session : SessionId) (answer : α) :
    Mirrors granted view (do modify (·.keep session); return answer : Run σ H N α)
      (do modify (·.keep session); return answer) :=
  (mirrors_modify fun world => world.through_keep session).bind fun _ => mirrors_pure _

theorem mirrors_put (change : Desk → Desk) (replaced : Option SessionId) :
    Mirrors granted view
      (do modify fun world => { world with desk := change world.desk }
          sweepReplaced setup.engine dispatch replaced)
      (do modify fun world => { world with desk := change world.desk }
          sweepReplaced other.engine respond replaced) := by
  refine Mirrors.bind (mirrors_modify fun _ => rfl) fun _ => ?_
  cases replaced with
  | none => exact mirrors_pure _
  | some session => exact mirrors_sweep mirrors.engine answers session

theorem mirrors_drop (change : Desk → Desk) (session : SessionId) (answer : α) :
    Mirrors granted view
      (do modify fun world => { world with desk := change world.desk }
          sweep setup.engine dispatch session
          return answer)
      (do modify fun world => { world with desk := change world.desk }
          sweep other.engine respond session
          return answer) := by
  refine Mirrors.bind (mirrors_modify fun _ => rfl) fun _ => ?_
  exact (mirrors_sweep mirrors.engine answers session).bind fun _ => mirrors_pure _

theorem mirrors_perform (request : Request H N) :
    Mirrors granted view (perform setup dispatch request)
      (perform other respond request) := by
  cases request with
  | evaluate session script =>
      exact mirrors_using session (mirrors_evaluate mirrors.engine answers session script)
  | makeSafe session => exact mirrors_using session (mirrors_makeSafe mirrors.engine answers session)
  | result session => exact mirrors_using session (mirrors_result mirrors.engine session)
  | quoteList session words =>
      exact mirrors_using session (mirrors_call (Call.mirrors_quoteList mirrors.engine session words))
  | splitList session list =>
      exact mirrors_using session (mirrors_call (Call.mirrors_splitList mirrors.engine session list))
  | inspect session => exact mirrors_held session
  | insertCommand session name handler =>
      refine (mirrors_held session).bind fun state => (mirrors_update session _).bind fun _ => ?_
      exact mirrors_pure _
  | eraseCommand session name =>
      refine (mirrors_held session).bind fun state => (mirrors_update session _).bind fun _ => ?_
      exact mirrors_pure _
  | setReceiver session receiver => exact mirrors_using session (mirrors_update session _)
  | openSession config => exact mirrors_openSession mirrors answers config
  | takeInterp name =>
      refine mirrors_get_bind fun world => ?_
      rw [world.desk_through view]
      cases world.desk.interps[name]? with
      | none => exact mirrors_pure _
      | some session => exact mirrors_keep session _
  | takeProc name =>
      refine mirrors_get_bind fun world => ?_
      rw [world.desk_through view]
      cases world.desk.procs[name]? with
      | none => exact mirrors_pure _
      | some proc => exact mirrors_keep proc.session _
  | takeVar name =>
      refine mirrors_get_bind fun world => ?_
      rw [world.desk_through view]
      cases world.desk.vars[name]? with
      | none => exact mirrors_pure _
      | some var => exact mirrors_keep var.session _
  | letGo => exact mirrors_letGo mirrors.engine answers
  | putInterp name session =>
      refine mirrors_using session (mirrors_get_bind fun world => ?_)
      exact mirrors_put mirrors answers
        (fun desk => { desk with interps := world.desk.interps.insert name session }) _
  | putProc name proc =>
      refine mirrors_using proc.session (mirrors_get_bind fun world => ?_)
      exact mirrors_put mirrors answers
        (fun desk => { desk with procs := world.desk.procs.insert name proc }) _
  | putVar name var =>
      refine mirrors_using var.session (mirrors_get_bind fun world => ?_)
      exact mirrors_put mirrors answers
        (fun desk => { desk with vars := world.desk.vars.insert name var }) _
  | dropInterp name =>
      refine mirrors_get_bind fun world => ?_
      rw [world.desk_through view]
      dsimp only
      cases world.desk.interps[name]? with
      | none => exact mirrors_pure _
      | some session =>
          exact mirrors_drop mirrors answers
            (fun desk => { desk with interps := world.desk.interps.erase name }) session true
  | dropProc name =>
      refine mirrors_get_bind fun world => ?_
      rw [world.desk_through view]
      dsimp only
      cases world.desk.procs[name]? with
      | none => exact mirrors_pure _
      | some proc =>
          exact mirrors_drop mirrors answers
            (fun desk => { desk with procs := world.desk.procs.erase name }) proc.session true
  | dropVar name =>
      refine mirrors_get_bind fun world => ?_
      rw [world.desk_through view]
      dsimp only
      cases world.desk.vars[name]? with
      | none => exact mirrors_pure _
      | some var =>
          exact mirrors_drop mirrors answers
            (fun desk => { desk with vars := world.desk.vars.erase name }) var.session true
  | environment =>
      change Mirrors granted view (pure setup.environment) (pure other.environment)
      rw [mirrors.environment]
      exact mirrors_pure _
  | readFile path =>
      rw [perform, perform, mirrors.files]
      exact mirrors_pure _
  | note entry => exact mirrors_emit _

theorem mirrors_program (program : Host H N α) :
    Mirrors granted view (Program.run (perform setup dispatch) program)
      (Program.run (perform other respond) program) := by
  induction program with
  | done result => exact mirrors_pure result
  | ask request next ih => exact (mirrors_perform mirrors answers request).bind ih

theorem mirrors_runHandler {world : World σ H N} {session : SessionId} (words : List String)
    (frames : ∃ rest, world.frames = ⟨some session, []⟩ :: rest)
    (called : ∃ before reads, world.record = before ++ .called session :: reads ∧
      ∀ event ∈ reads, event.IsObject) :
    Process.Mirrors granted (World.through view) (runHandler setup dispatch session words)
      (runHandler other respond session words) world := by
  apply mirrors_get_bind_at
  intro allowed
  rw [world.sessions_through view]
  cases present : world.sessions[session]? with
  | none =>
      dsimp only
      cases routed : ({} : CommandTable H).route words with
      | nowhere message => exact mirrors_pure _ world
      | handler handler arguments =>
          exact absurd routed (CommandTable.route_empty_ne_handler words handler arguments)
  | some state =>
      dsimp only
      cases routed : state.commands.route words with
      | nowhere message => exact mirrors_pure _ world
      | handler handler arguments =>
          have same := mirrors.behave world session handler arguments allowed
            ⟨frames, called, state, words, present, routed⟩
          dsimp only
          rw [same]
          exact mirrors_program mirrors answers _ world

theorem mirrors_answerCall {world : World σ H N} {before : List (Event N)} {session : SessionId}
    (words : List Obj) (called : world.record = before ++ [.called session]) :
    Process.Mirrors granted (World.through view) (answerCall setup dispatch session words)
      (answerCall other respond session words) world := by
  unfold answerCall
  refine ⟨rfl, fun _ => ?_⟩
  change Process.Mirrors granted (World.through view) _ _
    { world with frames := ⟨some session, []⟩ :: world.frames }
  refine mirrors_call_bind (Call.mirrors_mapM fun word =>
    Call.mirrors_text mirrors.engine (some word)) ?_
  have reading := (Call.emits_mapM fun word => Call.emits_text setup.engine (some word) :
    Call.Emits Event.IsObject (words.tail.mapM fun word => Call.text setup.engine (some word) :
      Call σ N (List String)))
  obtain ⟨reads, grown, objects⟩ := reading world.scene
  refine Process.Mirrors.bind (mirrors_runHandler mirrors answers _ ⟨world.frames, rfl⟩
    ⟨before, reads, ?_, objects⟩) fun outcome => ?_
  · change _ = world.record ++ reads at grown
    exact grown.trans (by simp [called])
  refine (mirrors_dropKept mirrors.engine answers).bind fun _ => ?_
  refine (mirrors_modify fun world => world.through_noted session _ _).bind fun _ => ?_
  refine (mirrors_call (Call.mirrors_setResult mirrors.engine session _)).bind fun _ => ?_
  exact (mirrors_endFrame mirrors.engine answers session).bind fun _ => mirrors_pure _

omit answers in
theorem mirrors_dispatch (fuel : Nat) :
    DispatchMirrors granted view (Run.dispatch setup fuel) (Run.dispatch other fuel) := by
  induction fuel with
  | zero => exact fun _ _ world _ _ => mirrors_stop _ world
  | succ fuel ih =>
      intro session words world before called
      apply mirrors_get_bind_at
      intro _
      rw [world.sessions_through view]
      by_cases present : world.sessions.contains session = true
      · rw [if_pos present, if_pos present]
        exact (mirrors_answerCall mirrors ih words called).bind fun _ => mirrors_pure _
      · rw [if_neg present, if_neg present]
        exact (mirrors_call (Call.mirrors_setResult mirrors.engine session _)).bind
          (fun _ => mirrors_pure _) world

end Run

theorem Host.mirrors_run {granted : World σ H N → Prop} {view : σ → τ} {setup : Setup σ H N}
    {other : Setup τ H N} (mirrors : setup.Mirrors granted view other) (fuel : Nat)
    (program : Host H N α) :
    Run.Mirrors granted view (Host.run setup fuel program) (Host.run other fuel program) :=
  Run.mirrors_program mirrors (Run.mirrors_dispatch mirrors fuel) program

/-- What is made of what the library answers does not depend on who keeps more in its store. -/
theorem Setup.mirrors_withEngine {view : σ → τ} {setup : Setup τ H N} {engine : Engine σ}
    (mirrors : engine.Mirrors view setup.engine) :
    (setup.withEngine engine).Mirrors (fun _ => True) view setup (N := N) :=
  ⟨mirrors, fun _ _ _ _ _ _ => rfl, rfl, rfl, rfl⟩

end TclHost
