import TclHost.Proofs.Run.Quiet
import TclHost.Proofs.Run.Request
import TclHost.Proofs.Run.Since

/-!
Which evaluations exits are asked for in. If the library calls the command of an interpreter only
while it evaluates a script there, or when it deletes the interpreter, then whatever a program does,
no exit is asked for in the evaluations that were under way before: those that the program begins
itself come in between.
-/

namespace TclHost

variable {σ H N α β : Type}

def Reaction.Calls (callees : InterpId → Prop) : Reaction σ → Prop
  | .finished _ _ => True
  | .callback interp _ _ resume =>
      callees interp ∧ ∀ code later, (resume code later).Calls callees

structure Engine.CallsHome (engine : Engine σ) : Prop where
  evaluate : ∀ interp script store, (engine.evaluate interp script store).Calls (· = interp)
  makeSafe : ∀ interp store, (engine.makeSafe interp store).Calls fun _ => False
  delete : ∀ interp store, (engine.delete interp store).Calls (· = interp)

namespace Record

variable {session : SessionId} {askers : SessionId → Prop} {entries later : List (Event N)}

/-- The entries end the evaluations that they begin, and no others. In those that were under way
before no exit is asked for, but for the innermost ones of these sessions. -/
def AsksOnly (askers : SessionId → Prop) (entries : List (Event N)) : Prop :=
  ∀ session view, ∃ last, entries.foldlM (View.next session) view = some last ∧
    last.nested = view.nested ∧ (last.own = view.own ∨ askers session ∧ view.nested = 0)

theorem AsksOnly.append (first : AsksOnly askers entries) (second : AsksOnly askers later) :
    AsksOnly askers (entries ++ later) := by
  intro session view
  obtain ⟨between, followed, level, own⟩ := first session view
  obtain ⟨last, followedOn, levelOn, ownOn⟩ := second session between
  refine ⟨last, ?_, levelOn.trans level, ?_⟩
  · rw [List.foldlM_append, followed]
    exact followedOn
  · rcases own with same | asking
    · rcases ownOn with sameOn | askingOn
      · exact .inl (sameOn.trans same)
      · exact .inr ⟨askingOn.1, level ▸ askingOn.2⟩
    · exact .inr asking

theorem AsksOnly.mono {others : SessionId → Prop} (asks : AsksOnly askers entries)
    (more : ∀ session, askers session → others session) : AsksOnly others entries := by
  intro session view
  obtain ⟨last, followed, level, own⟩ := asks session view
  exact ⟨last, followed, level, own.imp_right fun asking => ⟨more session asking.1, asking.2⟩⟩

theorem foldlM_next_of_silent (silent : ∀ event ∈ entries, event.session? = none) (view : View) :
    entries.foldlM (View.next session) view = some view := by
  induction entries with
  | nil => rfl
  | cons event rest ih =>
      rw [List.foldlM_cons, View.next_of_session?_ne (by simp [silent event])]
      exact ih fun other member => silent other (by simp [member])

theorem asksOnly_of_silent (silent : ∀ event ∈ entries, event.session? = none) :
    AsksOnly askers entries :=
  fun _ view => ⟨view, foldlM_next_of_silent silent view, rfl, .inl rfl⟩

theorem asksOnly_singleton {event : Event N}
    (passed : ∀ session view, View.next session view event = some view) :
    AsksOnly askers [event] :=
  fun session view => ⟨view, by simp [passed], rfl, .inl rfl⟩

theorem asksOnly_answered (session : SessionId) (outcome : Outcome) :
    AsksOnly (· = session) [(.answered session outcome : Event N)] := by
  intro other view
  by_cases same : session = other
  · subst same
    cases asked : outcome.exitStatus? with
    | none => exact ⟨view, by simp [View.next, asked], rfl, .inl rfl⟩
    | some status =>
        refine ⟨view.request status, by simp [View.next, asked], View.nested_request .., ?_⟩
        by_cases innermost : view.nested = 0
        · exact .inr ⟨rfl, innermost⟩
        · exact .inl (by simp [View.request, innermost])
  · exact ⟨view, by simp [View.next, same], rfl, .inl rfl⟩

/-- What is asked for in an evaluation stays inside it. -/
theorem asksOnly_evaluation {rest : List (Event N)} (script : List UInt8) (code : Int)
    (inner : AsksOnly (· = session) entries) (ending : AsksOnly (· = session) rest) :
    AsksOnly askers (.evaluate session script ::
      (entries ++ .completed session code :: (rest ++ [.returned session]))) := by
  intro other view
  by_cases same : session = other
  · subst same
    obtain ⟨first, followed, level, own⟩ := inner session { view with nested := view.nested + 1 }
    have running : first.nested = view.nested + 1 := level
    obtain ⟨last, followedOn, levelOn, ownOn⟩ := ending session first
    have kept : first.own = view.own := own.resolve_right fun asking => by cases asking.2
    have keptOn : last.own = first.own := ownOn.resolve_right fun asking => by omega
    refine ⟨{ last with nested := view.nested }, ?_, rfl, .inl (keptOn.trans kept)⟩
    simp [View.next, followed, followedOn, levelOn, running]
  · obtain ⟨first, followed, level, own⟩ := inner other view
    obtain ⟨last, followedOn, levelOn, ownOn⟩ := ending other first
    have kept : first.own = view.own := own.resolve_right fun asking => same asking.1.symm
    have keptOn : last.own = first.own := ownOn.resolve_right fun asking => same asking.1.symm
    refine ⟨last, ?_, levelOn.trans level, .inl (keptOn.trans kept)⟩
    simp [View.next, same, followed, followedOn]

end Record

/-! Parts of a run. -/

namespace Run

open Process

variable {askers : SessionId → Prop}

def Asks (askers : SessionId → Prop) (run : Run σ H N α) : Prop :=
  ∀ world result later, run.exec world = .ok result later →
    ∃ entries, later.record = world.record ++ entries ∧ Record.AsksOnly askers entries

theorem asks_done (result : α) : Asks askers (.done result : Run σ H N α) := by
  rintro world _ _ ⟨⟩
  exact ⟨[], (List.append_nil _).symm, Record.asksOnly_of_silent (by simp)⟩

theorem asks_halt (cause : Halt) (last : World σ H N → World σ H N) :
    Asks askers (.halt cause last : Run σ H N α) := by
  rintro world _ _ ⟨⟩

theorem Asks.bind {run : Run σ H N α} {next : α → Run σ H N β} (first : Asks askers run)
    (rest : ∀ result, Asks askers (next result)) : Asks askers (run >>= next) := by
  intro world result last returned
  obtain ⟨answer, between, before, after⟩ := exec_bind_ok.mp returned
  obtain ⟨entries, grown, asks⟩ := first world answer between before
  obtain ⟨more, grownOn, asksOn⟩ := rest answer between result last after
  exact ⟨entries ++ more, by rw [grownOn, grown, List.append_assoc], asks.append asksOn⟩

theorem Asks.mono {others : SessionId → Prop} {run : Run σ H N α} (asks : Asks askers run)
    (more : ∀ session, askers session → others session) : Asks others run := by
  intro world result later returned
  obtain ⟨entries, grown, only⟩ := asks world result later returned
  exact ⟨entries, grown, only.mono more⟩

theorem asks_modify {change : World σ H N → World σ H N} (entries : List (Event N))
    (recorded : ∀ world, (change world).record = world.record ++ entries)
    (only : Record.AsksOnly askers entries) :
    Asks askers (modify change : Run σ H N PUnit) := by
  rintro world _ _ ⟨⟩
  exact ⟨entries, recorded world, only⟩

theorem asks_unrecorded {change : World σ H N → World σ H N}
    (recorded : ∀ world, (change world).record = world.record) :
    Asks askers (modify change : Run σ H N PUnit) :=
  asks_modify [] (fun world => (recorded world).trans (List.append_nil _).symm)
    (Record.asksOnly_of_silent (by simp))

theorem asks_get : Asks askers (get : Run σ H N (World σ H N)) := by
  rintro world _ _ ⟨⟩
  exact ⟨[], (List.append_nil _).symm, Record.asksOnly_of_silent (by simp)⟩

theorem asks_call {call : Call σ N α} (quiet : call.Quiet) :
    Asks askers (Run.call call : Run σ H N α) := by
  rintro world _ _ ⟨⟩
  obtain ⟨entries, grown, silent⟩ := quiet world.scene
  exact ⟨entries, grown, Record.asksOnly_of_silent silent⟩

theorem asks_store : Asks askers (store : Run σ H N σ) :=
  asks_get.bind fun _ => asks_done _

theorem asks_setStore (given : σ) : Asks askers (setStore given : Run σ H N Unit) :=
  asks_unrecorded fun _ => rfl

theorem asks_emit {event : Event N} (silent : event.session? = none) :
    Asks askers (emit event : Run σ H N Unit) :=
  asks_call (Call.emits_emit silent)

theorem asks_update (session : SessionId) (change : Session H → Session H) :
    Asks askers (update session change : Run σ H N Unit) :=
  asks_unrecorded fun world => World.record_update world session change

theorem asks_noted {session : SessionId} {change : Session H → Session H} {event : Event N}
    (only : Record.AsksOnly askers [event]) :
    Asks askers (modify fun world => (world.update session change).push event : Run σ H N PUnit) :=
  asks_modify [event] (fun world => World.record_noted world session change event) only

theorem asks_held (session : SessionId) : Asks askers (held session : Run σ H N (Session H)) := by
  refine asks_get.bind fun world => ?_
  split
  · split
    · exact asks_done _
    · exact asks_halt _ _
  · exact asks_halt _ _

theorem Asks.discard {run : Run σ H N α} (asks : Asks askers run) :
    Asks askers (discard run) :=
  asks.bind fun _ => asks_done _

/-- Calls are answered in the evaluations that the library makes them in. Once the session is gone
nothing happens at all. -/
structure Homely (dispatch : Dispatch σ H N) : Prop where
  asks : ∀ interp words, Asks (· = interp) (dispatch interp words)
  gone : ∀ {interp words world reply later}, world.sessions[interp]? = none →
    (dispatch interp words).exec world = .ok reply later → World.Beside world later

section Library

variable {engine : Engine σ} {dispatch : Dispatch σ H N} (home : engine.CallsHome)
  (homely : Homely dispatch)
include homely

theorem asks_follow {reaction : Reaction σ} {callees : InterpId → Prop}
    (calls : reaction.Calls callees) : Asks callees (follow dispatch reaction) := by
  induction reaction with
  | finished code store => exact (asks_setStore store).bind fun _ => asks_done code
  | callback interp words store resume ih =>
      obtain ⟨allowed, onward⟩ := calls
      refine (asks_setStore store).bind fun _ => (asks_emit rfl).bind fun _ => ?_
      refine ((homely.asks interp words).mono fun _ same => same ▸ allowed).bind fun reply => ?_
      refine (asks_emit rfl).bind fun _ => asks_store.bind fun later => ?_
      exact ih _ _ (onward _ _)

omit homely in
theorem asks_evaluationResult (session : SessionId) (completion : Completion) :
    Asks askers (evaluationResult engine session completion : Run σ H N _) := by
  cases completion with
  | success => exact (asks_call (Call.emits_result engine session).quiet).bind fun _ => asks_done _
  | error => exact (asks_call (Call.emits_result engine session).quiet).bind fun _ => asks_done _
  | other code => exact asks_done _

omit homely in
theorem record_of_complete {session : SessionId} {depth : Nat} {code : Int}
    {world later : World σ H N} {answer : PUnit}
    (returned : (complete session depth code : Run σ H N PUnit).exec world = .ok answer later) :
    later.record = world.record ++ [.completed session code] := by
  obtain ⟨_, _, ⟨⟩, returned⟩ := exec_bind_ok.mp returned
  split at returned
  · cases returned
  · cases returned
    refine (World.record_push _ _).trans ?_
    rw [World.record_update]

include home

theorem asks_evaluate (session : SessionId) (script : String) :
    Asks askers (evaluate engine dispatch session script) := by
  intro world answer final returned
  obtain ⟨_, _, ⟨⟩, returned⟩ := exec_bind_ok.mp returned
  obtain ⟨_, _, ⟨⟩, returned⟩ := exec_bind_ok.mp returned
  obtain ⟨_, _, ⟨⟩, returned⟩ := exec_bind_ok.mp returned
  obtain ⟨code, left, followed, returned⟩ := exec_bind_ok.mp returned
  obtain ⟨_, completed, completing, returned⟩ := exec_bind_ok.mp returned
  obtain ⟨_, last, told, ⟨⟩⟩ := exec_bind_ok.mp returned
  obtain ⟨entries, grown, inner⟩ :=
    asks_follow homely (home.evaluate session (Text.encode script) _) _ _ _ followed
  obtain ⟨rest, grownOn, ending⟩ := asks_evaluationResult session _ _ _ _ told
  refine ⟨_, ?_, Record.asksOnly_evaluation (Text.encode script) code inner ending⟩
  have began : (world.begin session (Text.encode script)).record =
      world.record ++ [.evaluate session (Text.encode script)] :=
    World.record_noted world session _ _
  refine (World.record_noted last session _ _).trans ?_
  rw [grownOn, record_of_complete completing, grown]
  refine (congrArg (· ++ _ ++ _ ++ _ ++ _) began).trans ?_
  simp

theorem asks_makeSafe (session : SessionId) :
    Asks askers (makeSafe engine dispatch session) := by
  refine asks_get.bind fun world => ?_
  split
  · exact asks_done _
  · refine (asks_emit rfl).bind fun _ => asks_store.bind fun given => ?_
    have asked := asks_follow homely (home.makeSafe session given)
    refine (asked.mono fun _ nobody => nobody.elim).bind fun code => ?_
    have restricted : Asks askers (modify (·.restrict session code) : Run σ H N PUnit) :=
      asks_noted (Record.asksOnly_singleton fun _ _ => rfl)
    refine restricted.bind fun _ => ?_
    split
    · exact (asks_call (Call.emits_result engine session).quiet).bind fun _ => asks_done _
    · exact asks_done _

omit home in
/-- Commands that the library calls while it deletes the interpreter have no handler any more. -/
theorem beside_of_follow {session : SessionId} {reaction : Reaction σ} {world later : World σ H N}
    {code : Int} (calls : reaction.Calls (· = session)) (gone : world.sessions[session]? = none)
    (followed : (follow dispatch reaction).exec world = .ok code later) :
    World.Beside world later := by
  induction reaction generalizing world with
  | finished code store =>
      obtain ⟨_, _, ⟨⟩, returned⟩ := exec_bind_ok.mp followed
      cases returned
      exact ⟨rfl, [], (List.append_nil _).symm, by simp⟩
  | callback interp words store resume ih =>
      obtain ⟨rfl, onward⟩ := calls
      obtain ⟨_, _, ⟨⟩, followed⟩ := exec_bind_ok.mp followed
      obtain ⟨_, _, ⟨⟩, followed⟩ := exec_bind_ok.mp followed
      obtain ⟨reply, replied, answered, followed⟩ := exec_bind_ok.mp followed
      obtain ⟨_, _, ⟨⟩, followed⟩ := exec_bind_ok.mp followed
      obtain ⟨_, _, ⟨⟩, followed⟩ := exec_bind_ok.mp followed
      have called : World.Beside world ({ world with
          scene := { world.scene with store } }.push (.called interp)) :=
        ⟨rfl, [.called interp], Array.toList_push, by simp [Event.session?]⟩
      have returned : World.Beside replied (replied.push (.sent interp reply)) :=
        ⟨rfl, [.sent interp reply], Array.toList_push, by simp [Event.session?]⟩
      have before := (called.trans (homely.gone gone answered)).trans returned
      exact before.trans (ih _ _ (onward _ _) (before.sessions ▸ gone) followed)

theorem asks_tearDown (session : SessionId) :
    Asks askers (tearDown engine dispatch session) := by
  intro world answer final returned
  obtain ⟨_, _, ⟨⟩, returned⟩ := exec_bind_ok.mp returned
  obtain ⟨_, _, ⟨⟩, returned⟩ := exec_bind_ok.mp returned
  obtain ⟨_, left, deleted, returned⟩ := exec_bind_ok.mp returned
  obtain ⟨code, _, followed, ⟨⟩⟩ := exec_bind_ok.mp deleted
  have gone : (world.takeDown session).sessions[session]? = none := by
    rw [World.sessions_takeDown, if_pos rfl]
  obtain ⟨entries, grown, silent⟩ :=
    (beside_of_follow homely (home.delete session _) gone followed).grown
  obtain ⟨rest, grownOn, released⟩ :=
    asks_call ((Call.emits_release engine session).lone rfl) _ _ _ returned
  refine ⟨.delete session :: entries ++ rest, ?_, ?_⟩
  · rw [grownOn, grown, World.record_takeDown]
    simp
  · have deleting : Record.AsksOnly askers [(.delete session : Event N)] :=
      Record.asksOnly_singleton fun _ _ => rfl
    exact (deleting.append (Record.asksOnly_of_silent silent)).append released

theorem asks_sweep (session : SessionId) : Asks askers (sweep engine dispatch session) := by
  refine asks_get.bind fun world => ?_
  split
  · exact asks_tearDown home homely session
  · exact asks_done _

theorem asks_letGo : Asks askers (letGo engine dispatch : Run σ H N Unit) := by
  intro world answer final returned
  obtain ⟨_, _, ⟨⟩, returned⟩ := exec_bind_ok.mp returned
  split at returned
  · split at returned
    · obtain ⟨_, _, ⟨⟩, swept⟩ := exec_bind_ok.mp returned
      obtain ⟨entries, grown, only⟩ := asks_sweep home homely _ _ _ _ swept
      exact ⟨entries, grown, only⟩
    · exact asks_done _ _ _ _ returned
  · exact asks_done _ _ _ _ returned

theorem asks_dropKept : Asks askers (dropKept engine dispatch : Run σ H N Unit) := by
  refine asks_get.bind fun world => ?_
  split
  · rename_i frame rest frames
    generalize frame.kept = kept
    induction kept with
    | nil => exact asks_done _
    | cons session kept ih => exact (asks_letGo home homely).bind fun _ => ih
  · exact asks_done _

theorem asks_endFrame (caller : SessionId) : Asks askers (endFrame engine dispatch caller) := by
  refine Asks.bind ?_ fun _ => asks_sweep home homely caller
  exact asks_unrecorded fun _ => rfl

theorem asks_sweepReplaced (replaced : Option SessionId) :
    Asks askers (sweepReplaced engine dispatch replaced) := by
  cases replaced with
  | none => exact asks_done _
  | some session => exact asks_sweep home homely session

/-! Setting up a session. -/

omit home homely in
theorem Asks.attempt {run : ExceptT Error (Run σ H N) α} {next : α → ExceptT Error (Run σ H N) β}
    (first : Asks askers run.run) (rest : ∀ result, Asks askers (next result).run) :
    Asks askers (run >>= next).run := by
  rw [ExceptT.run_bind]
  refine first.bind fun outcome => ?_
  cases outcome with
  | ok result => exact rest result
  | error cause => exact asks_done _

omit home homely in
theorem Asks.lift {run : Run σ H N α} (asks : Asks askers run) :
    Asks askers (ExceptT.lift run : ExceptT Error (Run σ H N) α).run :=
  asks.bind fun _ => asks_done _

theorem asks_listResult (session : SessionId) (script : String) :
    Asks askers (listResult engine dispatch session script).run := by
  refine Asks.attempt (asks_evaluate home homely session script) fun text => ?_
  exact (asks_call (Call.emits_splitList engine session _).quiet).lift.attempt fun _ => asks_done _

theorem asks_prepare (session : SessionId) (safe : Bool) :
    Asks askers (prepare engine dispatch session safe).run := by
  refine (asks_listResult home homely session _).attempt fun procs => ?_
  refine (asks_listResult home homely session _).attempt fun vars => ?_
  refine (asks_update session _).lift.attempt fun _ => ?_
  have ready : Asks askers (modify (·.ready session) : Run σ H N PUnit) :=
    asks_noted (Record.asksOnly_singleton fun _ _ => rfl)
  split
  · exact Asks.attempt (asks_makeSafe home homely session) fun _ => ready.lift
  · exact ready.lift

omit home homely in
theorem asks_allocate : Asks askers (allocate engine : Run σ H N _) := by
  refine asks_get.bind fun world => Asks.bind (asks_unrecorded ?_) fun _ => ?_
  · exact fun _ => rfl
  refine (asks_call ((Call.emits_create engine _).lone rfl)).bind fun granted => ?_
  split
  · exact asks_done _
  · refine (asks_call ((Call.emits_init engine _).lone rfl)).discard.bind fun _ => ?_
    refine (asks_call ((Call.emits_preserve engine _).lone rfl)).bind fun _ => ?_
    refine (asks_unrecorded fun world => World.record_enrol world _).bind fun _ => ?_
    exact (asks_call ((Call.emits_createCommand engine _ _).lone rfl)).bind fun _ => asks_done _

theorem asks_handOut (session : SessionId) (safe : Bool) :
    Asks askers (handOut engine dispatch session safe) := by
  refine (asks_prepare home homely session safe).bind fun outcome => ?_
  cases outcome with
  | ok _ => exact asks_done _
  | error cause => exact (asks_letGo home homely).bind fun _ => asks_done _

theorem asks_drop {change : World σ H N → World σ H N}
    (recorded : ∀ world, (change world).record = world.record) (session : SessionId)
    {answer : α} :
    Asks askers (do modify change
                    sweep engine dispatch session
                    return answer : Run σ H N α) :=
  (asks_unrecorded recorded).bind fun _ =>
    (asks_sweep home homely session).bind fun _ => asks_done _

theorem asks_put {change : World σ H N → World σ H N}
    (recorded : ∀ world, (change world).record = world.record) (replaced : Option SessionId) :
    Asks askers (do modify change
                    sweepReplaced engine dispatch replaced : Run σ H N Unit) :=
  (asks_unrecorded recorded).bind fun _ => asks_sweepReplaced home homely replaced

end Library

/-! Programs, and the calls that they answer. -/

section Programs

variable {setup : Setup σ H N} {dispatch : Dispatch σ H N} (home : setup.engine.CallsHome)
  (homely : Homely dispatch)
include home homely

theorem asks_openSession (config : Config) :
    Asks askers (openSession setup dispatch config) := by
  refine asks_get.bind fun world => ?_
  generalize world.library.load setup.libraries config = loaded
  obtain ⟨outcome, library⟩ := loaded
  refine Asks.bind (asks_unrecorded ?_) fun _ => ?_
  · exact fun _ => rfl
  cases outcome with
  | error cause => exact asks_done _
  | ok path =>
      refine asks_allocate.bind fun allocated => ?_
      cases allocated with
      | error cause => exact asks_done _
      | ok session => exact asks_handOut home homely session config.safe

omit home homely in
theorem asks_keep (session : SessionId) {answer : α} :
    Asks askers (do modify (·.keep session); return answer : Run σ H N α) := by
  refine Asks.bind (asks_unrecorded fun world => ?_) fun _ => asks_done _
  rw [World.keep_eq]
  rfl

theorem asks_perform (request : Request H N) :
    Asks askers (perform setup dispatch request) := by
  cases request with
  | evaluate session script =>
      exact (asks_held session).discard.bind fun _ => asks_evaluate home homely session script
  | makeSafe session =>
      exact (asks_held session).discard.bind fun _ => asks_makeSafe home homely session
  | result session =>
      exact (asks_held session).discard.bind fun _ => asks_call (Call.emits_result _ session).quiet
  | quoteList session words =>
      refine (asks_held session).discard.bind fun _ => ?_
      exact asks_call (Call.emits_quoteList setup.engine session words).quiet
  | splitList session list =>
      refine (asks_held session).discard.bind fun _ => ?_
      exact asks_call (Call.emits_splitList setup.engine session list).quiet
  | inspect session => exact asks_held session
  | insertCommand session name handler =>
      exact (asks_held session).bind fun _ => (asks_update session _).bind fun _ => asks_done _
  | eraseCommand session name =>
      exact (asks_held session).bind fun _ => (asks_update session _).bind fun _ => asks_done _
  | setReceiver session receiver =>
      exact (asks_held session).discard.bind fun _ => asks_update session _
  | openSession config => exact asks_openSession home homely config
  | takeInterp name | takeProc name | takeVar name =>
      refine asks_get.bind fun world => ?_
      split
      · exact asks_done _
      · exact asks_keep _
  | letGo => exact asks_letGo home homely
  | putInterp name session =>
      refine (asks_held session).discard.bind fun _ => asks_get.bind fun world => ?_
      refine asks_put home homely ?_ _
      exact fun _ => rfl
  | putProc name proc =>
      refine (asks_held proc.session).discard.bind fun _ => asks_get.bind fun world => ?_
      refine asks_put home homely ?_ _
      exact fun _ => rfl
  | putVar name var =>
      refine (asks_held var.session).discard.bind fun _ => asks_get.bind fun world => ?_
      refine asks_put home homely ?_ _
      exact fun _ => rfl
  | dropInterp name =>
      change Asks askers (dropInterp setup.engine dispatch name)
      refine asks_get.bind fun world => ?_
      dsimp only
      split
      · exact asks_done _
      · refine asks_drop home homely ?_ _
        exact fun _ => rfl
  | dropProc name =>
      change Asks askers (dropProc setup.engine dispatch name)
      refine asks_get.bind fun world => ?_
      dsimp only
      split
      · exact asks_done _
      · refine asks_drop home homely ?_ _
        exact fun _ => rfl
  | dropVar name =>
      change Asks askers (dropVar setup.engine dispatch name)
      refine asks_get.bind fun world => ?_
      dsimp only
      split
      · exact asks_done _
      · refine asks_drop home homely ?_ _
        exact fun _ => rfl
  | environment | readFile path => exact asks_done _
  | note entry => exact asks_emit rfl

theorem asks_program (program : Host H N α) :
    Asks askers (Program.run (perform setup dispatch) program) := by
  induction program with
  | done result => exact asks_done result
  | ask request next ih => exact (asks_perform home homely request).bind ih

theorem asks_answerCall (session : SessionId) (words : List Obj) :
    Asks (· = session) (answerCall setup dispatch session words) := by
  refine Asks.bind (asks_unrecorded ?_) fun _ => ?_
  · exact fun _ => rfl
  refine (asks_call (Call.emits_mapM fun word => Call.emits_text _ _).quiet).bind fun arguments => ?_
  have handled : Asks (· = session) (runHandler setup dispatch session arguments) := by
    refine asks_get.bind fun world => ?_
    dsimp only
    split
    · exact asks_done _
    · exact asks_program home homely _
  refine handled.bind fun outcome => (asks_dropKept home homely).bind fun _ => ?_
  have answered : Asks (· = session) (modify (·.answer session outcome) : Run σ H N PUnit) :=
    asks_noted (Record.asksOnly_answered session outcome)
  refine answered.bind fun _ => (asks_call (Call.emits_setResult _ session _).quiet).bind fun _ => ?_
  exact (asks_endFrame home homely session).bind fun _ => asks_done _

omit homely in
theorem homely_dispatch (fuel : Nat) :
    Homely (Run.dispatch setup fuel) := by
  induction fuel with
  | zero => exact ⟨fun _ _ => asks_halt _ _, fun _ returned => by cases returned⟩
  | succ fuel ih =>
      constructor
      · intro session words
        refine asks_get.bind fun world => ?_
        split
        · exact (asks_answerCall home ih session words).bind fun _ => asks_done _
        · exact (asks_call (Call.emits_setResult _ session _).quiet).bind fun _ => asks_done _
      · intro session words world reply later gone returned
        obtain ⟨_, _, ⟨⟩, returned⟩ := exec_bind_ok.mp returned
        have absent : ¬ world.sessions.contains session = true := by
          simp [Std.TreeMap.contains_eq_isSome_getElem?, gone]
        rw [if_neg absent] at returned
        obtain ⟨_, _, told, ⟨⟩⟩ := exec_bind_ok.mp returned
        obtain ⟨_, rfl⟩ := exec_call_ok.mp told
        exact ⟨rfl, (Call.emits_setResult setup.engine session _).quiet world.scene⟩

end Programs

end Run

end TclHost
