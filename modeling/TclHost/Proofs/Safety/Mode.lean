import Mathlib.Control.Monad.Basic
import TclHost.Proofs.Run.Request
import TclHost.Proofs.Safety.Guarded

/-!
Safe sessions. A session is safe exactly once the library has made it so, and stays safe; one that
was asked for as a safe session is handed out safe or not at all.
-/

namespace TclHost

open Process

variable {σ H N α : Type}

namespace Run

variable {engine : Engine σ} {dispatch : Dispatch σ H N} {world final : World σ H N}
  {session : SessionId}

def MadeSafe (engine : Engine σ) (dispatch : Dispatch σ H N) (session : SessionId)
    (world final : World σ H N) : Prop :=
  (final = world ∧ ∃ state, world.sessions[session]? = some state ∧ state.safe = true) ∨
    ∃ left, (follow dispatch (engine.makeSafe session world.scene.store)).exec
        (world.push (.makeSafe session)) = .ok 0 left ∧ final = left.restrict session 0

theorem madeSafe_of_exec
    (made : (makeSafe engine dispatch session).exec world = .ok (.ok ()) final) :
    MadeSafe engine dispatch session world final := by
  rcases exec_makeSafe_ok made with ⟨_, rfl, safe⟩ | ⟨code, left, followed, agreed | refused⟩
  · exact .inl ⟨rfl, (Option.any_eq_true _ _).mp safe⟩
  · obtain ⟨rfl, _, rfl⟩ := agreed
    exact .inr ⟨left, followed, rfl⟩
  · cases refused.2.1

theorem MadeSafe.safe {state : Session H} (made : MadeSafe engine dispatch session world final)
    (present : final.sessions[session]? = some state) : state.safe = true := by
  rcases made with ⟨rfl, known, found, safe⟩ | ⟨left, _, rfl⟩
  · cases found.symm.trans present
    exact safe
  · change (left.update session _).sessions[session]? = _ at present
    rw [World.sessions_update, if_pos rfl] at present
    obtain ⟨_, _, rfl⟩ := Option.map_eq_some_iff.mp present
    simp

/-- A session that was to be made safe has been by the time it is ready. -/
theorem exec_prepare_safe
    (prepared : (prepare engine dispatch session true).run.exec world = .ok (.ok ()) final) :
    ∃ asked made, MadeSafe engine dispatch session asked made ∧ final = made.ready session := by
  unfold prepare at prepared
  obtain ⟨procs, first, _, prepared⟩ := exec_attempt_ok.mp prepared
  obtain ⟨vars, second, _, prepared⟩ := exec_attempt_ok.mp prepared
  obtain ⟨_, noted, _, prepared⟩ := exec_attempt_ok.mp prepared
  obtain ⟨_, last, made, prepared⟩ := exec_attempt_ok.mp prepared
  change EStateM.Result.ok (Except.ok ()) (last.ready session) = _ at prepared
  cases prepared
  exact ⟨noted, last, madeSafe_of_exec made, rfl⟩

theorem prepared_of_openSession {setup : Setup σ H N} {config : Config}
    (opened : (openSession setup dispatch config).exec world = .ok (.ok session) final) :
    ∃ between, (prepare setup.engine dispatch session config.safe).run.exec between =
      .ok (.ok ()) final := by
  rcases exec_openSession_ok opened with ⟨_, _, failed, _⟩ | ⟨_, _, failed | ⟨other, between, handed⟩⟩
  · cases failed
  · cases failed
  · obtain ⟨outcome, later, prepared, same | failed⟩ := exec_handOut_ok handed
    · obtain ⟨rfl, same, rfl⟩ := same
      cases same
      exact ⟨between, prepared⟩
    · obtain ⟨_, _, failed⟩ := failed
      cases failed

end Run

/-- A refusal is noted, and changes nothing else. -/
theorem World.restrict_refused (world : World σ H N) (session : SessionId) {code : Int}
    (refused : code ≠ 0) :
    (∀ other : SessionId, (world.restrict session code).sessions[other]? = world.sessions[other]?) ∧
      (world.restrict session code).frames = world.frames ∧
      (world.restrict session code).desk = world.desk := by
  refine ⟨fun other => ?_, frames_update world session _, desk_update world session _⟩
  change (world.update session _).sessions[other]? = _
  rw [sessions_update]
  split
  · simp [refused]
  · rfl

structure World.AtWork (caller : Option SessionId) (rest : List Frame) (world : World σ H N) :
    Prop where
  sound : world.Sound
  guarded : world.Guarded
  standing : Standing caller rest world

namespace World

variable {world later : World σ H N} {caller : Option SessionId} {rest : List Frame}

theorem atWork_start (store : σ) (library : Library) :
    AtWork none [] (start store library : World σ H N) :=
  ⟨sound_start store library, guarded_start store library, standing_start store library⟩

/-- After each request the program is at work again. -/
theorem AtWork.perform {setup : Setup σ H N} {fuel : Nat} {request : Request H N}
    {answer : request.Answer} (atWork : AtWork caller rest world)
    (performed : (Run.perform setup (Run.dispatch setup fuel) request).exec world =
      .ok answer later) : AtWork caller rest later := by
  have performs := Run.perform_preserves (fun _ _ sound step deed guarded =>
    Guarded.step guarded sound step deed) atWork.sound atWork.standing atWork.guarded performed
  exact ⟨performs.1, performs.2.2, performs.2.1.standing⟩

/-- The session is safe, the library has made it so before it was ready, and until then it had been
given no script but those that take the snapshot. -/
structure OpenedSafe (session : SessionId) (world : World σ H N) : Prop where
  safe : ∃ state, world.sessions[session]? = some state ∧ state.safe = true
  recorded : ∃ before, world.record = before ++ [.ready session] ∧
    .restricted session 0 ∈ before ∧ Record.Prepared session before

theorem AtWork.openedSafe {setup : Setup σ H N} {fuel : Nat} {config : Config}
    {session : SessionId} (atWork : AtWork caller rest world) (asked : config.safe = true)
    (opened : (Run.perform setup (Run.dispatch setup fuel) (.openSession config)).exec world =
      .ok (.ok session) later) :
    OpenedSafe session later ∧ ∃ between made,
      Run.MadeSafe setup.engine (Run.dispatch setup fuel) session between made ∧
        later = made.ready session := by
  obtain ⟨kept, frames⟩ := atWork.standing.frames
  have done := atWork.perform opened
  have obeys := Run.obeys_openSession (Run.answers_dispatch setup fuel) setup config atWork.sound
    atWork.standing.secured frames
  obtain ⟨⟨_, framesLater, _⟩, _⟩ := obeys.exec_ok opened
  obtain ⟨state, present⟩ : ∃ state, later.sessions[session]? = some state :=
    done.sound.alive framesLater (by simp [Frame.holds])
  obtain ⟨first, prepared⟩ := Run.prepared_of_openSession opened
  rw [asked] at prepared
  obtain ⟨between, last, made, rfl⟩ := Run.exec_prepare_safe prepared
  have record : (last.ready session).record = last.record ++ [.ready session] :=
    record_noted last session _ _
  have found := present
  rw [sessions_ready] at present
  obtain ⟨earlier, known, rfl⟩ := Option.map_eq_some_iff.mp present
  have safe := made.safe known
  refine ⟨⟨⟨_, found, safe⟩, last.record, record, ?_, ?_⟩, between, last, made, rfl⟩
  · have restricted := (done.guarded.safe_iff session _ found).mp safe
    rw [record, List.mem_append] at restricted
    exact restricted.resolve_right (by simp)
  · exact done.guarded.ready session last.record [] record

end World

namespace Host

open World

variable (setup : Setup σ H N) (fuel : Nat) (program : Host H N α) (store : σ) (library : Library)

theorem record_grows (count more : Nat) : ∃ entries,
    ((Host.run setup fuel program).after (count + more) (start store library)).record =
      ((Host.run setup fuel program).after count (start store library)).record ++ entries := by
  induction more with
  | zero => exact ⟨[], (List.append_nil _).symm⟩
  | succ more ih =>
      obtain ⟨entries, grown⟩ := ih
      rcases (obeys_run setup fuel program store library).step_after (count + more) with step | same
      · obtain ⟨others, grownOn, _⟩ := Step.grown step
        exact ⟨entries ++ others, by rw [← Nat.add_assoc, grownOn, grown, List.append_assoc]⟩
      · exact ⟨entries, by rw [← Nat.add_assoc, same, grown]⟩

/-- Safe mode is never claimed without being in force, and never given up. A request that the
library refuses changes no session by itself, and one that it agrees to makes the session safe.
Whichever program asks for a session that is to be safe, it gets one that is, or none. -/
theorem safe_mode_in_force :
    (∀ world, (Host.run setup fuel program).ComesTo (start store library) world →
      (∀ (session : SessionId) (state : Session H), world.sessions[session]? = some state →
        (state.safe = true ↔ .restricted session 0 ∈ world.record)) ∧
      ∀ session before after, world.record = before ++ .makeSafe session :: after →
        .restricted session 0 ∉ before) ∧
    (∀ (count more : Nat) (session : SessionId) (state later : Session H),
      ((Host.run setup fuel program).after count (start store library)).sessions[session]? =
        some state → state.safe = true →
      ((Host.run setup fuel program).after (count + more) (start store library)).sessions[session]? =
        some later → later.safe = true) ∧
    (∀ (world final : World σ H N) (session : SessionId) (cause : Error),
      (Run.perform setup (Run.dispatch setup fuel) (.makeSafe session)).exec world =
        .ok (.error cause) final →
      ∃ code left, (Run.follow (Run.dispatch setup fuel)
            (setup.engine.makeSafe session world.scene.store)).exec
          (world.push (.makeSafe session)) = .ok code left ∧ code ≠ 0 ∧
        cause = .eval ((Call.result setup.engine session).run
          (left.restrict session code).scene).1 ∧
        (∀ other : SessionId, final.sessions[other]? = left.sessions[other]?) ∧
        final.frames = left.frames ∧ final.desk = left.desk) ∧
    (∀ (world final : World σ H N) (session : SessionId),
      (Run.perform setup (Run.dispatch setup fuel) (.makeSafe session)).exec world =
        .ok (.ok ()) final →
      Run.MadeSafe setup.engine (Run.dispatch setup fuel) session world final) ∧
    AtWork none [] (start store library : World σ H N) ∧
    (∀ (caller : Option SessionId) (rest : List Frame) (world : World σ H N),
      AtWork caller rest world →
      (∀ (request : Request H N) (answer : request.Answer) (final : World σ H N),
        (Run.perform setup (Run.dispatch setup fuel) request).exec world = .ok answer final →
        AtWork caller rest final) ∧
      ∀ (config : Config) (session : SessionId) (final : World σ H N), config.safe = true →
        (Run.perform setup (Run.dispatch setup fuel) (.openSession config)).exec world =
          .ok (.ok session) final →
        OpenedSafe session final ∧ ∃ between made,
          Run.MadeSafe setup.engine (Run.dispatch setup fuel) session between made ∧
            final = made.ready session) ∧
    (∀ config : Config, (config.withSafe true).safe = true) ∧
    ∀ lookup : String → Option String, (Config.ofLookup lookup).safe = true ↔
      ∃ value, lookup safeVariable = some value ∧ isTruthy value = true := by
  refine ⟨fun world comes => ?_, fun count more session state later present safe onward => ?_,
    fun world final session cause failed => ?_, fun world final session agreed => ?_,
    atWork_start store library,
    fun caller rest world atWork => ⟨fun request answer final performed => atWork.perform performed,
      fun config session final asked opened => atWork.openedSafe asked opened⟩,
    fun _ => rfl, fun lookup => ?_⟩
  · have guarded := guarded_of_comesTo setup fuel program store library comes
    exact ⟨guarded.safe_iff, guarded.once⟩
  · have guarded (count : Nat) :=
      guarded_of_comesTo setup fuel program store library (.inl ⟨count, rfl⟩)
    obtain ⟨entries, grown⟩ := record_grows setup fuel program store library count more
    rw [(guarded (count + more)).safe_iff session later onward, grown]
    exact List.mem_append_left _ (((guarded count).safe_iff session state present).mp safe)
  · obtain ⟨_, _, made⟩ := Run.exec_using_ok.mp
      (show (discard (Run.held session) >>= fun _ => Run.makeSafe setup.engine
        (Run.dispatch setup fuel) session).exec world = _ from failed)
    rcases Run.exec_makeSafe_ok made with ⟨agreed, _, _⟩ | ⟨code, left, followed, agreed | refused⟩
    · cases agreed
    · cases agreed.2.1
    · obtain ⟨refused, same, rfl⟩ := refused
      cases same
      exact ⟨code, left, followed, refused, rfl, left.restrict_refused session refused⟩
  · obtain ⟨_, _, made⟩ := Run.exec_using_ok.mp
      (show (discard (Run.held session) >>= fun _ => Run.makeSafe setup.engine
        (Run.dispatch setup fuel) session).exec world = _ from agreed)
    exact Run.madeSafe_of_exec made
  · simp [Config.ofLookup, Option.any_eq_true]

end Host

namespace Refusal

/-- Makes every other session safe and refuses the rest. -/
def engine : Engine Unit where
  create _ store := (true, store)
  init _ store := (0, store)
  preserve _ store := store
  release _ store := store
  createCommand _ _ store := store
  evaluate _ _ store := .finished 0 store
  makeSafe interp store := .finished (interp % 2 : Nat) store
  delete _ store := .finished 0 store
  newObj store := (none, store)
  newString _ store := (⟨0⟩, store)
  increment _ store := store
  decrement _ store := store
  append _ _ _ store := (0, store)
  elements _ _ store := (some ⟨0, []⟩, store)
  bytes _ store := (Text.encode "refused", store)
  result _ store := (some ⟨0⟩, store)
  setResult _ _ store := store

def setup : Setup Unit Unit Empty where
  engine := engine
  behave _ _ _ := return .value ""
  libraries _ := .complete
  environment name := if name = safeVariable then some "Yes" else none
  files _ := .ok []

def initial : World Unit Unit Empty :=
  World.start () { outcome := some (.ok "") }

def program : Host Unit Empty Unit := do
  discard (Program.question (.openSession (Config.ofLookup setup.environment)))
  discard (Program.question (.openSession {}))
  discard (Program.question (.makeSafe 1))

def moment (count : Nat) : World Unit Unit Empty :=
  (Host.run setup 1 program).after count initial

def refusing : EStateM.Result Halt (World Unit Unit Empty) (Except Error Unit) :=
  (Run.perform setup (Run.dispatch setup 1) (.makeSafe 1)).exec (moment 75)

def plain : World Unit Unit Empty :=
  { initial with
    created := 1
    sessions := Std.TreeMap.insert ∅ 0 {}
    frames := [{ kept := [0] }] }

def agreeing : EStateM.Result Halt (World Unit Unit Empty) (Except Error Unit) :=
  (Run.perform setup (Run.dispatch setup 1) (.makeSafe 0)).exec plain

def opening : EStateM.Result Halt (World Unit Unit Empty) (Except Error SessionId) :=
  (Run.perform setup (Run.dispatch setup 1) (.openSession (Config.ofLookup
    setup.environment))).exec initial

theorem only_first_safe :
    .restricted 0 0 ∈ (moment 40).record ∧ .restricted 1 0 ∉ (moment 75).record ∧
      (∃ state, (moment 75).sessions[0]? = some state ∧ state.safe = true) ∧
      (∃ final, refusing = .ok (.error (.eval "refused")) final ∧
        ∃ code left, code ≠ 0 ∧ (Run.follow (Run.dispatch setup 1) (setup.engine.makeSafe 1
            (moment 75).scene.store)).exec ((moment 75).push (.makeSafe 1)) = .ok code left ∧
          final.sessions[1]? = left.sessions[1]?) ∧
      (∃ final, agreeing = .ok (.ok ()) final ∧
        Run.MadeSafe engine (Run.dispatch setup 1) 0 plain final) ∧
      ∃ final, opening = .ok (.ok 0) final ∧ World.OpenedSafe 0 final := by
  obtain ⟨always, onward, refusal, agreement, started, everywhere, _, asked⟩ :=
    Host.safe_mode_in_force setup 1 program () { outcome := some (.ok "") }
  have comes (count : Nat) : (Host.run setup 1 program).ComesTo initial (moment count) :=
    .inl ⟨count, rfl⟩
  have early : ((moment 40).sessions[0]?.map (·.safe)) = some true := by decide +kernel
  have late : ((moment 75).sessions[0]?.map (·.safe)) = some true := by decide +kernel
  have other : ((moment 75).sessions[1]?.map (·.safe)) = some false := by decide +kernel
  have refused : Process.result? refusing = some (.error (.eval "refused")) := by decide +kernel
  have agreed : Process.result? agreeing = some (.ok ()) := by decide +kernel
  have opened : Process.result? opening = some (.ok 0) := by decide +kernel
  obtain ⟨state, present, safe⟩ := Option.map_eq_some_iff.mp early
  obtain ⟨later, presentLater, _⟩ := Option.map_eq_some_iff.mp late
  obtain ⟨unasked, presentOther, notSafe⟩ := Option.map_eq_some_iff.mp other
  obtain ⟨left, failed⟩ := Process.result?_eq_some_iff.mp refused
  obtain ⟨made, returned⟩ := Process.result?_eq_some_iff.mp agreed
  obtain ⟨final, handedOut⟩ := Process.result?_eq_some_iff.mp opened
  refine ⟨?_, ?_, ⟨later, presentLater, ?_⟩, ⟨left, failed, ?_⟩,
    ⟨made, returned, agreement plain made 0 returned⟩, final, handedOut, ?_⟩
  · exact ((always (moment 40) (comes 40)).1 0 state present).mp safe
  · intro restricted
    have claimed := ((always (moment 75) (comes 75)).1 1 unasked presentOther).mpr restricted
    exact Bool.false_ne_true (notSafe.symm.trans claimed)
  · exact onward 40 35 0 state later present safe presentLater
  · obtain ⟨code, between, followed, nonzero, _, sessions, _⟩ := refusal (moment 75) left 1 _ failed
    exact ⟨code, between, nonzero, followed, sessions 1⟩
  · have wanted : (Config.ofLookup setup.environment).safe = true :=
      (asked setup.environment).mpr ⟨"Yes", rfl, by decide +kernel⟩
    exact ((everywhere none [] initial started).2 _ 0 final wanted handedOut).1

end Refusal

end TclHost
