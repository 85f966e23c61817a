import TclHost.Proofs.Run.Quiet
import TclHost.Proofs.Run.Since

/-!
The parts of a run that enter the library: following it, evaluating a script, and taking a session
down. Each obeys the rules provided that callbacks are answered so.
-/

namespace TclHost

variable {σ H N α β : Type}

namespace World

variable {world later : World σ H N}

theorem Step.refl (world : World σ H N) : Step world world :=
  Step.scene world world.scene [] (List.append_nil _).symm (by simp)

/-- Once a part of a run is over, the rest goes on in a world that agrees with the record. -/
theorem Sound.bind (sound : world.Sound) {run : Run σ H N α} {next : α → Run σ H N β}
    {middle : α → World σ H N → Prop} {post : β → World σ H N → Prop}
    (first : run.Obeys rules middle world)
    (rest : ∀ answer later, middle answer later → later.Sound →
      (next answer).Obeys rules post later) :
    (run >>= next).Obeys rules post world := by
  refine Process.obeys_bind.mpr (first.reaching.weaken fun answer later ⟨holds, reached⟩ => ?_)
  have agreed : later.Sound := reached.preserved (fun _ _ step => step.sound) sound
  exact rest answer later holds agreed

theorem Sound.alive (sound : world.Sound) {frame : Frame} {rest : List Frame}
    {session : SessionId} (frames : world.frames = frame :: rest)
    (held : frame.holds session = true) : ∃ state, world.sessions[session]? = some state :=
  sound.held session (by simp [holds, frames, held])

theorem Step.update {session : SessionId} {state : Session H} {change : Session H → Session H}
    {event : Event N} (present : world.sessions[session]? = some state)
    (allowed : state.Change session world.record (change state) [event]) :
    Step world ((world.update session change).push event) := by
  have changed := Step.change world session state (change state) [event]
    { world.scene with events := world.scene.events.push event } present allowed
    Array.toList_push
  simpa [World.update, present, push] using changed

theorem Step.unrecorded {session : SessionId} {state : Session H}
    {change : Session H → Session H} (present : world.sessions[session]? = some state)
    (allowed : state.Change session world.record (change state) []) :
    Step world (world.update session change) := by
  have changed := Step.change world session state (change state) [] world.scene present allowed
    (List.append_nil _).symm
  simpa [World.update, present] using changed

theorem Step.handled (scene : later.scene = world.scene) (sessions : later.sessions = world.sessions)
    (growing : world.created ≤ later.created) (sound : world.Sound)
    (desk : ∀ session, later.desk.holds session = true →
      world.desk.holds session = true ∨
        (∃ state, world.sessions[session]? = some state ∧ state.stage ≠ .fresh))
    (frames : ∀ session, later.frames.any (·.holds session) = true →
      ∃ state, world.sessions[session]? = some state) : Step world later := by
  refine Step.handles world later scene sessions growing ?_ ?_
  · intro session held
    rw [holds, Bool.or_eq_true] at held
    rcases held with onDesk | inFrames
    · rcases desk session onDesk with before | ⟨state, present, _⟩
      · exact sound.held session (by simp [holds, before])
      · exact ⟨state, present⟩
    · exact frames session inFrames
  · rintro session held ⟨state, present, fresh⟩
    rcases desk session held with before | ⟨other, known, settled⟩
    · exact sound.settled session before ⟨state, present, fresh⟩
    · rw [present, Option.some.injEq] at known
      exact settled (known ▸ fresh)

/-- A program drops the handle that it took last. -/
theorem Step.dropped (sound : world.Sound) {caller : Option SessionId} {session : SessionId}
    {kept : List SessionId} {rest : List Frame}
    (frames : world.frames = ⟨caller, session :: kept⟩ :: rest) :
    Step world { world with frames := ⟨caller, kept⟩ :: rest } := by
  refine Step.handled rfl rfl (Nat.le_refl _) sound (fun _ => Or.inl) fun other held => ?_
  refine sound.held other ?_
  simp only [List.any_cons, Frame.holds, Bool.or_eq_true] at held
  simp only [holds, frames, List.any_cons, Frame.holds, Bool.or_eq_true, List.contains_cons]
  grind

theorem not_isFresh_takeDown (world : World σ H N) (session : SessionId) :
    ¬ (world.takeDown session).IsFresh session := by
  rintro ⟨state, present, _⟩
  simp [sessions_takeDown] at present

/-- Nobody evaluates a script in a session that nobody holds, so taking it down ends nothing. -/
theorem takeDown_kept {session : SessionId} (unheld : world.holds session = false)
    (secured : Secured world.frames world) : Kept world (world.takeDown session) := by
  have outside : world.frames.any (·.holds session) = false := by
    rw [holds, Bool.or_eq_false_iff] at unheld
    exact unheld.2
  refine ⟨rfl, ?_, ?_, ?_, [.delete session], ?_, ?_⟩
  · intro other
    by_cases same : session = other
    · subst same
      have idle : world.depthOf session = 0 :=
        Nat.eq_zero_of_not_pos fun running => by simp [secured session running] at outside
      rw [idle, depthOf, sessions_takeDown]
      simp
    · simp [depthOf, sessions_takeDown, same]
  · rintro other ⟨kept, presentLater, fresh⟩
    rw [sessions_takeDown, Option.ite_none_left_eq_some] at presentLater
    exact ⟨kept, presentLater.2, fresh⟩
  · rintro other held ⟨kept, presentBefore, fresh⟩
    have different : session ≠ other := fun same => by simp [← same, outside] at held
    exact ⟨kept, by rw [sessions_takeDown, if_neg different, presentBefore], fresh⟩
  · exact record_takeDown world session
  · exact Record.closed_singleton fun _ view => ⟨view, rfl, rfl⟩

/-- A pending exit means that the session is known already, so settling it keeps a new one new. -/
theorem settle_stage {session : SessionId} {record : List (Event N)} {state : Session H}
    (sound : state.Sound session record) (depth : Nat) (completion : Completion) :
    (state.settle depth completion).stage = .fresh ↔ state.stage = .fresh := by
  rcases Session.settle_eq_or state depth completion with same | ⟨⟨exit, pending, _⟩, same⟩
  · rw [same]
  · have known : state.stage ≠ .fresh := fun fresh => by
      simp [sound.pending_eq_none fresh] at pending
    simp [same, known]

theorem exitAt?_settle {state : Session H} {depth : Nat} {completion : Completion}
    (unasked : state.exitStatus? depth completion = none) :
    (state.settle depth completion).exitAt? depth = none := by
  cases completion with
  | error => exact unasked
  | success | other code => exact Session.exitAt?_dropExit state depth

variable {session : SessionId} {state : Session H}

theorem depthOf_begin (present : world.sessions[session]? = some state) (script : List UInt8)
    (other : SessionId) :
    (world.begin session script).depthOf other =
      if session = other then world.depthOf other + 1 else world.depthOf other := by
  refine (depthOf_update present Session.enter other).trans ?_
  by_cases same : session = other
  · simp [← same, depthOf, present, Session.enter]
  · simp [same]

theorem isFresh_begin (present : world.sessions[session]? = some state) (script : List UInt8)
    (other : SessionId) : (world.begin session script).IsFresh other ↔ world.IsFresh other :=
  isFresh_update_of_stage present Iff.rfl other

/-- Whoever begins an evaluation holds the session, which the frames around it need not. -/
theorem secured_begin (present : world.sessions[session]? = some state) (script : List UInt8)
    {frame : Frame} {rest : List Frame} (secured : Secured rest world)
    (held : frame.holds session = true) :
    Secured (frame :: rest) (world.begin session script) := by
  intro other running
  rw [depthOf_begin present] at running
  by_cases same : session = other
  · simp [← same, held]
  · rw [if_neg same] at running
    simp [secured other running]

theorem sessions_complete (present : world.sessions[session]? = some state) (depth : Nat)
    (code : Int) : (world.complete session depth code).sessions[session]? =
      some (state.settle depth (Completion.ofCode code)) := by
  simp [complete, push, sessions_update, present]

theorem depthOf_complete (world : World σ H N) (session : SessionId) (depth : Nat) (code : Int)
    (other : SessionId) :
    (world.complete session depth code).depthOf other = world.depthOf other :=
  depthOf_update_of_depth (fun state => Session.depth_settle state depth _) other

theorem isFresh_complete (sound : world.Sound) (present : world.sessions[session]? = some state)
    (depth : Nat) (code : Int) (other : SessionId) :
    (world.complete session depth code).IsFresh other ↔ world.IsFresh other :=
  isFresh_update_of_stage present (settle_stage (sound.sessions session state present) depth _)
    other

theorem depthOf_leave (present : world.sessions[session]? = some state) (other : SessionId) :
    (world.leave session).depthOf other =
      if session = other then world.depthOf other - 1 else world.depthOf other := by
  refine (depthOf_update present Session.leave other).trans ?_
  by_cases same : session = other
  · simp [← same, depthOf, present, Session.leave]
  · simp [same]

theorem isFresh_leave (present : world.sessions[session]? = some state) (other : SessionId) :
    (world.leave session).IsFresh other ↔ world.IsFresh other :=
  isFresh_update_of_stage present Iff.rfl other

/-- An evaluation leaves every session as deep as it was: what it adds to one it takes away. -/
theorem evaluation_kept {completed last : World σ H N} {script : List UInt8} {code : Int}
    {inner : Session H} (present : world.sessions[session]? = some state)
    (kept : Kept (world.begin session script) later) (sound : later.Sound)
    (settling : later.sessions[session]? = some inner)
    (completing : completed = later.complete session inner.depth code)
    (beside : Beside completed last) : Kept world (last.leave session) := by
  have presentLast : last.sessions[session]? =
      some (inner.settle inner.depth (Completion.ofCode code)) := by
    rw [beside.sessions, completing, sessions_complete settling]
  have depth : ∀ other, last.depthOf other =
      if session = other then world.depthOf other + 1 else world.depthOf other := by
    intro other
    rw [depthOf, beside.sessions, ← depthOf, completing, depthOf_complete,
      kept.since.depth, depthOf_begin present]
  have fresh : ∀ other, (last.leave session).IsFresh other ↔ later.IsFresh other := by
    intro other
    rw [isFresh_leave presentLast, IsFresh.of_sessions beside.sessions, completing,
      isFresh_complete sound settling]
  refine ⟨?_, ?_, ?_, ?_, ?_⟩
  · have framesLast := beside.frames
    have framesLater := kept.frames
    rw [completing] at framesLast
    simp only [complete, begin, leave, push, frames_update] at framesLast framesLater ⊢
    rw [framesLast, framesLater]
  · intro other
    rw [depthOf_leave presentLast, depth]
    by_cases same : session = other
    · simp [same]
    · simp [same]
  · intro other isFresh
    have earlier := kept.since.aged other ((fresh other).mp isFresh)
    exact (isFresh_begin present script other).mp earlier
  · intro other held isFresh
    have begun := (isFresh_begin present script other).mpr isFresh
    refine (fresh other).mpr (kept.since.guarded other ?_ begun)
    simpa [begin, push] using held
  · obtain ⟨entries, grown, closed⟩ := kept.since.grown
    obtain ⟨rest, grownRest, silent⟩ := beside.grown
    refine ⟨_, ?_, Record.closed_evaluation script code session closed
      (Record.closed_of_silent silent)⟩
    rw [leave, record_noted, grownRest, completing, complete, record_noted, grown, begin,
      record_noted]
    simp

end World

namespace Run

open World

variable {world : World σ H N} {post : α → World σ H N → Prop}

theorem obeys_get_bind {next : World σ H N → Run σ H N α}
    (rest : (next world).Obeys rules post world) : (get >>= next).Obeys rules post world :=
  ⟨Step.refl world, rest⟩

theorem obeys_modify_bind {change : World σ H N → World σ H N} {next : PUnit → Run σ H N α}
    (step : Step world (change world)) (rest : (next ⟨⟩).Obeys rules post (change world)) :
    (modify change >>= next).Obeys rules post world :=
  ⟨step, rest⟩

theorem obeys_set_bind {given : World σ H N} {next : PUnit → Run σ H N α}
    (step : Step world given) (rest : (next ⟨⟩).Obeys rules post given) :
    (set given >>= next).Obeys rules post world :=
  ⟨step, rest⟩

theorem obeys_store_bind {next : σ → Run σ H N α}
    (rest : (next world.scene.store).Obeys rules post world) :
    (store >>= next).Obeys rules post world :=
  ⟨Step.refl world, rest⟩

theorem obeys_discard {run : Run σ H N α} {post : World σ H N → Prop}
    (obeys : run.Obeys rules (fun _ => post) world) :
    (discard run).Obeys rules (fun _ => post) world :=
  Process.obeys_bind.mpr obeys

theorem obeys_call {call : Call σ N α} (quiet : call.Quiet) (world : World σ H N) :
    (Run.call call).Obeys rules (fun _ later => Beside world later) world := by
  obtain ⟨entries, grown, silent⟩ := quiet world.scene
  exact ⟨Step.scene world _ entries grown silent, rfl, entries, grown, silent⟩

theorem obeys_emit {event : Event N} (silent : event.session? = none) (world : World σ H N) :
    (emit event).Obeys rules (fun _ later => later = world.push event) world :=
  ⟨Step.scene world _ [event] Array.toList_push (by simp [silent]), rfl⟩

theorem obeys_setStore (given : σ) (world : World σ H N) :
    (setStore given).Obeys rules (fun _ later => Beside world later) world := by
  have kept : Beside world { world with scene := { world.scene with store := given } } :=
    ⟨rfl, [], (List.append_nil _).symm, by simp⟩
  exact ⟨kept.step, kept⟩

theorem obeys_stop {cause : Halt} (unexited : ∀ status, cause ≠ .exited status) :
    (stop cause : Run σ H N α).Obeys rules post world := by
  cases cause with
  | exited status => exact absurd rfl (unexited status)
  | unheld | outOfFuel => exact rfl

theorem push_beside (world : World σ H N) (event : Event N) (silent : event.session? = none) :
    Beside world (world.push event) :=
  ⟨rfl, [event], record_push world event, by simp [silent]⟩

def Answers (dispatch : Dispatch σ H N) : Prop :=
  ∀ (world : World σ H N) (session : SessionId) (words : List Obj) (before : List (Event N)),
    world.Sound → Secured world.frames world → world.record = before ++ [.called session] →
      (dispatch session words).Obeys rules (fun _ later => Kept world later) world

variable {dispatch : Dispatch σ H N} (answers : Answers dispatch)
include answers

theorem obeys_follow (reaction : Reaction σ) (sound : world.Sound)
    (secured : Secured world.frames world) :
    (follow dispatch reaction).Obeys rules (fun _ later => Kept world later) world := by
  -- Each callback leaves every evaluation secured, which is what the next one needs.
  induction reaction generalizing world with
  | finished code store =>
      refine sound.bind (obeys_setStore store world) fun _ later beside _ => ?_
      exact beside.kept
  | callback interp words store resume ih =>
      refine sound.bind (obeys_setStore store world) fun _ entered beside sound => ?_
      refine sound.bind (obeys_emit rfl entered) fun _ called recorded sound => ?_
      subst recorded
      have calling := beside.kept.trans (push_beside entered (.called interp) rfl).kept
      have answered := answers _ interp words entered.record sound (calling.secured secured)
        (record_push entered _)
      refine sound.bind answered fun reply replied kept sound => ?_
      refine sound.bind (obeys_emit rfl replied) fun _ sent recorded sound => ?_
      subst recorded
      have going := (calling.trans kept).trans (push_beside replied (.sent interp reply) rfl).kept
      refine obeys_store_bind ?_
      exact (ih reply.code _ sound (going.secured secured)).weaken fun _ _ => going.trans

/-- A session goes once nobody holds it, and then it is not being set up any more. -/
theorem obeys_sweep (engine : Engine σ) (session : SessionId) (sound : world.Sound)
    (secured : Secured world.frames world) :
    (sweep engine dispatch session).Obeys rules (fun _ later => Kept world later ∧
      (world.holds session = false → ¬ later.IsFresh session)) world := by
  unfold sweep
  refine obeys_get_bind ?_
  split
  · rename_i unused
    simp only [Bool.and_eq_true, Bool.not_eq_true', Std.TreeMap.contains_eq_isSome_getElem?,
      Option.isSome_iff_exists] at unused
    obtain ⟨⟨state, present⟩, unheld⟩ := unused
    have down := takeDown_kept unheld secured
    have step := Step.takeDown world session state present unheld
    refine obeys_modify_bind step (obeys_store_bind ?_)
    have entering := fun reaction =>
      obeys_follow answers reaction (step.sound sound) (down.secured secured)
    refine (step.sound sound).bind (obeys_discard (entering _)) fun _ left kept sound => ?_
    refine (obeys_call ((Call.emits_release engine session).lone rfl) left).weaken fun _ later beside => ?_
    have after := kept.trans beside.kept
    refine ⟨down.trans after, fun _ fresh => ?_⟩
    exact not_isFresh_takeDown world session (after.since.aged session fresh)
  · rename_i used
    refine ⟨Kept.refl, fun unheld ⟨state, present, _⟩ => used ?_⟩
    simp [unheld, Std.TreeMap.contains_eq_isSome_getElem?, present]

theorem obeys_letGo (engine : Engine σ) {caller : Option SessionId} {session : SessionId}
    {kept : List SessionId} {rest : List Frame} (sound : world.Sound)
    (secured : Secured rest world) (frames : world.frames = ⟨caller, session :: kept⟩ :: rest) :
    (letGo engine dispatch).Obeys rules (fun _ later =>
      later.frames = ⟨caller, kept⟩ :: rest ∧ Since (⟨caller, kept⟩ :: rest) world later ∧
        (world.desk.holds session = false → (⟨caller, kept⟩ :: rest).any (·.holds session) = false →
          ¬ later.IsFresh session)) world := by
  unfold letGo
  refine obeys_get_bind ?_
  simp only [frames]
  have step := Step.dropped sound frames
  have fewer : Secured (⟨caller, kept⟩ :: rest)
      ({ world with frames := ⟨caller, kept⟩ :: rest } : World σ H N) := by
    intro other running
    simp [secured other running]
  refine obeys_set_bind step ?_
  refine (obeys_sweep answers engine session (step.sound sound) fewer).weaken ?_
  rintro _ later ⟨swept, gone⟩
  have since : Since (⟨caller, kept⟩ :: rest) world
      ({ world with frames := ⟨caller, kept⟩ :: rest } : World σ H N) :=
    Since.of_sessions rfl (List.append_nil _).symm (Record.closed_of_silent (by simp))
  refine ⟨swept.frames, since.trans swept.since, fun offDesk outside => gone ?_⟩
  simp [holds, offDesk, outside]

theorem obeys_dropKept (engine : Engine σ) {caller : Option SessionId} {kept : List SessionId}
    {rest : List Frame} (sound : world.Sound) (secured : Secured rest world)
    (frames : world.frames = ⟨caller, kept⟩ :: rest) :
    (dropKept engine dispatch).Obeys rules (fun _ later =>
      later.frames = ⟨caller, []⟩ :: rest ∧ Since rest world later) world := by
  unfold dropKept
  refine obeys_get_bind ?_
  simp only [frames]
  induction kept generalizing world with
  | nil => exact ⟨frames, Since.refl⟩
  | cons session kept ih =>
      refine sound.bind (obeys_letGo answers engine sound secured frames) ?_
      rintro _ later ⟨framesLater, since, _⟩ soundLater
      refine (ih soundLater (since.secured secured) framesLater).weaken ?_
      rintro _ last ⟨framesLast, sinceLast⟩
      exact ⟨framesLast, since.outer.trans sinceLast⟩

theorem obeys_endFrame (engine : Engine σ) (caller : SessionId) {frame : Frame}
    {rest : List Frame} (sound : world.Sound) (secured : Secured rest world)
    (frames : world.frames = frame :: rest) :
    (endFrame engine dispatch caller).Obeys rules (fun _ later =>
      later.frames = rest ∧ Since rest world later) world := by
  unfold endFrame
  have step : Step world { world with frames := world.frames.tail } := by
    refine Step.handled rfl rfl (Nat.le_refl _) sound (fun _ => Or.inl) fun other held => ?_
    refine sound.held other ?_
    simp only [frames, List.tail_cons] at held
    simp [holds, frames, held]
  refine obeys_modify_bind step ?_
  have fewer : Secured world.frames.tail
      ({ world with frames := world.frames.tail } : World σ H N) := by
    rw [frames]
    exact secured
  refine (obeys_sweep answers engine caller (step.sound sound) fewer).weaken ?_
  rintro _ later ⟨swept, _⟩
  have since : Since rest world ({ world with frames := world.frames.tail } : World σ H N) :=
    Since.of_sessions rfl (List.append_nil _).symm (Record.closed_of_silent (by simp))
  have sweptFrames := swept.frames
  have sweptSince := swept.since
  simp only [frames, List.tail_cons] at sweptFrames sweptSince since
  exact ⟨sweptFrames, since.trans sweptSince⟩

omit answers in
theorem obeys_complete {session : SessionId} {state : Session H} {before body : List (Event N)}
    {script : List UInt8} {view : Record.View} (code : Int)
    (present : world.sessions[session]? = some state)
    (split : world.record = before ++ .evaluate session script :: body)
    (seen : Record.view? session body = some view) (innermost : view.nested = 0)
    (running : 0 < state.depth) :
    (complete session state.depth code).Obeys rules (fun _ later =>
      later = world.complete session state.depth code ∧
        state.exitStatus? state.depth (Completion.ofCode code) = none) world := by
  unfold complete
  refine obeys_get_bind ?_
  rw [present, Option.bind_some]
  cases asked : state.exitStatus? state.depth (Completion.ofCode code) with
  | none =>
      have step : Step world (world.complete session state.depth code) := by
        exact Step.update present (Session.Change.complete state code asked running)
      exact ⟨step, rfl, rfl⟩
  | some status =>
      -- Only after an error is there anything to end the process with.
      have failed : code = 1 ∧ state.exitAt? state.depth = some status := by
        unfold Completion.ofCode at asked
        split at asked
        · cases asked
        · split at asked
          · exact ⟨‹code = 1›, asked⟩
          · cases asked
      obtain ⟨rfl, due⟩ := failed
      exact ⟨session, state, before, script, body, view, present, split, seen, innermost, due, rfl⟩

omit answers in
theorem obeys_evaluationResult (engine : Engine σ) (session : SessionId)
    (completion : Completion) (world : World σ H N) :
    (evaluationResult engine session completion).Obeys rules
      (fun _ later => Beside world later) world := by
  have asked := obeys_call (Call.emits_result engine session).quiet world
  cases completion with
  | success | error => exact Process.obeys_bind.mpr asked
  | other code => exact Beside.refl

theorem obeys_evaluate (engine : Engine σ) (session : SessionId) (script : String) {frame : Frame}
    {rest : List Frame} (sound : world.Sound) (secured : Secured rest world)
    (frames : world.frames = frame :: rest) (held : frame.holds session = true) :
    (evaluate engine dispatch session script).Obeys rules (fun _ later => Kept world later)
      world := by
  unfold evaluate
  obtain ⟨state, present⟩ := sound.alive frames held
  generalize Text.encode script = bytes
  have begun : Step world (world.begin session bytes) :=
    Step.update present (Session.Change.begin state bytes)
  have framesBegun : (world.begin session bytes).frames = frame :: rest :=
    (frames_update world session Session.enter).trans frames
  have securedBegun : Secured (world.begin session bytes).frames (world.begin session bytes) :=
    framesBegun ▸ secured_begin present bytes secured held
  refine obeys_modify_bind begun (obeys_get_bind (obeys_store_bind ?_))
  refine (begun.sound sound).bind
    (obeys_follow answers _ (begun.sound sound) securedBegun) fun code later kept soundLater => ?_
  have framesLater : later.frames = frame :: rest := kept.frames.trans framesBegun
  obtain ⟨inner, settling⟩ := soundLater.alive framesLater held
  have level : (world.begin session bytes).depthOf session = inner.depth := by
    rw [← kept.since.depth session, depthOf, settling]
  obtain ⟨entries, grown, closed⟩ := kept.since.grown
  obtain ⟨view, seen, innermost⟩ := closed session {}
  have split : later.record = world.record ++ .evaluate session bytes :: entries := by
    rw [grown, begin, record_noted]
    simp
  have deep : 0 < inner.depth := by
    rw [← level, depthOf_begin present, if_pos rfl]
    exact Nat.succ_pos _
  rw [level]
  refine soundLater.bind (obeys_complete code settling split seen innermost deep) ?_
  rintro _ completed ⟨completing, unasked⟩ soundCompleted
  refine soundCompleted.bind (obeys_evaluationResult engine session _ completed) ?_
  intro answer last beside _
  have presentLast : last.sessions[session]? =
      some (inner.settle inner.depth (Completion.ofCode code)) := by
    rw [beside.sessions, completing, sessions_complete settling]
  have leaving : Step last (last.leave session) := by
    refine Step.update presentLast (Session.Change.leave _ ?_ ?_)
    · rwa [Session.depth_settle]
    · rw [Session.depth_settle]
      exact exitAt?_settle unasked
  exact ⟨leaving, evaluation_kept present kept soundLater settling completing beside⟩

theorem obeys_makeSafe (engine : Engine σ) (session : SessionId) {frame : Frame}
    {rest : List Frame} (sound : world.Sound) (secured : Secured rest world)
    (frames : world.frames = frame :: rest) (held : frame.holds session = true) :
    (makeSafe engine dispatch session).Obeys rules (fun _ later => Kept world later) world := by
  unfold makeSafe
  refine obeys_get_bind ?_
  split
  · exact Kept.refl
  · refine sound.bind (obeys_emit rfl world) fun _ asked recorded sound => ?_
    subst recorded
    have asking := (push_beside world (.makeSafe session) rfl).kept
    refine obeys_store_bind ?_
    refine sound.bind (obeys_follow answers _ sound (asking.secured (secured.cons frames))) ?_
    intro code later kept sound
    have before := asking.trans kept
    obtain ⟨state, present⟩ := sound.alive (before.frames.trans frames) held
    have restricting : Step later (later.restrict session code) :=
      Step.update present (Session.Change.restrict state code)
    have after : Kept later (later.restrict session code) := by
      refine ⟨frames_update later session _, Since.of_update present (fun _ => rfl) Iff.rfl ?_⟩
      exact Record.closed_singleton fun _ view => ⟨view, rfl, rfl⟩
    refine obeys_modify_bind restricting ?_
    split
    · refine Process.obeys_bind.mpr ?_
      refine (obeys_call (Call.emits_result engine session).quiet _).weaken fun _ _ beside => ?_
      exact (before.trans after).trans beside.kept
    · exact before.trans after

end Run

end TclHost
