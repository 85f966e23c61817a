import TclHost.Proofs.Run.Step

/-!
What a part of a run leaves as it was. Whatever it does, it ends the evaluations that it began and
no others, and sessions that somebody else holds are neither made ready nor taken down by it.
-/

namespace TclHost

variable {σ H N : Type}

namespace Record

variable {session : SessionId} {entries : List (Event N)}

/-- An evaluation of the session that was under way before is so afterwards, and as many run
inside it. -/
def Balanced (session : SessionId) (entries : List (Event N)) : Prop :=
  ∀ view, ∃ later, entries.foldlM (View.next session) view = some later ∧
    later.nested = view.nested

def Closed (entries : List (Event N)) : Prop :=
  ∀ session, Balanced session entries

theorem Balanced.append {later : List (Event N)} (first : Balanced session entries)
    (second : Balanced session later) : Balanced session (entries ++ later) := by
  intro view
  obtain ⟨between, followed, same⟩ := first view
  obtain ⟨last, followedOn, sameAgain⟩ := second between
  refine ⟨last, ?_, sameAgain.trans same⟩
  rw [List.foldlM_append, followed]
  exact followedOn

theorem Closed.append {later : List (Event N)} (first : Closed entries) (second : Closed later) :
    Closed (entries ++ later) :=
  fun session => (first session).append (second session)

theorem balanced_of_elsewhere (elsewhere : ∀ event ∈ entries, event.session? ≠ some session) :
    Balanced session entries := by
  induction entries with
  | nil => exact fun view => ⟨view, rfl, rfl⟩
  | cons event rest ih =>
      intro view
      obtain ⟨later, followed, same⟩ := ih (fun other member => elsewhere other (by simp [member])) view
      refine ⟨later, ?_, same⟩
      rw [List.foldlM_cons, View.next_of_session?_ne (elsewhere event (by simp))]
      exact followed

theorem closed_of_silent (silent : ∀ event ∈ entries, event.session? = none) : Closed entries :=
  fun session => balanced_of_elsewhere fun event member => by simp [silent event member]

theorem closed_singleton {event : Event N}
    (same : ∀ session view, ∃ later, View.next session view event = some later ∧
      later.nested = view.nested) : Closed [event] := by
  intro session view
  obtain ⟨later, followed, level⟩ := same session view
  exact ⟨later, by simp [followed], level⟩

theorem closed_answered (session : SessionId) (outcome : Outcome) :
    Closed [(.answered session outcome : Event N)] := by
  refine closed_singleton fun other view => ?_
  by_cases same : session = other
  · cases asked : outcome.exitStatus? with
    | none => exact ⟨view, by simp [View.next, same, asked], rfl⟩
    | some status =>
        exact ⟨view.request status, by simp [View.next, same, asked], View.nested_request view status⟩
  · exact ⟨view, by simp [View.next, same], rfl⟩

theorem closed_evaluation {inner rest : List (Event N)} (script : List UInt8) (code : Int)
    (session : SessionId) (innerClosed : Closed inner) (restClosed : Closed rest) :
    Closed (.evaluate session script ::
      (inner ++ .completed session code :: (rest ++ [.returned session]))) := by
  intro other
  by_cases same : session = other
  · subst same
    intro view
    obtain ⟨first, followed, level⟩ := innerClosed session { view with nested := view.nested + 1 }
    obtain ⟨last, followedOn, levelOn⟩ := restClosed session first
    have inside : first.nested = view.nested + 1 := level
    refine ⟨{ last with nested := last.nested - 1 }, ?_, by simp only; omega⟩
    have began : View.next session view (.evaluate session script : Event N) =
        some { view with nested := view.nested + 1 } := by
      simp [View.next]
    have completed : View.next session first (.completed session code : Event N) = some first := by
      simp [View.next, inside]
    have returned : View.next session last (.returned session : Event N) =
        some { last with nested := last.nested - 1 } := by
      have running : last.nested ≠ 0 := by omega
      simp [View.next, running]
    simp [began, followed, completed, followedOn, returned]
  · have apart : ∀ event : Event N, event.session? = some session → Balanced other [event] := by
      intro event about
      exact balanced_of_elsewhere (by simp [about, same])
    have ending := (restClosed other).append (apart (.returned session) rfl)
    have completing := (apart (.completed session code) rfl).append ending
    exact (apart (.evaluate session script) rfl).append ((innerClosed other).append completing)

end Record

namespace World

variable {world between later : World σ H N} {waiting inner : List Frame} {session : SessionId}

/-! Changes of one session. -/

@[simp] theorem record_update (world : World σ H N) (session : SessionId)
    (change : Session H → Session H) : (world.update session change).record = world.record := by
  unfold update
  split <;> rfl

/-- What is changed and recorded together. -/
theorem record_noted (world : World σ H N) (session : SessionId) (change : Session H → Session H)
    (event : Event N) :
    ((world.update session change).push event).record = world.record ++ [event] := by
  rw [record_push, record_update]

@[simp] theorem scene_update (world : World σ H N) (session : SessionId)
    (change : Session H → Session H) : (world.update session change).scene = world.scene := by
  unfold update
  split <;> rfl

@[simp] theorem frames_update (world : World σ H N) (session : SessionId)
    (change : Session H → Session H) : (world.update session change).frames = world.frames := by
  unfold update
  split <;> rfl

@[simp] theorem created_update (world : World σ H N) (session : SessionId)
    (change : Session H → Session H) :
    (world.update session change).created = world.created := by
  unfold update
  split <;> rfl

@[simp] theorem desk_update (world : World σ H N) (session : SessionId)
    (change : Session H → Session H) : (world.update session change).desk = world.desk := by
  unfold update
  split <;> rfl

theorem depthOf_update {state : Session H} (present : world.sessions[session]? = some state)
    (change : Session H → Session H) (other : SessionId) :
    (world.update session change).depthOf other =
      if session = other then (change state).depth else world.depthOf other := by
  rw [depthOf, sessions_update]
  by_cases same : session = other
  · subst same
    simp [present]
  · simp [same, depthOf]

theorem isFresh_update {state : Session H} (present : world.sessions[session]? = some state)
    (change : Session H → Session H) (other : SessionId) :
    (world.update session change).IsFresh other ↔
      if session = other then (change state).stage = .fresh else world.IsFresh other := by
  rw [IsFresh, sessions_update]
  by_cases same : session = other
  · subst same
    simp [present]
  · simp [same, IsFresh]

theorem isFresh_update_of_stage {state : Session H}
    (present : world.sessions[session]? = some state) {change : Session H → Session H}
    (stage : (change state).stage = .fresh ↔ state.stage = .fresh) (other : SessionId) :
    (world.update session change).IsFresh other ↔ world.IsFresh other := by
  rw [isFresh_update present]
  by_cases same : session = other
  · subst same
    simp [IsFresh, present, stage]
  · simp [same]

theorem depthOf_update_of_depth {change : Session H → Session H}
    (depth : ∀ state, (change state).depth = state.depth) (other : SessionId) :
    (world.update session change).depthOf other = world.depthOf other := by
  rw [depthOf, sessions_update, depthOf]
  by_cases same : session = other
  · cases world.sessions[other]? <;> simp [same, depth]
  · simp [same]

theorem IsFresh.of_sessions (sessions : later.sessions = world.sessions) :
    later.IsFresh session ↔ world.IsFresh session := by
  simp [IsFresh, sessions]

/-- Nothing but the library's store and the record changed, and the record only by calls that
happen to no session. -/
structure Beside (world later : World σ H N) : Prop where
  same : later = { world with scene := later.scene }
  grown : ∃ entries, later.record = world.record ++ entries ∧
    ∀ event ∈ entries, event.session? = none

/-- What a part of a run leaves as it was. The frames are those of the programs that wait for it to
end; while somebody waits who holds a session that is being set up, the session stays. -/
structure Since (waiting : List Frame) (world later : World σ H N) : Prop where
  depth : ∀ session, later.depthOf session = world.depthOf session
  aged : ∀ session, later.IsFresh session → world.IsFresh session
  guarded : ∀ session, waiting.any (·.holds session) = true → world.IsFresh session →
    later.IsFresh session
  grown : ∃ entries, later.record = world.record ++ entries ∧ Record.Closed entries

structure Kept (world later : World σ H N) : Prop where
  frames : later.frames = world.frames
  since : Since world.frames world later

def Secured (frames : List Frame) (world : World σ H N) : Prop :=
  ∀ session, 0 < world.depthOf session → frames.any (·.holds session) = true

theorem Secured.cons {frame : Frame} (secured : Secured waiting world)
    (frames : world.frames = frame :: waiting) : Secured world.frames world := by
  intro session running
  simp [frames, secured session running]

theorem Since.of_sessions (sessions : later.sessions = world.sessions) {entries : List (Event N)}
    (grown : later.record = world.record ++ entries) (closed : Record.Closed entries) :
    Since waiting world later := by
  refine ⟨?_, ?_, ?_, entries, grown, closed⟩
  · intro session
    simp [depthOf, sessions]
  · intro session fresh
    exact (IsFresh.of_sessions sessions).mp fresh
  · intro session _ fresh
    exact (IsFresh.of_sessions sessions).mpr fresh

theorem Since.of_update {state : Session H} (present : world.sessions[session]? = some state)
    {change : Session H → Session H} {event : Event N}
    (depth : ∀ state, (change state).depth = state.depth)
    (stage : (change state).stage = .fresh ↔ state.stage = .fresh)
    (closed : Record.Closed [event]) :
    Since waiting world ((world.update session change).push event) := by
  have fresh := isFresh_update_of_stage present stage
  refine ⟨depthOf_update_of_depth depth, fun other => (fresh other).mp,
    fun other _ => (fresh other).mpr, [event], ?_, closed⟩
  exact record_noted world session change event

theorem Since.of_unrecorded {state : Session H} (present : world.sessions[session]? = some state)
    {change : Session H → Session H} (depth : ∀ state, (change state).depth = state.depth)
    (stage : (change state).stage = .fresh ↔ state.stage = .fresh) :
    Since waiting world (world.update session change) := by
  have fresh := isFresh_update_of_stage present stage
  refine ⟨depthOf_update_of_depth depth, fun other => (fresh other).mp,
    fun other _ => (fresh other).mpr, [], ?_, Record.closed_of_silent (by simp)⟩
  rw [record_update, List.append_nil]

theorem Since.refl : Since waiting world world :=
  Since.of_sessions rfl (List.append_nil _).symm (Record.closed_of_silent (by simp))

theorem Since.trans (first : Since waiting world between) (second : Since waiting between later) :
    Since waiting world later := by
  obtain ⟨earlier, grown, closed⟩ := first.grown
  obtain ⟨latest, grownOn, closedOn⟩ := second.grown
  refine ⟨?_, ?_, ?_, earlier ++ latest, ?_, closed.append closedOn⟩
  · exact fun session => (second.depth session).trans (first.depth session)
  · exact fun session fresh => first.aged session (second.aged session fresh)
  · exact fun session held fresh => second.guarded session held (first.guarded session held fresh)
  · rw [grownOn, grown, List.append_assoc]

theorem Since.mono (since : Since waiting world later)
    (fewer : ∀ session, inner.any (·.holds session) = true → waiting.any (·.holds session) = true) :
    Since inner world later :=
  ⟨since.depth, since.aged, fun session held => since.guarded session (fewer session held),
    since.grown⟩

theorem Since.outer {frame : Frame} (since : Since (frame :: waiting) world later) :
    Since waiting world later :=
  since.mono fun session held => by simp [held]

theorem Since.secured (since : Since waiting world later) (secured : Secured inner world) :
    Secured inner later :=
  fun session running => secured session (since.depth session ▸ running)

theorem Beside.since (beside : Beside world later) : Since waiting world later := by
  obtain ⟨entries, grown, silent⟩ := beside.grown
  exact Since.of_sessions (by rw [beside.same]) grown (Record.closed_of_silent silent)

theorem Beside.refl : Beside world world :=
  ⟨rfl, [], (List.append_nil _).symm, by simp⟩

theorem Beside.trans (first : Beside world between) (second : Beside between later) :
    Beside world later := by
  obtain ⟨earlier, grown, silent⟩ := first.grown
  obtain ⟨latest, grownOn, silentOn⟩ := second.grown
  refine ⟨?_, earlier ++ latest, ?_, ?_⟩
  · rw [second.same, first.same]
  · rw [grownOn, grown, List.append_assoc]
  · intro event member
    rcases List.mem_append.mp member with old | new
    · exact silent event old
    · exact silentOn event new

theorem Beside.step (beside : Beside world later) : Step world later := by
  obtain ⟨entries, grown, silent⟩ := beside.grown
  rw [beside.same]
  exact Step.scene world later.scene entries grown silent

theorem Beside.frames (beside : Beside world later) : later.frames = world.frames := by
  rw [beside.same]

theorem Beside.sessions (beside : Beside world later) : later.sessions = world.sessions := by
  rw [beside.same]

theorem Beside.kept (beside : Beside world later) : Kept world later :=
  ⟨beside.frames, beside.since⟩

theorem Kept.refl : Kept world world :=
  ⟨rfl, Since.refl⟩

theorem Kept.trans (first : Kept world between) (second : Kept between later) :
    Kept world later :=
  ⟨second.frames.trans first.frames, first.since.trans (first.frames ▸ second.since)⟩

theorem Kept.secured (kept : Kept world later) (secured : Secured world.frames world) :
    Secured later.frames later :=
  kept.frames ▸ kept.since.secured secured

end World

end TclHost
