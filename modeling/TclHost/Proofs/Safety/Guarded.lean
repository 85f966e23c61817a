import TclHost.Proofs.Run.Deeds

/-!
What the record of a run says about safe sessions: a session is safe once the library has made it
so, the library is not asked again then, and a session is ready only if it was not refused to be
made safe before.
-/

namespace TclHost

variable {σ H N α : Type}

structure Record.Prepared (session : SessionId) (record : List (Event N)) : Prop where
  plain : ∀ script, .evaluate session script ∈ record → script ∈ snapshotScripts
  granted : ∀ code, .restricted session code ∈ record → code = 0

namespace Session

variable {session : SessionId} {record entries : List (Event N)} {state next : Session H}

theorem Change.safe_iff (change : Change session record state next entries) :
    next.safe = true ↔ state.safe = true ∨ .restricted session 0 ∈ entries := by
  cases change with
  | answer outcome =>
      unfold Session.answer
      split <;> simp [requestExit]
  | complete code =>
      rcases settle_eq_or state state.depth (Completion.ofCode code) with same | ⟨_, same⟩ <;>
        simp [same]
  | restrict code =>
      simp only [Bool.or_eq_true, decide_eq_true_eq, List.mem_singleton, Event.restricted.injEq,
        true_and]
      exact or_congr_right eq_comm
  | _ => simp [enter, Session.leave]

theorem Change.single {event : Event N} (change : Change session record state next entries)
    (member : event ∈ entries) : entries = [event] := by
  cases change <;> simp_all

theorem Change.fresh_of_ready {other : SessionId}
    (change : Change session record state next entries) (member : .ready other ∈ entries) :
    state.stage = .fresh := by
  cases change <;> simp_all

end Session

namespace World

variable {world later : World σ H N} {session : SessionId} {setup : Setup σ H N}

structure Guarded (world : World σ H N) : Prop where
  safe_iff : ∀ (session : SessionId) (state : Session H), world.sessions[session]? = some state →
    (state.safe = true ↔ .restricted session 0 ∈ world.record)
  once : ∀ session before after, world.record = before ++ .makeSafe session :: after →
    .restricted session 0 ∉ before
  fresh : ∀ session, world.IsFresh session → ∀ script, .evaluate session script ∈ world.record →
    script ∈ snapshotScripts
  ready : ∀ session before after, world.record = before ++ .ready session :: after →
    Record.Prepared session before

theorem guarded_start (store : σ) (library : Library) :
    (start store library : World σ H N).Guarded := by
  constructor
  · simp [start]
  · intro session before after split
    simp [start, record] at split
  · rintro session ⟨state, present, _⟩
    simp [start] at present
  · intro session before after split
    simp [start, record] at split

/-- The library is only asked to make a session safe that is not safe yet. -/
theorem Guarded.once_step (guarded : world.Guarded) (step : Step world later)
    (deed : Deed setup world later) {before after : List (Event N)}
    (split : later.record = before ++ .makeSafe session :: after) :
    .restricted session 0 ∉ before := by
  obtain ⟨entries, grown, apart⟩ := step.grown
  by_cases asked : .makeSafe session ∈ entries
  · obtain ⟨state, present, unsecured⟩ := deed.restricted session entries grown asked
    intro member
    have known : .restricted session 0 ∈ world.record ++ entries := by
      rw [← grown, split]
      exact List.mem_append_left _ member
    rcases List.mem_append.mp known with earlier | latest
    · simp [(guarded.safe_iff session state present).mpr earlier] at unsecured
    · exact apart session asked latest
  · obtain ⟨inner, _, earlier⟩ := Record.split_of_not_mem asked (grown.symm.trans split)
    exact guarded.once session before inner earlier

theorem Guarded.step_change (guarded : world.Guarded) (sound : world.Sound)
    {state next : Session H} {entries : List (Event N)} {scene : Scene σ N}
    (present : world.sessions[session]? = some state)
    (change : state.Change session world.record next entries)
    (recorded : scene.events.toList = world.record ++ entries)
    (deed : Deed setup world
      { world with sessions := world.sessions.insert session next, scene }) :
    ({ world with sessions := world.sessions.insert session next, scene } :
      World σ H N).Guarded := by
  let later : World σ H N := { world with sessions := world.sessions.insert session next, scene }
  have grown : later.record = world.record ++ entries := recorded
  have found (other : SessionId) : later.sessions[other]? =
      if session = other then some next else world.sessions[other]? := by
    simp [later, Std.TreeMap.getElem?_insert]
  constructor
  · intro other state' present'
    rw [grown, List.mem_append]
    rw [found] at present'
    split at present'
    · rename_i same
      subst same
      cases present'
      rw [change.safe_iff, guarded.safe_iff session state present]
    · rename_i different
      rw [guarded.safe_iff other state' present']
      refine (or_iff_left fun member => ?_).symm
      cases change.about _ member
      exact different rfl
  · intro other before after split
    exact guarded.once_step (.change world session state next entries scene present change recorded)
      deed split
  · intro other isFresh script member
    have before : world.IsFresh other := by
      obtain ⟨state', present', stage⟩ := isFresh
      rw [found] at present'
      split at present'
      · rename_i same
        subst same
        cases present'
        exact ⟨state, present, change.fresh (sound.sessions session state present) stage⟩
      · exact ⟨state', present', stage⟩
    rw [grown, List.mem_append] at member
    rcases member with earlier | latest
    · exact guarded.fresh other before script earlier
    · apply deed.evaluated other script _ before
      rw [← change.single latest]
      exact grown
  · intro other before after split
    by_cases latest : .ready other ∈ entries
    · obtain rfl := change.single latest
      cases change.about _ latest
      rw [grown] at split
      rcases Record.split_last split with ⟨_, _, same⟩ | ⟨inner, _, earlier⟩
      · subst same
        constructor
        · exact guarded.fresh session ⟨state, present, change.fresh_of_ready latest⟩
        · exact deed.readied session grown
      · exact guarded.ready session before inner earlier
    · obtain ⟨inner, _, earlier⟩ := Record.split_of_not_mem latest (grown.symm.trans split)
      exact guarded.ready other before inner earlier

/-- What neither prepares a session nor adds one that is safe. -/
theorem Guarded.aside (guarded : world.Guarded) {entries : List (Event N)}
    (grown : later.record = world.record ++ entries)
    (once : ∀ session before after, later.record = before ++ .makeSafe session :: after →
      .restricted session 0 ∉ before)
    (unready : ∀ session, .ready session ∉ entries)
    (silent : ∀ session, ∀ event ∈ entries, ¬ event.Prepares session)
    (sessions : ∀ (session : SessionId) (state : Session H),
      later.sessions[session]? = some state →
        (∃ earlier : Session H, world.sessions[session]? = some earlier ∧
          state.safe = earlier.safe ∧ (state.stage = .fresh → earlier.stage = .fresh)) ∨
        (state = {} ∧ ∀ event ∈ world.record, event.session? ≠ some session)) :
    later.Guarded := by
  constructor
  · intro session state present
    have same : .restricted session 0 ∈ later.record ↔ .restricted session 0 ∈ world.record := by
      rw [grown, List.mem_append]
      exact or_iff_left fun member => silent session _ member (.restricted 0)
    rw [same]
    rcases sessions session state present with ⟨earlier, known, safe, _⟩ | ⟨rfl, unknown⟩
    · rw [safe]
      exact guarded.safe_iff session earlier known
    · exact iff_of_false nofun fun member => unknown _ member rfl
  · exact once
  · rintro session ⟨state, present, fresh⟩ script member
    rw [grown, List.mem_append] at member
    rcases member with before | latest
    · rcases sessions session state present with ⟨earlier, known, _, stage⟩ | ⟨rfl, unknown⟩
      · exact guarded.fresh session ⟨earlier, known, stage fresh⟩ script before
      · exact absurd rfl (unknown _ before)
    · exact absurd (.evaluate script) (silent session _ latest)
  · intro session before after split
    obtain ⟨inner, _, earlier⟩ :=
      Record.split_of_not_mem (unready session) (grown.symm.trans split)
    exact guarded.ready session before inner earlier

theorem Guarded.step (guarded : world.Guarded) (sound : world.Sound) (step : Step world later)
    (deed : Deed setup world later) : later.Guarded := by
  have once {session : SessionId} {before after : List (Event N)}
      (split : later.record = before ++ .makeSafe session :: after) :
      .restricted session 0 ∉ before := guarded.once_step step deed split
  cases step with
  | scene scene entries recorded library =>
      have grown : ({ world with scene } : World σ H N).record = world.record ++ entries := recorded
      apply guarded.aside grown fun _ _ _ => once
      · intro session member
        cases library _ member
      · intro session event member
        exact not_prepares (library event member) session
      · exact fun session state present => .inl ⟨state, present, rfl, id⟩
  | handles _ scene sessions =>
      have grown : later.record = world.record ++ [] := by
        rw [record, scene, List.append_nil, record]
      apply guarded.aside grown fun _ _ _ => once
      · simp
      · simp
      · exact fun session state present => .inl ⟨state, sessions ▸ present, rfl, id⟩
  | change session state next entries scene present change recorded =>
      exact guarded.step_change sound present change recorded deed
  | enrol session absent below unknown =>
      apply guarded.aside ((record_enrol world session).trans (List.append_nil _).symm)
        fun _ _ _ => once
      · simp
      · simp
      · intro other state present
        rw [sessions_enrol] at present
        split at present
        · rename_i same
          cases present
          exact .inr ⟨rfl, same ▸ unknown⟩
        · exact .inl ⟨state, present, rfl, id⟩
  | takeDown session =>
      apply guarded.aside (record_takeDown world session) fun _ _ _ => once
      · simp
      · intro other event member
        rw [List.mem_singleton] at member
        subst member
        rintro ⟨⟩
      · intro other state present
        rw [sessions_takeDown, Option.ite_none_left_eq_some] at present
        exact .inl ⟨state, present.2, rfl, id⟩

/-- The end of the process changes nobody's safety. -/
theorem Guarded.halt (guarded : world.Guarded) {cause : Halt}
    {last : World σ H N → World σ H N} (halted : (rules : Process.Rules (World σ H N) Halt).halt
      cause last world) : (last world).Guarded := by
  cases cause with
  | exited status =>
      obtain ⟨session, state, _, _, _, _, present, _, _, _, _, rfl⟩ := halted
      have grown : (world.terminate session 1).record =
          world.record ++ [.completed session 1] := record_noted world session _ _
      apply guarded.aside grown
      · intro other before after split
        obtain ⟨inner, _, earlier⟩ := Record.split_of_not_mem (by simp) (grown.symm.trans split)
        exact guarded.once other before inner earlier
      · simp
      · intro other event member
        rw [List.mem_singleton] at member
        subst member
        rintro ⟨⟩
      · intro other found present
        left
        change (world.update session Session.terminate).sessions[other]? = _ at present
        rw [sessions_update] at present
        split at present
        · obtain ⟨earlier, known, rfl⟩ := Option.map_eq_some_iff.mp present
          exact ⟨earlier, known, rfl, nofun⟩
        · exact ⟨found, present, rfl, id⟩
  | unheld | outOfFuel =>
      obtain rfl : last = id := halted
      exact guarded

end World

namespace Host

open World

variable (setup : Setup σ H N) (fuel : Nat) (program : Host H N α) (store : σ) (library : Library)

theorem guarded_of_comesTo {world : World σ H N}
    (comes : (Host.run setup fuel program).ComesTo (start store library) world) :
    world.Guarded := by
  apply throughout setup fuel program store library (guarded_start store library)
  · intro first second sound step deed guarded
    exact guarded.step sound step deed
  · intro cause last later _ halted _ guarded
    exact guarded.halt halted
  · exact comes

end Host

end TclHost
