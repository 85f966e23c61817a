import TclHost.Host.Run
import TclHost.Proofs.Process
import TclHost.Proofs.Run.Sound

/-!
What one step of a run may do to the world, and what the world has in common with the record
after any number of steps.
-/

namespace TclHost

variable {σ H N : Type}

namespace Record

/-- No evaluation that failed and was due to end the process was survived. -/
def Undue (record : List (Event N)) : Prop :=
  ∀ session before script body after view,
    record = before ++ .evaluate session script :: (body ++ .completed session 1 :: after) →
      view? session body = some view → view.nested = 0 → view.due? = none

theorem Undue.append {record entries : List (Event N)} (undue : Undue record)
    (absent : ∀ session code, .completed session code ∉ entries) : Undue (record ++ entries) := by
  intro session before script body after view split seen innermost
  have regrouped : record ++ entries =
      (before ++ .evaluate session script :: body) ++ .completed session 1 :: after := by
    simpa using split
  obtain ⟨inner, _, earlier⟩ := split_of_not_mem (absent session 1) regrouped
  exact undue session before script body inner view (by simpa using earlier) seen innermost

def EndsBegun (record : List (Event N)) : Prop :=
  ∀ session before after, record = before ++ .returned session :: after →
    ended session before < begun session before

theorem EndsBegun.append {record entries : List (Event N)} (ends : EndsBegun record)
    (absent : ∀ session, .returned session ∉ entries) : EndsBegun (record ++ entries) := by
  intro session before after split
  obtain ⟨inner, _, earlier⟩ := split_of_not_mem (absent session) split
  exact ends session before inner earlier

end Record

theorem Session.Change.endsBegun {session : SessionId} {record entries : List (Event N)}
    {state next : Session H} (change : state.Change session record next entries)
    (sound : state.Sound session record) (ends : Record.EndsBegun record) :
    Record.EndsBegun (record ++ entries) := by
  cases change with
  | leave running dropped =>
      intro other before after split
      rcases Record.split_last split with ⟨_, same, known⟩ | ⟨inner, _, earlier⟩
      · simp only [Event.returned.injEq] at same
        subst same known
        have counted := sound.counted
        omega
      · exact ends other before inner earlier
  | _ => exact ends.append (by simp)

theorem Session.Change.undue {session : SessionId} {record entries : List (Event N)}
    {state next : Session H} (change : state.Change session record next entries)
    (sound : state.Sound session record) (undue : Record.Undue record) :
    Record.Undue (record ++ entries) := by
  cases change with
  | complete code unasked =>
      intro other before script body after view split seen innermost
      have regrouped : record ++ [.completed session code] =
          (before ++ .evaluate other script :: body) ++ .completed other 1 :: after := by
        simpa using split
      rcases Record.split_last regrouped with ⟨rfl, same, known⟩ | ⟨inner, _, earlier⟩
      · simp only [Event.completed.injEq] at same
        obtain ⟨rfl, rfl⟩ := same
        obtain ⟨_, due⟩ := sound.under_way before script body view known seen
        have outside := (exitAt?_eq_none_iff state state.depth).mp unasked
        cases asked : view.due? with
        | none => rfl
        | some status =>
            have pending := (due status).mpr asked
            rw [innermost] at pending
            exact absurd (outside _ pending) (by simp)
      · exact undue other before script body inner view (by simpa using earlier) seen innermost
  | _ => exact undue.append (by simp)

theorem Session.Change.fresh {session : SessionId} {record entries : List (Event N)}
    {state next : Session H} (change : state.Change session record next entries)
    (sound : state.Sound session record) (fresh : next.stage = .fresh) : state.stage = .fresh := by
  have unmentioned := (change.stage sound).1.mp fresh
  exact sound.fresh_iff.mpr fun member => unmentioned (List.mem_append_left _ member)

theorem Session.Change.about {session : SessionId} {record entries : List (Event N)}
    {state next : Session H} (change : state.Change session record next entries) :
    ∀ event ∈ entries, event.session? = some session := by
  cases change <;> simp [Event.session?]

namespace World

variable {world later : World σ H N}

def IsFresh (world : World σ H N) (session : SessionId) : Prop :=
  ∃ state, world.sessions[session]? = some state ∧ state.stage = .fresh

inductive Step : World σ H N → World σ H N → Prop
  /-- The library is called, or a program takes a note. -/
  | scene (world : World σ H N) (scene : Scene σ N) (entries : List (Event N))
      (recorded : scene.events.toList = world.record ++ entries)
      (library : ∀ event ∈ entries, event.session? = none) :
      Step world { world with scene }
  /-- Handles are taken, put somewhere or dropped, or a program begins or ends. -/
  | handles (world later : World σ H N) (scene : later.scene = world.scene)
      (sessions : later.sessions = world.sessions) (growing : world.created ≤ later.created)
      (held : ∀ session, later.holds session = true →
        ∃ state, world.sessions[session]? = some state)
      (settled : ∀ session, later.desk.holds session = true → ¬ world.IsFresh session) :
      Step world later
  | change (world : World σ H N) (session : SessionId) (state next : Session H)
      (entries : List (Event N)) (scene : Scene σ N)
      (present : world.sessions[session]? = some state)
      (change : state.Change session world.record next entries)
      (recorded : scene.events.toList = world.record ++ entries) :
      Step world { world with sessions := world.sessions.insert session next, scene }
  | enrol (world : World σ H N) (session : SessionId)
      (absent : world.sessions[session]? = none) (below : session < world.created)
      (unknown : ∀ event ∈ world.record, event.session? ≠ some session) :
      Step world (world.enrol session)
  | takeDown (world : World σ H N) (session : SessionId) (state : Session H)
      (present : world.sessions[session]? = some state) (unheld : world.holds session = false) :
      Step world (world.takeDown session)

/-- The steps of a run, and how it may halt: the process ends with an exit that is due to the
evaluation that just failed. -/
def rules : Process.Rules (World σ H N) Halt where
  step := Step
  halt cause last world :=
    match cause with
    | .exited status => ∃ session state before script body view,
        world.sessions[session]? = some state ∧
        world.record = before ++ .evaluate session script :: body ∧
        Record.view? session body = some view ∧ view.nested = 0 ∧
        state.exitAt? state.depth = some status ∧ last = (·.terminate session 1)
    | _ => last = id

structure Sound (world : World σ H N) : Prop where
  sessions : ∀ (session : SessionId) (state : Session H), world.sessions[session]? = some state →
    state.Sound session world.record
  known : ∀ (session : SessionId) (state : Session H), world.sessions[session]? = some state →
    session < world.created
  recorded : ∀ event ∈ world.record, ∀ session, event.session? = some session →
    session < world.created
  held : ∀ session, world.holds session = true →
    ∃ state, world.sessions[session]? = some state
  settled : ∀ session, world.desk.holds session = true → ¬ world.IsFresh session
  undue : Record.Undue world.record
  ends : Record.EndsBegun world.record

def start (store : σ) (library : Library) : World σ H N :=
  { scene := { store }, library }

theorem sound_start (store : σ) (library : Library) : (start store library : World σ H N).Sound := by
  have nobody : ∀ session, (start store library : World σ H N).holds session = false := by
    intro session
    rfl
  refine ⟨?_, ?_, ?_, ?_, ?_, ?_, ?_⟩
  · simp [start]
  · simp [start]
  · simp [start, record]
  · simp [nobody]
  · simp [start, Desk.holds]
  · intro session before script body after view split
    simp [start, record] at split
  · intro session before after split
    simp [start, record] at split

theorem Sound.absent (sound : world.Sound) {session : SessionId}
    (absent : world.sessions[session]? = none) : world.holds session = false := by
  cases held : world.holds session with
  | false => rfl
  | true =>
      obtain ⟨state, present⟩ := sound.held session held
      simp [absent] at present

theorem record_push (world : World σ H N) (event : Event N) :
    (world.push event).record = world.record ++ [event] := by
  simp [push, record]

theorem Step.sound_scene (sound : world.Sound) {scene : Scene σ N} {entries : List (Event N)}
    (recorded : scene.events.toList = world.record ++ entries)
    (library : ∀ event ∈ entries, event.session? = none) :
    ({ world with scene } : World σ H N).Sound := by
  have elsewhere : ∀ session, ∀ event ∈ entries, event.session? ≠ some session :=
    fun session event member => by simp [library event member]
  have grown : ({ world with scene } : World σ H N).record = world.record ++ entries := recorded
  refine ⟨?_, sound.known, ?_, sound.held, sound.settled, ?_, ?_⟩
  · intro session state present
    rw [grown]
    exact (sound.sessions session state present).append (elsewhere session)
  · intro event member session about
    rw [grown, List.mem_append] at member
    rcases member with earlier | latest
    · exact sound.recorded event earlier session about
    · exact absurd about (elsewhere session event latest)
  · rw [grown]
    exact sound.undue.append fun session code member => elsewhere session _ member rfl
  · rw [grown]
    exact sound.ends.append fun session member => elsewhere session _ member rfl

theorem Step.sound_change (sound : world.Sound) {session : SessionId} {state next : Session H}
    {entries : List (Event N)} {scene : Scene σ N}
    (present : world.sessions[session]? = some state)
    (change : state.Change session world.record next entries)
    (recorded : scene.events.toList = world.record ++ entries) :
    ({ world with sessions := world.sessions.insert session next, scene } : World σ H N).Sound := by
  have grown : ({ world with sessions := world.sessions.insert session next, scene } :
      World σ H N).record = world.record ++ entries := recorded
  have known := sound.known session state present
  have agreed := sound.sessions session state present
  refine ⟨?_, ?_, ?_, ?_, ?_, ?_, ?_⟩
  · intro other found foundPresent
    rw [grown]
    simp only [Std.TreeMap.getElem?_insert, Nat.compare_eq_eq] at foundPresent
    split at foundPresent
    · rename_i same
      subst same
      cases foundPresent
      exact change.sound agreed
    · rename_i different
      refine (sound.sessions other found foundPresent).append fun event member about => ?_
      rw [change.about event member, Option.some.injEq] at about
      exact different about
  · intro other found foundPresent
    simp only [Std.TreeMap.getElem?_insert, Nat.compare_eq_eq] at foundPresent
    split at foundPresent
    · rename_i same
      exact same ▸ known
    · exact sound.known other found foundPresent
  · intro event member other about
    rw [grown, List.mem_append] at member
    rcases member with earlier | latest
    · exact sound.recorded event earlier other about
    · rw [change.about event latest, Option.some.injEq] at about
      exact about ▸ known
  · intro other held
    simp only [Std.TreeMap.getElem?_insert, Nat.compare_eq_eq]
    split
    · exact ⟨next, rfl⟩
    · exact sound.held other held
  · intro other held ⟨found, foundPresent, fresh⟩
    simp only [Std.TreeMap.getElem?_insert, Nat.compare_eq_eq] at foundPresent
    split at foundPresent
    · rename_i same
      subst same
      cases foundPresent
      exact sound.settled session held ⟨state, present, change.fresh agreed fresh⟩
    · exact sound.settled other held ⟨found, foundPresent, fresh⟩
  · rw [grown]
    exact change.undue agreed sound.undue
  · rw [grown]
    exact change.endsBegun agreed sound.ends

theorem keep_eq (world : World σ H N) (session : SessionId) :
    world.keep session = { world with frames := (world.keep session).frames } := by
  unfold keep
  split <;> rfl

theorem holds_keep {session other : SessionId} (held : (world.keep session).holds other = true) :
    world.holds other = true ∨ other = session := by
  unfold keep at held
  split at held
  · exact Or.inl held
  · rename_i frame rest frames
    simp only [holds, Frame.holds, frames, List.any_cons, Bool.or_eq_true, List.contains_cons,
      beq_iff_eq] at held ⊢
    grind

theorem sessions_enrol (world : World σ H N) (session other : SessionId) :
    (world.enrol session).sessions[other]? =
      if session = other then some {} else world.sessions[other]? := by
  rw [enrol, keep_eq]
  simp [Std.TreeMap.getElem?_insert]

theorem record_enrol (world : World σ H N) (session : SessionId) :
    (world.enrol session).record = world.record := by
  rw [enrol, keep_eq]
  rfl

theorem Step.sound_enrol (sound : world.Sound) {session : SessionId}
    (absent : world.sessions[session]? = none) (below : session < world.created)
    (unknown : ∀ event ∈ world.record, event.session? ≠ some session) :
    (world.enrol session).Sound := by
  have unheld := sound.absent absent
  have grown := record_enrol world session
  have created : (world.enrol session).created = world.created := by
    rw [World.enrol, keep_eq]
  have desk : (world.enrol session).desk = world.desk := by
    rw [World.enrol, keep_eq]
  refine ⟨?_, ?_, ?_, ?_, ?_, grown ▸ sound.undue, grown ▸ sound.ends⟩
  · intro other state present
    rw [sessions_enrol] at present
    rw [grown]
    split at present
    · rename_i same
      cases present
      exact same ▸ Session.sound_new unknown
    · exact sound.sessions other state present
  · intro other state present
    rw [sessions_enrol] at present
    rw [created]
    split at present
    · rename_i same
      exact same ▸ below
    · exact sound.known other state present
  · intro event member other about
    rw [grown] at member
    rw [created]
    exact sound.recorded event member other about
  · intro other held
    rw [sessions_enrol]
    split
    · exact ⟨{}, rfl⟩
    · rename_i different
      rcases holds_keep held with before | same
      · exact sound.held other before
      · exact absurd same.symm different
  · intro other held ⟨state, present, fresh⟩
    rw [desk] at held
    rw [sessions_enrol] at present
    split at present
    · rename_i same
      subst same
      have holds : world.holds session = true := by simp [World.holds, held]
      simp [unheld] at holds
    · exact sound.settled other held ⟨state, present, fresh⟩

theorem holds_takeDown (world : World σ H N) (session other : SessionId) :
    (world.takeDown session).holds other = world.holds other := by
  simp only [holds, takeDown, push]

theorem sessions_takeDown (world : World σ H N) (session other : SessionId) :
    (world.takeDown session).sessions[other]? =
      if session = other then none else world.sessions[other]? := by
  simp [takeDown, push, Std.TreeMap.getElem?_erase]

theorem record_takeDown (world : World σ H N) (session : SessionId) :
    (world.takeDown session).record = world.record ++ [.delete session] := by
  rw [takeDown, record_push]
  rfl

theorem Step.sound_takeDown (sound : world.Sound) {session : SessionId} {state : Session H}
    (present : world.sessions[session]? = some state) (unheld : world.holds session = false) :
    (world.takeDown session).Sound := by
  have known := sound.known session state present
  have remaining : ∀ other found, (world.takeDown session).sessions[other]? = some found →
      session ≠ other ∧ world.sessions[other]? = some found := by
    intro other found foundPresent
    rwa [sessions_takeDown, Option.ite_none_left_eq_some] at foundPresent
  have kept : ∀ other, world.holds other = true →
      (world.takeDown session).sessions[other]? = world.sessions[other]? := by
    intro other held
    have different : session ≠ other := fun same => by simp [← same, unheld] at held
    rw [sessions_takeDown, if_neg different]
  have grown := record_takeDown world session
  refine ⟨?_, ?_, ?_, ?_, ?_, ?_, ?_⟩
  · intro other found foundPresent
    obtain ⟨different, before⟩ := remaining other found foundPresent
    rw [grown]
    exact (sound.sessions other found before).append (by simp [Event.session?, different])
  · intro other found foundPresent
    exact sound.known other found (remaining other found foundPresent).2
  · intro event member other about
    rw [grown, List.mem_append, List.mem_singleton] at member
    rcases member with earlier | rfl
    · exact sound.recorded event earlier other about
    · cases about
      exact known
  · intro other held
    rw [holds_takeDown] at held
    rw [kept other held]
    exact sound.held other held
  · rintro other held ⟨found, foundPresent, fresh⟩
    exact sound.settled other held ⟨found, (remaining other found foundPresent).2, fresh⟩
  · rw [grown]
    exact sound.undue.append (by simp)
  · rw [grown]
    exact sound.ends.append (by simp)

theorem Step.sound (step : Step world later) (sound : world.Sound) : later.Sound := by
  cases step with
  | scene scene entries recorded library => exact sound_scene sound recorded library
  | change session state next entries scene present change recorded =>
      exact sound_change sound present change recorded
  | enrol session absent below unknown => exact sound_enrol sound absent below unknown
  | takeDown session state present unheld => exact sound_takeDown sound present unheld
  | handles _ scene sessions growing held settled =>
      have same : later.record = world.record := by simp [record, scene]
      refine ⟨?_, ?_, ?_, ?_, ?_, ?_, ?_⟩
      · simpa [same, sessions] using sound.sessions
      · intro session state present
        exact Nat.lt_of_lt_of_le (sound.known session state (sessions ▸ present)) growing
      · intro event member session about
        exact Nat.lt_of_lt_of_le (sound.recorded event (same ▸ member) session about) growing
      · simpa [sessions] using held
      · simpa [sessions, IsFresh] using settled
      · exact same ▸ sound.undue
      · exact same ▸ sound.ends

theorem Step.grown (step : Step world later) :
    ∃ entries, later.record = world.record ++ entries ∧ ∀ session,
      .makeSafe session ∈ entries → .restricted session 0 ∉ entries := by
  cases step with
  | scene scene entries recorded library =>
      refine ⟨entries, recorded, fun session _ member => ?_⟩
      cases library _ member
  | handles _ scene =>
      exact ⟨[], by rw [record, scene, List.append_nil, record], by simp⟩
  | change session state next entries scene present change recorded =>
      refine ⟨entries, recorded, fun other member => ?_⟩
      cases change.about _ member
  | enrol session => exact ⟨[], (record_enrol world session).trans (by simp), by simp⟩
  | takeDown session => exact ⟨_, record_takeDown world session, by simp⟩

end World

end TclHost
