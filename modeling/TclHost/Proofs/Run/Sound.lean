import TclHost.Proofs.Run.Record

/-!
What may happen to a session, and what the session has in common with the record at all times: its
depth is the number of evaluations under way, and the pending exit is the latest one that was asked
for, as long as the evaluation it was asked for in goes on.
-/

namespace TclHost

variable {H N : Type}

namespace Record

@[simp] theorem View.due?_request (view : View) (status : Int) :
    (view.request status).due? = if view.nested = 0 then some status else none := by
  by_cases innermost : view.nested = 0 <;> simp [View.request, View.due?, innermost]

@[simp] theorem View.nested_request (view : View) (status : Int) :
    (view.request status).nested = view.nested := by
  by_cases innermost : view.nested = 0 <;> simp [View.request, innermost]

/-- An evaluation under way was so before the latest event, unless it begins with that. -/
theorem exists_view_before {session : SessionId} {record before body : List (Event N)}
    {script : List UInt8} {last : Event N} {view : View}
    (other : ∀ script, last ≠ .evaluate session script)
    (same : record ++ [last] = before ++ .evaluate session script :: body)
    (seen : view? session body = some view) :
    ∃ inner earlier, record = before ++ .evaluate session script :: inner ∧
      view? session inner = some earlier ∧ View.next session earlier last = some view := by
  obtain ⟨inner, rfl, split⟩ := split_of_not_mem (by simpa using (other script).symm) same
  rw [view?_append_singleton, Option.bind_eq_some_iff] at seen
  obtain ⟨earlier, before, stepped⟩ := seen
  exact ⟨inner, earlier, split, before, stepped⟩

end Record

namespace Session

/-- What may happen to a session in one step, and what is recorded of it. -/
inductive Change (session : SessionId) (record : List (Event N)) :
    Session H → Session H → List (Event N) → Prop
  | begin (state : Session H) (script : List UInt8) :
      Change session record state state.enter [.evaluate session script]
  /-- The command was called when the session was as deep as it is now. -/
  | answer (state : Session H) (outcome : Outcome) (before after : List (Event N))
      (settled : state.stage = .fresh → outcome.exitStatus? = none)
      (arrived : record = before ++ .called session :: after)
      (level : Record.begun session before = state.depth + Record.ended session before) :
      Change session record state (state.answer outcome) [.answered session outcome]
  | complete (state : Session H) (code : Int)
      (unasked : state.exitStatus? state.depth (Completion.ofCode code) = none)
      (running : 0 < state.depth) :
      Change session record state (state.settle state.depth (Completion.ofCode code))
        [.completed session code]
  | leave (state : Session H) (running : 0 < state.depth)
      (dropped : state.exitAt? state.depth = none) :
      Change session record state state.leave [.returned session]
  | ready (state : Session H) (fresh : state.stage = .fresh) :
      Change session record state { state with stage := .ready } [.ready session]
  | restrict (state : Session H) (code : Int) :
      Change session record state { state with safe := state.safe || code = 0 }
        [.restricted session code]
  | snapshot (state : Session H) (builtins : Builtins) (fresh : state.stage = .fresh) :
      Change session record state { state with builtins := some builtins } []
  | commands (state : Session H) (table : CommandTable H) (settled : state.stage ≠ .fresh) :
      Change session record state { state with commands := table } []

structure Sound (session : SessionId) (record : List (Event N)) (state : Session H) : Prop where
  counted : Record.begun session record = state.depth + Record.ended session record
  within : ∀ exit, state.pending = some exit → exit.depth ≤ state.depth
  inside : Record.CallsInside record → ∀ exit, state.pending = some exit → 0 < exit.depth
  fresh_iff : state.stage = .fresh ↔ .ready session ∉ record
  exiting_iff : state.stage = .exiting ↔ state.pending.isSome
  unused : state.stage = .fresh → state.commands = {}
  alive : .delete session ∉ record
  under_way : ∀ before script body view, record = before ++ .evaluate session script :: body →
    Record.view? session body = some view →
      view.nested < state.depth ∧ ∀ status,
        state.pending = some ⟨status, state.depth - view.nested⟩ ↔ view.due? = some status

theorem settle_eq_or (state : Session H) (depth : Nat) (completion : Completion) :
    state.settle depth completion = state ∨
      (∃ exit, state.pending = some exit ∧ depth ≤ exit.depth) ∧
        state.settle depth completion = { state with pending := none, stage := .ready } := by
  cases completion with
  | error => exact Or.inl rfl
  | success | other code =>
      simp only [settle, dropExit, exitAt?]
      cases state.pending with
      | none => exact Or.inl rfl
      | some exit =>
          by_cases inside : depth ≤ exit.depth
          · exact Or.inr ⟨⟨exit, rfl, inside⟩, by simp [inside]⟩
          · exact Or.inl (by simp [inside])

@[simp] theorem depth_answer (state : Session H) (outcome : Outcome) :
    (state.answer outcome).depth = state.depth := by
  unfold answer
  split <;> rfl

@[simp] theorem depth_settle (state : Session H) (depth : Nat) (completion : Completion) :
    (state.settle depth completion).depth = state.depth := by
  rcases settle_eq_or state depth completion with same | ⟨_, same⟩ <;> simp [same]

theorem commands_answer (outcome : Outcome) (state : Session H) :
    (state.answer outcome).commands = state.commands := by
  unfold answer
  split <;> rfl

theorem commands_settle (depth : Nat) (completion : Completion) (state : Session H) :
    (state.settle depth completion).commands = state.commands := by
  rcases settle_eq_or state depth completion with same | ⟨_, same⟩ <;> rw [same]

theorem exitAt?_eq_none_iff (state : Session H) (depth : Nat) :
    state.exitAt? depth = none ↔ ∀ exit, state.pending = some exit → exit.depth < depth := by
  unfold exitAt?
  cases state.pending with
  | none => simp
  | some exit =>
      by_cases inside : depth ≤ exit.depth
      · simp [inside]
      · simp [inside]
        omega

variable {session : SessionId} {record entries : List (Event N)} {state next : Session H}

theorem Sound.pending_eq_none (sound : state.Sound session record) (fresh : state.stage = .fresh) :
    state.pending = none := by
  have idle := sound.exiting_iff
  cases pending : state.pending with
  | none => rfl
  | some exit => simp [fresh, pending] at idle

theorem Change.counted (change : Change session record state next entries)
    (sound : state.Sound session record) :
    Record.begun session (record ++ entries) =
      next.depth + Record.ended session (record ++ entries) := by
  have counted := sound.counted
  rw [Record.begun_append, Record.ended_append]
  cases change with
  | begin script =>
      simp [Record.begun, Record.ended, Event.begins, Event.ends, Session.enter] at counted ⊢
      omega
  | leave running dropped =>
      simp [Record.begun, Record.ended, Event.begins, Event.ends, Session.leave] at counted ⊢
      omega
  | _ => simpa [Record.begun, Record.ended, Event.begins, Event.ends] using counted

theorem Change.within (change : Change session record state next entries)
    (sound : state.Sound session record) :
    ∀ exit, next.pending = some exit → exit.depth ≤ next.depth := by
  intro exit pending
  have within := sound.within exit
  cases change with
  | begin script => exact Nat.le_succ_of_le (within pending)
  | answer outcome =>
      rw [depth_answer]
      unfold Session.answer at pending
      split at pending
      · cases pending
        exact Nat.le_refl _
      · exact within pending
  | complete code =>
      rw [depth_settle]
      rcases settle_eq_or state state.depth (Completion.ofCode code) with same | ⟨_, same⟩
      · exact within (same ▸ pending)
      · simp [same] at pending
  | leave running dropped =>
      have inside := (exitAt?_eq_none_iff state state.depth).mp dropped exit pending
      exact Nat.le_sub_one_of_lt inside
  | _ => exact within pending

/-- An exit is asked for in an evaluation, because the command was called in one. -/
theorem Change.inside (change : Change session record state next entries)
    (sound : state.Sound session record) (inside : Record.CallsInside (record ++ entries)) :
    ∀ exit, next.pending = some exit → 0 < exit.depth := by
  intro exit pending
  have before := sound.inside inside.of_append exit
  cases change with
  | answer outcome earlier later settled arrived level =>
      unfold Session.answer at pending
      split at pending
      · cases pending
        rcases inside earlier session (later ++ _) (by simp [arrived]; rfl) with running | deleted
        · simp only
          omega
        · exact absurd (arrived ▸ List.mem_append_left _ deleted) sound.alive
      · exact before pending
  | complete code =>
      rcases settle_eq_or state state.depth (Completion.ofCode code) with same | ⟨_, same⟩
      · exact before (same ▸ pending)
      · simp [same] at pending
  | _ => exact before pending

theorem Change.stage (change : Change session record state next entries)
    (sound : state.Sound session record) :
    (next.stage = .fresh ↔ .ready session ∉ record ++ entries) ∧
      (next.stage = .exiting ↔ next.pending.isSome) ∧
      (next.stage = .fresh → next.commands = {}) := by
  have fresh := sound.fresh_iff
  have exiting := sound.exiting_iff
  have unused := sound.unused
  cases change with
  | answer outcome before after settled =>
      unfold Session.answer
      split
      · rename_i status asked
        have known : state.stage ≠ .fresh := fun isFresh => by simp [settled isFresh] at asked
        simp_all [Session.requestExit]
      · simp_all
  | complete code =>
      rcases settle_eq_or state state.depth (Completion.ofCode code) with
        same | ⟨⟨exit, pending, _⟩, same⟩
      · simp_all
      · have known : state.stage ≠ .fresh := fun isFresh => by simp_all
        simp_all
  | ready isFresh =>
      have idle := sound.pending_eq_none isFresh
      simp [idle]
  | _ => simp_all [Session.enter, Session.leave]

/-- What is due to an evaluation under way changes only with an exit that is asked for. A request
is pending at the depth of the evaluation that was the innermost one then, so one that ends later
and deeper takes nothing away from the evaluations around it that they were still due. -/
theorem Change.under_way (change : Change session record state next entries)
    (sound : state.Sound session record) (before : List (Event N)) (script : List UInt8)
    (body : List (Event N)) (view : Record.View)
    (split : record ++ entries = before ++ .evaluate session script :: body)
    (seen : Record.view? session body = some view) :
    view.nested < next.depth ∧ ∀ status,
      next.pending = some ⟨status, next.depth - view.nested⟩ ↔ view.due? = some status := by
  cases change with
  | begin latest =>
      rcases Record.split_last split with ⟨rfl, _, _⟩ | ⟨inner, rfl, earlier⟩
      · cases seen
        refine ⟨Nat.succ_pos _, fun status => ?_⟩
        -- This is the evaluation that begins, and what is pending was asked for around it.
        have nothing : state.pending ≠ some ⟨status, state.depth + 1⟩ := fun pending => by
          have bound := sound.within _ pending
          simp only at bound
          omega
        simpa [Session.enter, Record.View.due?] using nothing
      · rw [Record.view?_append_singleton, Option.bind_eq_some_iff] at seen
        obtain ⟨outer, seen, stepped⟩ := seen
        obtain ⟨running, due⟩ := sound.under_way before script inner outer earlier seen
        simp only [Record.View.next, if_true, Option.some.injEq] at stepped
        subst stepped
        refine ⟨Nat.succ_lt_succ running, fun status => ?_⟩
        simpa [Session.enter, Record.View.due?] using due status
  | answer outcome _ _ settled =>
      obtain ⟨inner, earlier, known, seen, stepped⟩ :=
        Record.exists_view_before (by simp) split seen
      obtain ⟨running, due⟩ := sound.under_way before script inner earlier known seen
      simp only [Record.View.next, if_true, Option.some.injEq] at stepped
      rw [depth_answer]
      cases asked : outcome.exitStatus? with
      | none =>
          simp only [asked, Option.map_none, Option.getD_none] at stepped
          subst stepped
          exact ⟨running, fun status => by simpa [Session.answer, asked] using due status⟩
      | some latest =>
          simp only [asked, Option.map_some, Option.getD_some] at stepped
          subst stepped
          refine ⟨by simpa using running, fun status => ?_⟩
          have level : state.depth = state.depth - earlier.nested ↔ earlier.nested = 0 := by omega
          by_cases innermost : earlier.nested = 0 <;>
            simp [Session.answer, asked, Session.requestExit, innermost, level]
  | complete code unasked =>
      obtain ⟨inner, earlier, known, seen, stepped⟩ :=
        Record.exists_view_before (by simp) split seen
      obtain ⟨running, due⟩ := sound.under_way before script inner earlier known seen
      simp only [Record.View.next, true_and, Option.ite_none_left_eq_some, Option.some.injEq]
        at stepped
      obtain ⟨deeper, rfl⟩ := stepped
      rw [depth_settle]
      refine ⟨running, fun status => ?_⟩
      rcases settle_eq_or state state.depth (Completion.ofCode code) with
        same | ⟨⟨exit, pending, level⟩, same⟩
      · simpa [same] using due status
      · -- The exit that is dropped was asked for inside the evaluation, not by its own handlers.
        have elsewhere : state.pending ≠ some ⟨status, state.depth - earlier.nested⟩ := by
          rw [pending]
          intro equal
          cases equal
          simp only at level
          omega
        simpa [same] using fun asked => elsewhere ((due status).mpr asked)
  | leave _ dropped =>
      obtain ⟨inner, earlier, known, seen, stepped⟩ :=
        Record.exists_view_before (by simp) split seen
      obtain ⟨running, due⟩ := sound.under_way before script inner earlier known seen
      simp only [Record.View.next, if_true, Option.ite_none_left_eq_some, Option.some.injEq]
        at stepped
      obtain ⟨deeper, rfl⟩ := stepped
      refine ⟨by simp only [Session.leave]; omega, fun status => ?_⟩
      have level : state.depth - 1 - (earlier.nested - 1) = state.depth - earlier.nested := by omega
      simpa [Session.leave, Record.View.due?, level] using due status
  | ready _ | restrict code =>
      obtain ⟨inner, earlier, known, seen, stepped⟩ :=
        Record.exists_view_before (by simp) split seen
      cases stepped
      exact sound.under_way before script inner _ known seen
  | snapshot | commands =>
      exact sound.under_way before script body view (by simpa using split) seen

theorem Change.sound (change : Change session record state next entries)
    (sound : state.Sound session record) : next.Sound session (record ++ entries) := by
  obtain ⟨fresh, exiting, unused⟩ := change.stage sound
  refine ⟨change.counted sound, change.within sound, change.inside sound, fresh, exiting, unused,
    ?_, change.under_way sound⟩
  rw [List.mem_append, not_or]
  refine ⟨sound.alive, ?_⟩
  cases change <;> simp

theorem Sound.append (sound : state.Sound session record)
    (elsewhere : ∀ event ∈ entries, event.session? ≠ some session) :
    state.Sound session (record ++ entries) := by
  have absent : ∀ event : Event N, event.session? = some session → event ∉ entries :=
    fun event about member => elsewhere event member about
  refine ⟨?_, sound.within, fun inside => sound.inside inside.of_append, ?_, sound.exiting_iff,
    sound.unused, ?_, ?_⟩
  · simpa [Record.begun_eq_zero elsewhere, Record.ended_eq_zero elsewhere] using sound.counted
  · simpa [absent (.ready session) rfl] using sound.fresh_iff
  · simpa [absent (.delete session) rfl] using sound.alive
  · intro before script body view split seen
    obtain ⟨inner, rfl, earlier⟩ := Record.split_of_not_mem (absent _ rfl) split
    rw [Record.view?_append elsewhere] at seen
    exact sound.under_way before script inner view earlier seen

theorem sound_new (unknown : ∀ event ∈ record, event.session? ≠ some session) :
    ({} : Session H).Sound session record := by
  refine ⟨?_, by simp, by simp, ?_, by simp, fun _ => rfl, ?_, ?_⟩
  · simp [Record.begun_eq_zero unknown, Record.ended_eq_zero unknown]
  · exact iff_of_true rfl fun member => unknown _ member rfl
  · exact fun member => unknown _ member rfl
  · intro before script body view split
    exact absurd rfl (unknown (.evaluate session script) (by simp [split]))

end Session

end TclHost
