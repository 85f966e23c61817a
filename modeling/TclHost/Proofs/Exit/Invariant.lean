import TclHost.Proofs.Run.Orderly

/-!
Depth, pending exit and stage of a session at every moment of a run. The library is trusted to run
a session's command only while it evaluates a script there, or when it deletes the interpreter.
-/

namespace TclHost

variable {σ H N α : Type}

def Event.caller? : Event N → Option SessionId
  | .called session => some session
  | _ => none

namespace Record

theorem callsInside_iff (record : List (Event N)) :
    CallsInside record ↔ ∀ position < record.length,
      ∀ session ∈ record[position]?.bind Event.caller?,
        ended session (record.take position) < begun session (record.take position) ∨
          .delete session ∈ record.take position := by
  constructor
  · intro inside position bound session called
    simp only [List.getElem?_eq_getElem bound, Option.bind_some, Option.mem_def] at called
    have event : record[position] = .called session := by
      cases found : record[position] <;> simp_all [Event.caller?]
    refine inside _ session (record.drop (position + 1)) ?_
    rw [← event, List.getElem_cons_drop, List.take_append_drop]
  · intro checked before session after split
    have here := checked before.length (by simp [split]) session (by simp [split, Event.caller?])
    simpa [split] using here

instance [DecidableEq N] (record : List (Event N)) : Decidable (CallsInside record) :=
  decidable_of_iff _ (callsInside_iff record).symm

end Record

structure Session.Consistent (session : SessionId) (record : List (Event N))
    (state : Session H) : Prop where
  /-- The depth is the number of evaluations under way. -/
  depth : Record.begun session record = state.depth + Record.ended session record
  under_way : ∀ before after, record = before ++ .returned session :: after →
    Record.ended session before < Record.begun session before
  pending : ∀ exit, state.pending = some exit → 1 ≤ exit.depth ∧ exit.depth ≤ state.depth
  exiting : state.stage = .exiting ↔ state.pending.isSome
  ready : .ready session ∈ record →
    state.stage = if state.pending.isSome then .exiting else .ready
  /-- An evaluation has just returned that was entered at some depth. -/
  returned : ∀ before script body entered,
    record = before ++ .evaluate session script :: (body ++ [.returned session]) →
      Record.levelInside session body = some 0 →
        Record.begun session before = entered + Record.ended session before →
          state.depth = entered ∧ ∀ exit, state.pending = some exit → exit.depth < entered + 1
  idle : state.depth = 0 →
    state.pending = none ∧ (.ready session ∈ record → state.stage = .ready)

theorem Session.Sound.consistent {session : SessionId} {record : List (Event N)}
    {state : Session H} (sound : state.Sound session record) (ends : Record.EndsBegun record)
    (inside : Record.CallsInside record) : state.Consistent session record := by
  have bounds : ∀ exit, state.pending = some exit → 1 ≤ exit.depth ∧ exit.depth ≤ state.depth :=
    fun exit pending => ⟨sound.inside inside exit pending, sound.within exit pending⟩
  have ready : .ready session ∈ record →
      state.stage = if state.pending.isSome then .exiting else .ready := by
    intro member
    have aged : state.stage ≠ .fresh := fun fresh => sound.fresh_iff.mp fresh member
    have exiting := sound.exiting_iff
    cases stage : state.stage <;> simp_all
  refine ⟨sound.counted, ends session, bounds, sound.exiting_iff, ready, ?_, ?_⟩
  · intro before script body entered split level entering
    have counted := sound.counted
    have balanced := Record.begun_eq_of_levelInside level
    have began : Record.begun session record =
        Record.begun session before + 1 + Record.begun session body := by
      simp [split, Record.begun, Event.begins, List.countP_append]
      omega
    have left : Record.ended session record =
        Record.ended session before + Record.ended session body + 1 := by
      simp [split, Record.ended, Event.ends, List.countP_append]
      omega
    have depth : state.depth = entered := by omega
    refine ⟨depth, fun exit pending => ?_⟩
    have bound := (bounds exit pending).2
    omega
  · intro innermost
    have nothing : state.pending = none := by
      cases pending : state.pending with
      | none => rfl
      | some exit =>
          have bound := bounds exit pending
          omega
    exact ⟨nothing, fun member => by simpa [nothing] using ready member⟩

/-- At every moment of a run, however deep handlers re-enter the session and however they end. -/
theorem Host.consistent_after (setup : Setup σ H N) (fuel : Nat) (program : Host H N α)
    (store : σ) (library : Library) (count : Nat) {session : SessionId} {state : Session H}
    (present : ((Host.run setup fuel program).after count
      (World.start store library)).sessions[session]? = some state)
    (inside : Record.CallsInside ((Host.run setup fuel program).after count
      (World.start store library)).record) :
    state.Consistent session ((Host.run setup fuel program).after count
      (World.start store library)).record := by
  have sound := Host.sound_after setup fuel program store library count
  exact (sound.sessions session state present).consistent sound.ends inside

/-! A program whose handlers ask for exits. -/

namespace Sample

/-- The store counts the scripts. The first two only prepare the session. The next one calls the
host, once more with a further word if `again`, and fails. Scripts inside that one call the host
and succeed. -/
def engine (again : Bool) : Engine Nat where
  create _ store := (true, store)
  init _ store := (0, store)
  preserve _ store := store
  release _ store := store
  createCommand _ _ store := store
  evaluate interp _ store :=
    match store with
    | 0 | 1 => .finished 0 (store + 1)
    | 2 => .callback interp [⟨0⟩, ⟨1⟩] 3 fun _ store =>
        if again then
          .callback interp [⟨0⟩, ⟨1⟩, ⟨2⟩] store fun _ store => .finished 1 store
        else .finished 1 store
    | _ => .callback interp [⟨0⟩, ⟨1⟩, ⟨2⟩, ⟨3⟩] store fun _ store => .finished 0 store
  makeSafe _ store := .finished 0 store
  delete _ store := .finished 0 store
  newObj store := (none, store)
  newString _ store := (⟨0⟩, store)
  increment _ store := store
  decrement _ store := store
  append _ _ _ store := (0, store)
  elements _ _ store := (some ⟨0, []⟩, store)
  bytes _ store := ([], store)
  result _ store := (none, store)
  setResult _ _ store := store

/-- With one argument the handler asks for an exit, with two it evaluates a script, and with more
it asks for another exit. -/
def setup (again : Bool) : Setup Nat Unit Empty where
  engine := engine again
  behave _ session
    | [_] => return .error (.exit 3)
    | [_, _] => do
        discard (Program.question (.evaluate session ""))
        return .value ""
    | _ => return .error (.exit 5)
  libraries _ := .complete
  environment _ := none
  files _ := .ok []

def program : Host Unit Empty Unit := do
  match ← Host.openSession {} with
  | .error _ => return
  | .ok session =>
      Host.setReceiver session (some ())
      discard (Program.question (.evaluate session ""))

def library : Library where
  outcome := some (.ok "")

def after (again : Bool) (count : Nat) : World Nat Unit Empty :=
  (Host.run (setup again) 3 program).after count (World.start 0 library)

/-- Right after the exit that is asked for inside the inner one of two evaluations. -/
theorem consistent_nested :
    ∃ state, (after true 66).sessions[0]? = some state ∧ state.depth = 2 ∧
      state.pending = some ⟨5, 2⟩ ∧ Record.CallsInside (after true 66).record ∧
      state.Consistent 0 (after true 66).record := by
  have inside : Record.CallsInside (after true 66).record := by decide +kernel
  exact ⟨_, rfl, rfl, rfl, inside,
    Host.consistent_after (setup true) 3 program 0 library 66 rfl inside⟩

end Sample

end TclHost
