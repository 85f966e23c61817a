import Mathlib.Control.Monad.Basic
import TclHost.Host.Script
import TclHost.Proofs.Exit.Invariant
import TclHost.Proofs.Run.Lasting
import TclHost.Proofs.Run.Request

/-!
An exit that a handler asks for while its session evaluates nothing. Evaluations are counted from
one, and each drops only what was asked for at its own depth or deeper. So nothing drops this exit,
and nothing acts on it either: the session is exiting for good, unless another exit is asked for.
-/

namespace TclHost

variable {σ H N α : Type}

def Event.AsksNoExit (session : SessionId) (event : Event N) : Prop :=
  ∀ status, event ≠ .answered session (.error (.exit status))

theorem Outcome.exitStatus?_eq_some_iff (outcome : Outcome) (status : Int) :
    outcome.exitStatus? = some status ↔ outcome = .error (.exit status) := by
  rcases outcome with _ | cause | _
  · simp [Outcome.exitStatus?]
  · cases cause <;> simp [Outcome.exitStatus?]
  · simp [Outcome.exitStatus?]

namespace Session

def Stranded (status : Int) (state : Session H) : Prop :=
  state.pending = some ⟨status, 0⟩ ∧ state.stage = .exiting

theorem Stranded.exitAt?_eq_none {status : Int} {state : Session H}
    (stranded : state.Stranded status) {depth : Nat} (counted : 0 < depth) :
    state.exitAt? depth = none := by
  refine (exitAt?_eq_none_iff state depth).mpr fun exit pending => ?_
  cases stranded.1.symm.trans pending
  exact counted

theorem keeps_stranded (session : SessionId) (status : Int) :
    Keeps session (Event.AsksNoExit (N := N) session) (Stranded (H := H) status) := by
  intro record entries state next change settled unasked stranded
  cases change with
  | answer outcome =>
      have none : outcome.exitStatus? = none := by
        refine Option.eq_none_iff_forall_ne_some.mpr fun asked same => ?_
        rw [outcome.exitStatus?_eq_some_iff] at same
        exact unasked _ (List.mem_singleton_self _) asked (congrArg _ same)
      rw [answer, none]
      exact stranded
  | complete code unasked running =>
      have kept : state.settle state.depth (Completion.ofCode code) = state := by
        rcases settle_eq_or state state.depth (Completion.ofCode code) with
          same | ⟨⟨exit, pending, inside⟩, _⟩
        · exact same
        · -- An evaluation under way is deeper than this exit.
          cases stranded.1.symm.trans pending
          exact absurd inside (Nat.not_le.mpr running)
      rw [kept]
      exact stranded
  | ready fresh => exact absurd fresh settled
  | begin | leave | restrict | snapshot | commands => exact stranded

end Session

namespace World

variable {world later : World σ H N} {session : SessionId} {state : Session H} {status : Int}
  {entries : List (Event N)}

/-- However many evaluations come and go, with whatever codes, an exit that was asked for outside of
them all stays pending, and is due in none of them. -/
theorem exit_outside_stays (sound : world.Sound) (present : world.sessions[session]? = some state)
    (outside : state.pending = some ⟨status, 0⟩) (reached : rules.Reaches world later)
    (grown : later.record = world.record ++ entries)
    (unasked : ∀ other, .answered session (.error (.exit other)) ∉ entries) :
    ∀ now, later.sessions[session]? = some now →
      (now.pending = some ⟨status, 0⟩ ∧ now.stage = .exiting) ∧
        ∀ depth > 0, now.exitAt? depth = none := by
  have exiting : state.stage = .exiting :=
    (sound.sessions session state present).exiting_iff.mpr (by rw [outside]; rfl)
  have lasts := sound.lasts present (by rw [exiting]; nofun)
    (show state.Stranded status from ⟨outside, exiting⟩)
  have granted : ∀ event ∈ entries, event.AsksNoExit session := by
    rintro event member other rfl
    exact unasked other member
  intro now found
  have stranded := (lasts.reaches (Session.keeps_stranded session status) sound reached grown
    granted).found now found
  exact ⟨stranded, fun _ => stranded.exitAt?_eq_none⟩

end World

namespace Sample

def tracing : Setup Nat Unit Empty :=
  { setup false with
    engine := { engine false with
      evaluate := fun _ _ store => .finished 0 store
      makeSafe := fun interp store =>
        .callback interp [⟨0⟩, ⟨1⟩] store fun _ store => .finished 0 store } }

def restricting : Host Unit Empty Unit := do
  match ← Host.openSession {} with
  | .error _ => return
  | .ok session =>
      Host.setReceiver session (some ())
      discard (Program.question (.makeSafe session))

def restricted : World Nat Unit Empty :=
  Process.finalState ((Host.run tracing 1 restricting).exec (World.start 0 library))

theorem restricted_stands : restricted.Sound ∧ World.Standing none [] restricted := by
  have ran : Process.result? ((Host.run tracing 1 restricting).exec (World.start 0 library)) =
      some () := by decide +kernel
  exact Host.stands_finally (Process.result?_eq_some_iff.mp ran)

def evaluated : EStateM.Result Halt (World Nat Unit Empty) (Except Error String) :=
  (Host.run tracing 1 (Host.eval 0 "").run).exec restricted

/-- A script that runs from end to end does not drop the exit, so the session stays as it is. -/
theorem still_exiting : ∃ final now, evaluated = .ok (.ok "") final ∧
    final.sessions[0]? = some now ∧ now.depth = 0 ∧
      (now.pending = some ⟨3, 0⟩ ∧ now.stage = .exiting) ∧
        ∀ depth > 0, now.exitAt? depth = none := by
  obtain ⟨sound, standing⟩ := restricted_stands
  have asked : restricted.sessions[0]?.map (·.pending) = some (some ⟨3, 0⟩) := by decide +kernel
  obtain ⟨state, present, outside⟩ := Option.map_eq_some_iff.mp asked
  have answered : Process.result? evaluated = some (.ok "") := by decide +kernel
  obtain ⟨final, returned⟩ := Process.result?_eq_some_iff.mp answered
  have grown : (Process.finalState evaluated).record =
      restricted.record ++ [.evaluate 0 [], .completed 0 0, .result none, .returned 0] := by
    decide +kernel
  have idle : (Process.finalState evaluated).sessions[0]?.map (·.depth) = some 0 := by
    decide +kernel
  rw [returned] at grown idle
  obtain ⟨now, found, level⟩ := Option.map_eq_some_iff.mp idle
  obtain ⟨_, reached⟩ := (Run.obeys_program (Run.answers_dispatch tracing 1) tracing
    (Host.eval 0 "" : Attempt Unit Empty String).run sound standing).exec_ok returned
  exact ⟨final, now, returned, found, level,
    World.exit_outside_stays sound present outside reached grown (by simp) now found⟩

end Sample

end TclHost
