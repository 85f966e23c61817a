import TclHost.Proofs.Exit.Invariant

/-!
When the process ends. It ends after an evaluation that failed, with the exit that was asked for
last while that evaluation was the innermost one of its session, and only if no evaluation inside
it asked for another exit after that.
-/

namespace TclHost

variable {σ H N α : Type}

theorem Session.Sound.due_eq_exitAt? {session : SessionId} {record before body : List (Event N)}
    {state : Session H} {script : List UInt8} {view : Record.View}
    (sound : state.Sound session record)
    (split : record = before ++ .evaluate session script :: body)
    (seen : Record.view? session body = some view) (innermost : view.nested = 0) (status : Int) :
    state.exitAt? state.depth = some status ↔ view.due? = some status := by
  obtain ⟨_, due⟩ := sound.under_way before script body view split seen
  have pending := due status
  rw [innermost, Nat.sub_zero] at pending
  refine Iff.trans ?_ pending
  constructor
  · intro asked
    cases latest : state.pending with
    | none => simp [exitAt?, latest] at asked
    | some exit =>
        have within := sound.within exit latest
        simp only [exitAt?, latest, Option.ite_none_right_eq_some, Option.some.injEq] at asked
        have depth : exit.depth = state.depth := by omega
        rw [← depth, ← asked.2]
  · intro latest
    simp [exitAt?, latest]

variable {setup : Setup σ H N} {fuel : Nat} {program : Host H N α} {store : σ} {library : Library}
  {final : World σ H N} {status : Int}

namespace Host

theorem ended_by_evaluation
    (ended : (Host.run setup fuel program).exec (World.start store library) =
      .error (.exited status) final) :
    ∃ (last : World σ H N) (session : SessionId) (state : Session H) (before : List (Event N))
        (script : List UInt8) (body : List (Event N)) (view : Record.View), last.Sound ∧
      last.sessions[session]? = some state ∧
      last.record = before ++ .evaluate session script :: body ∧
      Record.view? session body = some view ∧ view.nested = 0 ∧
      state.exitAt? state.depth = some status ∧
      final.record = last.record ++ [.completed session 1] := by
  obtain ⟨last, change, reached, halted, same⟩ :=
    (obeys_run setup fuel program store library).exec_error ended
  have sound : last.Sound :=
    reached.preserved (fun _ _ step => step.sound) (World.sound_start store library)
  obtain ⟨session, state, before, script, body, view, present, split, seen, innermost, due, rfl⟩ :=
    halted
  subst same
  exact ⟨last, session, state, before, script, body, view, sound, present, split, seen, innermost,
    due, World.record_noted last session _ _⟩

/-- The process ends only with what its own handlers asked for last in the evaluation that just
failed. -/
theorem exited_with_own_exit
    (ended : (Host.run setup fuel program).exec (World.start store library) =
      .error (.exited status) final) :
    ∃ session before script body view,
      final.record = before ++ .evaluate session script :: (body ++ [.completed session 1]) ∧
        Record.view? session body = some view ∧ view.nested = 0 ∧
          view.own.getLast? = some status ∧ view.overtaken = false := by
  obtain ⟨last, session, state, before, script, body, view, sound, present, split, seen,
    innermost, asked, recorded⟩ := ended_by_evaluation ended
  have agreed := sound.sessions session state present
  have due := (agreed.due_eq_exitAt? split seen innermost status).mp asked
  obtain ⟨own, latest⟩ := (view.due?_eq_some_iff status).mp due
  refine ⟨session, before, script, body, view, ?_, seen, innermost, own, latest⟩
  rw [recorded, split]
  simp

end Host

theorem Sample.exited_with_three :
    ∃ final, (Host.run (Sample.setup false) 3 Sample.program).exec
        (World.start 0 Sample.library) = .error (.exited 3) final ∧
      ∃ session before script body view,
        final.record = before ++ .evaluate session script :: (body ++ [.completed session 1]) ∧
          Record.view? session body = some view ∧ view.nested = 0 ∧
            view.own.getLast? = some 3 ∧ view.overtaken = false := by
  have halts : Process.cause? ((Host.run (Sample.setup false) 3 Sample.program).exec
      (World.start 0 Sample.library)) = some (.exited 3) := by decide +kernel
  obtain ⟨final, ended⟩ := Process.cause?_eq_some_iff.mp halts
  exact ⟨final, ended, Host.exited_with_own_exit ended⟩

namespace Host

theorem sound_finalState
    (unended : ∀ status final, (Host.run setup fuel program).exec (World.start store library) ≠
      .error (.exited status) final) :
    (Process.finalState
      ((Host.run setup fuel program).exec (World.start store library))).Sound := by
  have obeys := obeys_run setup fuel program store library
  have started : (World.start store library : World σ H N).Sound := World.sound_start store library
  cases outcome : (Host.run setup fuel program).exec (World.start store library) with
  | ok result final =>
      obtain ⟨_, reached⟩ := obeys.exec_ok outcome
      exact reached.preserved (fun _ _ step => step.sound) started
  | error cause final =>
      obtain ⟨last, change, reached, halted, same⟩ := obeys.exec_error outcome
      cases cause with
      | exited status => exact absurd outcome (unended status final)
      | unheld | outOfFuel =>
          have unchanged : change = id := halted
          subst unchanged same
          exact reached.preserved (fun _ _ step => step.sound) started

/-- An evaluation that fails ends the process exactly if the latest exit that was asked for in it
or inside it was asked for while it was the innermost evaluation of its session. -/
theorem ends_iff_due {session : SessionId} {before body after : List (Event N)}
    {script : List UInt8} {view : Record.View}
    (failed : (Process.finalState
        ((Host.run setup fuel program).exec (World.start store library))).record =
      before ++ .evaluate session script :: (body ++ .completed session 1 :: after))
    (seen : Record.view? session body = some view) (innermost : view.nested = 0) (status : Int) :
    (after = [] ∧ ∃ final, (Host.run setup fuel program).exec (World.start store library) =
        .error (.exited status) final) ↔
      view.own.getLast? = some status ∧ view.overtaken = false := by
  rw [← view.due?_eq_some_iff]
  by_cases ended : ∃ actual final, (Host.run setup fuel program).exec
      (World.start store library) = .error (.exited actual) final
  · obtain ⟨actual, final, outcome⟩ := ended
    obtain ⟨last, other, state, _, _, _, _, sound, present, _, _, _, asked, recorded⟩ :=
      ended_by_evaluation outcome
    have regrouped : last.record ++ [.completed other 1] =
        (before ++ .evaluate session script :: body) ++ .completed session 1 :: after := by
      rw [outcome] at failed
      simpa [Process.finalState, recorded] using failed
    -- The failure in question is either the one that ended the process or was survived.
    rcases Record.split_last regrouped with ⟨rfl, same, known⟩ | ⟨inner, rfl, earlier⟩
    · simp only [Event.completed.injEq, and_true] at same
      subst same
      have agreed := sound.sessions session state present
      have due := (agreed.due_eq_exitAt? known seen innermost actual).mp asked
      simp [outcome, due]
    · have nothing := sound.undue session before script body inner view
        (by simpa using earlier) seen innermost
      simp [nothing]
  · have sound := sound_finalState fun actual final outcome => ended ⟨actual, final, outcome⟩
    have nothing := sound.undue session before script body after view failed seen innermost
    rw [nothing]
    exact iff_of_false (fun ⟨_, final, outcome⟩ => ended ⟨status, final, outcome⟩) (by simp)

end Host

def Sample.record : List (Event Empty) :=
  (Process.finalState ((Host.run (Sample.setup true) 3 Sample.program).exec
    (World.start 0 Sample.library))).record

/-- The exit with status 3 is lost: the evaluation fails, and the process goes on. -/
theorem Sample.exit_lost :
    ∃ before script body after view,
      Sample.record = before ++ .evaluate 0 script :: (body ++ .completed 0 1 :: after) ∧
        Record.view? 0 body = some view ∧ view.nested = 0 ∧ view.own.getLast? = some 3 ∧
          ¬ (after = [] ∧ ∃ final, (Host.run (Sample.setup true) 3 Sample.program).exec
            (World.start 0 Sample.library) = .error (.exited 3) final) := by
  have split : Sample.record = Sample.record.take 21 ++ .evaluate 0 [] ::
      ((Sample.record.drop 22).take 25 ++ .completed 0 1 :: Sample.record.drop 48) := by
    decide +kernel
  have seen : Record.view? 0 ((Sample.record.drop 22).take 25) = some ⟨0, [3], true⟩ := rfl
  refine ⟨_, _, _, _, _, split, seen, rfl, rfl, fun ended => ?_⟩
  obtain ⟨_, kept⟩ := (Host.ends_iff_due split seen rfl 3).mp ended
  cases kept

end TclHost
