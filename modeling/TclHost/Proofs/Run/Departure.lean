import TclHost.Proofs.Command.Answering

/-!
A session that is taken down. While its interpreter is deleted and ever after it cannot be reached,
and nothing more is recorded of it.
-/

namespace TclHost

variable {σ H N : Type}

namespace World

variable {world later : World σ H N} {session : SessionId}

structure Departed (session : SessionId) (world : World σ H N) : Prop where
  absent : world.sessions[session]? = none
  mentioned : ∃ event ∈ world.record, event.session? = some session

def Passes (session : SessionId) (world later : World σ H N) : Prop :=
  ∃ entries, later.record = world.record ++ entries ∧
    ∀ event ∈ entries, event.session? ≠ some session

theorem departed_takeDown (world : World σ H N) (session : SessionId) :
    Departed session (world.takeDown session) where
  absent := by rw [sessions_takeDown, if_pos rfl]
  mentioned := ⟨.delete session, by rw [record_takeDown]; simp, rfl⟩

/-- The interpreters that are asked for later are others. -/
theorem Departed.step (departed : Departed session world) (step : Step world later) :
    Departed session later ∧ Passes session world later := by
  obtain ⟨absent, event, known, about⟩ := departed
  suffices passed : later.sessions[session]? = none ∧ Passes session world later by
    obtain ⟨gone, entries, grown, others⟩ := passed
    refine ⟨⟨gone, event, ?_, about⟩, entries, grown, others⟩
    rw [grown]
    exact List.mem_append_left entries known
  cases step with
  | scene scene entries recorded library =>
      exact ⟨absent, entries, recorded, fun event member => by simp [library event member]⟩
  | handles _ scene sessions =>
      refine ⟨sessions ▸ absent, [], ?_, by simp⟩
      rw [record, scene, List.append_nil, record]
  | change other state next entries scene present change recorded =>
      have different : other ≠ session := by
        rintro rfl
        rw [absent] at present
        cases present
      refine ⟨?_, entries, recorded, fun event member => ?_⟩
      · simp [Std.TreeMap.getElem?_insert, different, absent]
      · rw [change.about event member]
        exact fun same => different (Option.some.inj same)
  | enrol other _ _ unknown =>
      -- A session that the record speaks of is not enrolled again.
      have different : other ≠ session := fun same => unknown event known (same ▸ about)
      refine ⟨?_, [], (record_enrol world other).trans (List.append_nil _).symm, by simp⟩
      rw [sessions_enrol, if_neg different, absent]
  | takeDown other state present =>
      have different : other ≠ session := by
        rintro rfl
        rw [absent] at present
        cases present
      refine ⟨?_, [.delete other], record_takeDown world other, ?_⟩
      · rw [sessions_takeDown, if_neg different, absent]
      · simpa [Event.session?] using different

theorem Departed.reaches (departed : Departed session world)
    (reached : rules.Reaches world later) :
    Departed session later ∧ Passes session world later := by
  induction reached with
  | refl => exact ⟨departed, [], (List.append_nil _).symm, by simp⟩
  | tail _ step ih =>
      obtain ⟨departed, earlier, known, others⟩ := ih
      obtain ⟨departedNow, latest, grown, othersNow⟩ := departed.step step
      refine ⟨departedNow, earlier ++ latest, ?_, List.forall_mem_append.mpr ⟨others, othersNow⟩⟩
      rw [grown, known, List.append_assoc]

/-- The session has been taken down. Its interpreter was deleted and released, and in between
others may have been at work. -/
structure TakenDown (session : SessionId) (world final : World σ H N) : Prop where
  gone : final.sessions[session]? = none
  frames : final.frames = world.frames
  recorded : ∃ during, final.record =
      world.record ++ .delete session :: (during ++ [.release session]) ∧
    ∀ event ∈ during, event.session? ≠ some session

end World

namespace Run

open Process World

variable {world final : World σ H N} {session : SessionId} {engine : Engine σ}

theorem takenDown_of_exec {dispatch : Dispatch σ H N} (answers : Answers dispatch)
    (sound : world.Sound) (secured : Secured world.frames world)
    (present : ∃ state, world.sessions[session]? = some state)
    (unheld : world.holds session = false) {done : Unit}
    (down : (tearDown engine dispatch session).exec world = .ok done final) :
    TakenDown session world final := by
  obtain ⟨state, present⟩ := present
  have step := Step.takeDown world session state present unheld
  have kept := takeDown_kept unheld secured
  obtain ⟨_, _, taking, down⟩ := exec_bind_ok.mp down
  cases taking
  obtain ⟨_, _, read, down⟩ := exec_bind_ok.mp down
  cases read
  obtain ⟨_, left, deleted, released⟩ := exec_bind_ok.mp down
  obtain ⟨code, _, followed, same⟩ := exec_bind_ok.mp deleted
  cases same
  obtain ⟨-, rfl⟩ := exec_call_ok.mp released
  obtain ⟨keptLeft, reached⟩ :=
    (obeys_follow answers _ (step.sound sound) (kept.secured secured)).exec_ok followed
  obtain ⟨departed, during, grown, others⟩ := (departed_takeDown world session).reaches reached
  refine ⟨departed.absent, keptLeft.frames.trans kept.frames, during, ?_, others⟩
  have last : ({ left with
      scene := ((Call.release engine session).run left.scene).2 } : World σ H N).record =
        left.record ++ [.release session] := Array.toList_push
  rw [last, grown, record_takeDown]
  simp

/-- Whoever holds the only handle takes the session down by letting go of it. -/
theorem exec_letGo_unshared {dispatch : Dispatch σ H N} {caller : Option SessionId}
    {kept : List SessionId} {rest : List Frame}
    (frames : world.frames = ⟨caller, session :: kept⟩ :: rest)
    (present : ∃ state, world.sessions[session]? = some state)
    (unheld : ({ world with frames := ⟨caller, kept⟩ :: rest } : World σ H N).holds session =
      false) :
    (letGo engine dispatch).exec world =
      (tearDown engine dispatch session).exec { world with frames := ⟨caller, kept⟩ :: rest } := by
  have reachable : world.sessions.contains session = true := by
    rwa [Std.TreeMap.contains_eq_isSome_getElem?, Option.isSome_iff_exists]
  unfold letGo
  refine (exec_bind_of_ok rfl).trans ?_
  simp only [frames]
  exact (exec_bind_of_ok rfl).trans (exec_sweep_unheld reachable unheld)

/-- The command of a session that is gone is answered at once. -/
theorem exec_dispatch_gone (setup : Setup σ H N) (fuel : Nat)
    (absent : world.sessions[session]? = none) (objects : List Obj) :
    (Run.dispatch setup (fuel + 1) session objects).exec world = .ok .gone { world with
      scene := ((Call.setResult setup.engine session Reply.gone.text).run world.scene).2 } := by
  have unknown : ¬ world.sessions.contains session = true := by
    simp [Std.TreeMap.contains_eq_isSome_getElem?, absent]
  refine (exec_bind_of_ok rfl).trans ?_
  rw [if_neg unknown]
  rfl

/-- The library comes to an end if all it asks for is the command of a session that is gone. -/
theorem exec_follow_gone (setup : Setup σ H N) (fuel : Nat)
    (absent : world.sessions[session]? = none) {reaction : Reaction σ}
    (calls : reaction.Calls (· = session)) :
    ∃ code final, (follow (Run.dispatch setup (fuel + 1)) reaction).exec world =
      .ok code final := by
  induction reaction generalizing world with
  | finished code store => exact ⟨code, _, rfl⟩
  | callback callee objects entered resume ih =>
      obtain ⟨rfl, onward⟩ := calls
      have still : (world.called callee entered).sessions[callee]? = none := absent
      rw [exec_follow_callback, exec_dispatch_gone setup fuel still]
      exact ih _ _ absent (onward _ _)

theorem exec_tearDown_ok (setup : Setup σ H N) (fuel : Nat)
    (calls : (engine.delete session world.scene.store).Calls (· = session)) :
    ∃ final, (tearDown engine (Run.dispatch setup (fuel + 1)) session).exec world =
      .ok ⟨⟩ final := by
  obtain ⟨code, left, followed⟩ := exec_follow_gone setup fuel
    (departed_takeDown world session).absent calls
  have deleted : (discard (follow (Run.dispatch setup (fuel + 1))
      (engine.delete session world.scene.store)) : Run σ H N Unit).exec (world.takeDown session) =
        .ok ⟨⟩ left := exec_bind_of_ok followed
  exact ⟨_, (exec_bind_of_ok rfl).trans ((exec_bind_of_ok rfl).trans (exec_bind_of_ok deleted))⟩

end Run

end TclHost
