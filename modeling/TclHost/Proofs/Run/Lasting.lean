import TclHost.Proofs.Run.Step

/-!
What a session keeps once it is ready, as long as nothing is recorded that may change it.
-/

namespace TclHost

variable {σ H N : Type}

/-- Nothing that may happen to a session that is ready takes the property away, if what is recorded
of it is allowed. -/
def Session.Keeps (session : SessionId) (allowed : Event N → Prop) (holds : Session H → Prop) :
    Prop :=
  ∀ ⦃record entries : List (Event N)⦄ ⦃state next : Session H⦄,
    state.Change session record next entries → state.stage ≠ .fresh →
      (∀ event ∈ entries, allowed event) → holds state → holds next

namespace World

variable {world later : World σ H N} {session : SessionId} {allowed : Event N → Prop}
  {holds : Session H → Prop}

structure Lasts (session : SessionId) (holds : Session H → Prop) (world : World σ H N) : Prop where
  ready : .ready session ∈ world.record
  found : ∀ state, world.sessions[session]? = some state → holds state

theorem Sound.lasts (sound : world.Sound) {state : Session H}
    (present : world.sessions[session]? = some state) (settled : state.stage ≠ .fresh)
    (holding : holds state) : Lasts session holds world := by
  refine ⟨Classical.not_not.mp fun unready => ?_, fun other found => ?_⟩
  · exact settled ((sound.sessions session state present).fresh_iff.mpr unready)
  · exact Option.some.inj (present.symm.trans found) ▸ holding

theorem Lasts.step (lasts : Lasts session holds world) (keeps : Session.Keeps session allowed holds)
    (sound : world.Sound) (step : Step world later) {entries : List (Event N)}
    (grown : later.record = world.record ++ entries) (granted : ∀ event ∈ entries, allowed event) :
    Lasts session holds later := by
  obtain ⟨ready, found⟩ := lasts
  refine ⟨grown ▸ List.mem_append_left entries ready, fun now foundNow => ?_⟩
  cases step with
  | scene => exact found now foundNow
  | handles _ scene sessions => exact found now (sessions ▸ foundNow)
  | change other state next added scene present change recorded =>
      simp only [Std.TreeMap.getElem?_insert, Nat.compare_eq_eq] at foundNow
      split at foundNow
      · rename_i same
        subst same
        cases foundNow
        have same : added = entries := List.append_cancel_left (recorded.symm.trans grown)
        subst same
        have settled : state.stage ≠ .fresh := fun fresh =>
          (sound.sessions other state present).fresh_iff.mp fresh ready
        exact keeps change settled granted (found state present)
      · exact found now foundNow
  | enrol other absent below unknown =>
      have different : other ≠ session := fun same => unknown _ ready (congrArg some same.symm)
      rw [sessions_enrol, if_neg different] at foundNow
      exact found now foundNow
  | takeDown other =>
      rw [sessions_takeDown, Option.ite_none_left_eq_some] at foundNow
      exact found now foundNow.2

theorem record_of_reaches (reached : rules.Reaches world later) :
    ∃ entries, later.record = world.record ++ entries := by
  induction reached with
  | refl => exact ⟨[], (List.append_nil _).symm⟩
  | tail _ step ih =>
      obtain ⟨earlier, known⟩ := ih
      obtain ⟨latest, grown, _⟩ := Step.grown step
      exact ⟨earlier ++ latest, by rw [grown, known, List.append_assoc]⟩

theorem Lasts.reaches (lasts : Lasts session holds world)
    (keeps : Session.Keeps session allowed holds) (sound : world.Sound)
    (reached : rules.Reaches world later) {entries : List (Event N)}
    (grown : later.record = world.record ++ entries) (granted : ∀ event ∈ entries, allowed event) :
    Lasts session holds later := by
  induction reached generalizing entries with
  | refl => exact lasts
  | tail before step ih =>
      obtain ⟨earlier, known⟩ := record_of_reaches before
      obtain ⟨latest, last, _⟩ := Step.grown step
      have together : earlier ++ latest = entries := by
        rw [last, known, List.append_assoc] at grown
        exact List.append_cancel_left grown
      subst together
      obtain ⟨grantedEarlier, grantedLatest⟩ := List.forall_mem_append.mp granted
      have soundBefore := Process.Rules.Reaches.preserved before (fun _ _ step => step.sound) sound
      exact (ih known grantedEarlier).step keeps soundBefore step last grantedLatest

end World

end TclHost
