import TclHost.Proofs.Run.Activity

/-!
Entering the library: each step is one of those that a run may make, and what was under way before
is so again when the library returns, provided that callbacks are answered so.
-/

namespace TclHost

open Record (Activity)

variable {σ H N α β : Type}

namespace Run

open World

abbrev Does (setup : Setup σ H N) (post : α → World σ H N → Prop) (run : Run σ H N α)
    (world : World σ H N) : Prop :=
  run.Follows World.Sound (deeds setup) post world

variable {setup : Setup σ H N} {world : World σ H N} {waiting : List Frame} {session : SessionId}
  {post : α → World σ H N → Prop}

/-- What is known of the first part by the rules may be used as well. -/
theorem does_bind {run : Run σ H N α} {next : α → Run σ H N β}
    {middle done : α → World σ H N → Prop} {post : β → World σ H N → Prop}
    (obeys : run.Obeys rules middle world) (does : run.Does setup done world)
    (sound : world.Sound)
    (rest : ∀ answer later, middle answer later → done answer later → later.Sound →
      (next answer).Does setup post later) : (run >>= next).Does setup post world := by
  apply Process.follows_bind.mpr
  apply (obeys.joined does).weaken sound
  intro answer later known
  exact rest answer later known.1 known.2

theorem does_then {run : Run σ H N α} {next : α → Run σ H N β} {done : α → World σ H N → Prop}
    {post : β → World σ H N → Prop} (does : run.Does setup done world) (sound : world.Sound)
    (rest : ∀ answer later, done answer later → later.Sound →
      (next answer).Does setup post later) : (run >>= next).Does setup post world :=
  Process.follows_bind.mpr (does.weaken sound rest)

theorem does_discard {run : Run σ H N α} {post : World σ H N → Prop}
    (does : run.Does setup (fun _ => post) world) :
    (discard run).Does setup (fun _ => post) world :=
  Process.follows_bind.mpr does

theorem does_get_bind {next : World σ H N → Run σ H N α}
    (rest : (next world).Does setup post world) : (get >>= next).Does setup post world :=
  fun _ => ⟨Deed.refl world, rest⟩

theorem does_store_bind {next : σ → Run σ H N α}
    (rest : (next world.scene.store).Does setup post world) :
    (store >>= next).Does setup post world :=
  fun _ => ⟨Deed.refl world, rest⟩

theorem does_modify_bind {change : World σ H N → World σ H N} {next : PUnit → Run σ H N α}
    (deed : Deed setup world (change world))
    (rest : (change world).Sound → (next ⟨⟩).Does setup post (change world)) :
    (modify change >>= next).Does setup post world :=
  fun sound => ⟨deed, rest sound⟩

theorem does_set_bind {given : World σ H N} {next : PUnit → Run σ H N α}
    (deed : Deed setup world given)
    (rest : given.Sound → (next ⟨⟩).Does setup post given) :
    (set given >>= next).Does setup post world :=
  fun sound => ⟨deed, rest sound⟩

theorem does_setStore (given : σ) (world : World σ H N) :
    (setStore given).Does setup (fun _ later => Idle world later) world :=
  fun _ => ⟨Deed.silent rfl rfl rfl, Idle.of_record rfl⟩

theorem does_call {call : Call σ N α} (emits : call.Emits Event.Neutral) (world : World σ H N) :
    (Run.call call).Does setup (fun _ later => Idle world later) world := by
  obtain ⟨entries, grown, neutral⟩ := emits world.scene
  intro _
  constructor
  · exact Deed.neutral grown neutral (fun _ => .inl rfl) (.inl rfl)
  · exact Idle.of_neutral grown neutral

theorem does_objects {call : Call σ N α} (emits : call.Emits Event.IsObject)
    (world : World σ H N) :
    (Run.call call).Does setup (fun _ later => Idle world later) world :=
  does_call (emits.mono fun _ => Event.IsObject.neutral) world

theorem does_emit {event : Event N} (silent : event.session? = none)
    (other : ∀ session, event ≠ .makeSafe session) (world : World σ H N) :
    (emit event).Does setup (fun _ later => later = world.push event) world :=
  fun _ => ⟨Deed.push other silent world, rfl⟩

theorem does_release (session : SessionId) (world : World σ H N) :
    (Run.call (Call.release setup.engine session)).Does setup
      (fun _ later => later.record = world.record ++ [.release session]) world := by
  let later : World σ H N :=
    { world with scene := ((Call.release setup.engine session).run world.scene).2 }
  have grown : later.record = world.record ++ [.release session] := Array.toList_push
  intro _
  constructor
  · apply Deed.recorded grown
    · exact fun _ => .inl rfl
    · rfl
    · intro _ _ same
      cases same
    · intro _ same
      cases same
    · intro _ same
      cases same
  · exact grown

def Acts (setup : Setup σ H N) (dispatch : Dispatch σ H N) : Prop :=
  ∀ (world : World σ H N) (session : SessionId) (words : List Obj) (before : List (Event N)),
    world.Sound → Secured world.frames world → world.record = before ++ [.called session] →
      (dispatch session words).Does setup (fun _ later => Passed world.frames world later) world

/-- What begins and what ends an activity, with what comes in between. -/
theorem passed_within {entered left later : World σ H N} {first last : Event N}
    {begun : Activity × SessionId} (opened : entered.record = world.record ++ [first])
    (passed : Passed waiting entered left) (closed : later.record = left.record ++ [last])
    (opens : ∀ underWay, Record.turn underWay first = begun :: underWay)
    (closes : ∀ underWay, Record.turn underWay last = underWay.tail)
    (fresh : ∀ session, waiting.any (·.holds session) = true → world.IsFresh session →
      entered.IsFresh session ∧ ¬ first.Prepares session ∧ ¬ last.Prepares session) :
    Passed waiting world later := by
  obtain ⟨entries, grown, rounded, spares⟩ := passed
  refine ⟨first :: (entries ++ [last]), ?_, rounded.within opens closes, ?_⟩
  · rw [closed, grown, opened]
    simp
  · intro session held known event member prepares
    obtain ⟨still, firstSpares, lastSpares⟩ := fresh session held known
    rcases List.mem_cons.mp member with rfl | member
    · exact firstSpares prepares
    · rcases List.mem_append.mp member with inner | final
      · exact spares session held still event inner prepares
      · rw [List.mem_singleton] at final
        exact lastSpares (final ▸ prepares)

section Parts

variable {dispatch : Dispatch σ H N} (answers : Answers dispatch) (acts : Acts setup dispatch)
include answers acts

theorem does_follow (reaction : Reaction σ) (sound : world.Sound)
    (secured : Secured world.frames world) :
    (follow dispatch reaction).Does setup (fun _ later => Passed world.frames world later)
      world := by
  induction reaction generalizing world with
  | finished code store =>
      apply does_bind (obeys_setStore store world) (does_setStore store world) sound
      intro _ later _ idle _
      exact idle.passed
  | callback interp words store resume ih =>
      apply does_bind (obeys_setStore store world) (does_setStore store world) sound
      intro _ entered beside idle soundEntered
      apply does_bind (obeys_emit rfl entered) (does_emit rfl (by simp) entered) soundEntered
      rintro _ called rfl _ soundCalled
      have entering := beside.kept
      have calling := entering.trans (push_beside entered (.called interp) rfl).kept
      have record := record_push entered (.called interp)
      apply does_bind (answers _ interp words entered.record soundCalled (calling.secured secured)
        record) (acts _ interp words entered.record soundCalled (calling.secured secured) record)
        soundCalled
      intro reply replied kept passed soundReplied
      apply does_bind (obeys_emit rfl replied) (does_emit rfl (by simp) replied) soundReplied
      rintro _ sent rfl _ soundSent
      have sending := (calling.trans kept).trans
        (push_beside replied (.sent interp reply) rfl).kept
      -- The call is over when its reply is sent.
      have answered : Passed entered.frames entered (replied.push (.sent interp reply)) := by
        apply passed_within record passed (record_push replied _) (fun _ => rfl) (fun _ => rfl)
        intro session _ fresh
        exact ⟨fresh, not_prepares rfl session, not_prepares rfl session⟩
      have whole := idle.passed.trans entering.since.guarded (entering.frames ▸ answered)
      apply does_store_bind
      apply (ih reply.code _ soundSent (sending.secured secured)).weaken soundSent
      intro _ later passedLater _
      exact whole.trans sending.since.guarded (sending.frames ▸ passedLater)

theorem does_sweep (session : SessionId) (secured : Secured world.frames world) :
    (sweep setup.engine dispatch session).Does setup
      (fun _ later => Passed world.frames world later) world := by
  unfold sweep
  apply does_get_bind
  split
  · rename_i unused
    simp only [Bool.and_eq_true, Bool.not_eq_true'] at unused
    have down := takeDown_kept unused.2 secured
    apply does_modify_bind (Deed.takeDown world session)
    intro soundDown
    apply does_store_bind
    have securedDown := down.secured secured
    apply does_bind (obeys_discard (obeys_follow answers _ soundDown securedDown))
      (does_discard (does_follow answers acts _ soundDown securedDown)) soundDown
    intro _ left _ passed soundLeft
    apply (does_release session left).weaken soundLeft
    intro _ later released _
    apply passed_within (record_takeDown world session) passed released (fun _ => rfl)
      (fun _ => rfl)
    intro other held fresh
    refine ⟨down.since.guarded other held fresh, ?_, not_prepares rfl other⟩
    rintro ⟨⟩
  · exact Passed.refl

theorem does_letGo {caller : Option SessionId} {kept : List SessionId} {rest : List Frame}
    (secured : Secured rest world)
    (frames : world.frames = ⟨caller, session :: kept⟩ :: rest) :
    (letGo setup.engine dispatch).Does setup
      (fun _ later => Passed (⟨caller, kept⟩ :: rest) world later) world := by
  unfold letGo
  apply does_get_bind
  simp only [frames]
  refine does_set_bind (Deed.silent rfl rfl rfl) fun _ => ?_
  apply does_sweep answers acts session
  intro other running
  simp [secured other running]

theorem does_dropKept {caller : Option SessionId} {kept : List SessionId} {rest : List Frame}
    (sound : world.Sound) (secured : Secured rest world)
    (frames : world.frames = ⟨caller, kept⟩ :: rest) :
    (dropKept setup.engine dispatch).Does setup (fun _ later => Passed rest world later) world := by
  unfold dropKept
  apply does_get_bind
  simp only [frames]
  induction kept generalizing world with
  | nil => exact Passed.refl
  | cons session kept ih =>
      apply does_bind (obeys_letGo answers setup.engine sound secured frames)
        (does_letGo answers acts secured frames) sound
      rintro _ later ⟨framesLater, since, _⟩ passed soundLater
      apply (ih soundLater (since.secured secured) framesLater).weaken soundLater
      intro _ last passedLast _
      exact passed.outer.trans since.outer.guarded passedLast

theorem does_endFrame (caller : SessionId) {frame : Frame} {rest : List Frame}
    (secured : Secured rest world) (frames : world.frames = frame :: rest) :
    (endFrame setup.engine dispatch caller).Does setup (fun _ later => Passed rest world later)
      world := by
  unfold endFrame
  apply does_modify_bind (Deed.silent rfl rfl rfl)
  intro soundGiven
  have fewer : Secured world.frames.tail
      ({ world with frames := world.frames.tail } : World σ H N) := by
    rw [frames]
    exact secured
  apply (does_sweep answers acts caller fewer).weaken soundGiven
  intro _ later passed _
  rw [frames] at passed
  exact passed

omit answers acts in
theorem does_complete (depth : Nat) (code : Int)
    (inside : world.innermost = some (.evaluating, session)) :
    (complete session depth code).Does setup
      (fun _ later => Idle world later) world := by
  have deed (change : Session H → Session H) :
      Deed setup world ((world.update session change).push (.completed session code)) :=
    Deed.within inside rfl (by simp) (by simp)
  unfold complete
  apply does_get_bind
  split
  · exact deed Session.terminate
  · intro _
    constructor
    · exact deed _
    · apply Idle.noted (fun _ => rfl)
      rintro _ ⟨⟩

omit answers acts in
theorem does_evaluationResult (session : SessionId) (completion : Completion)
    (world : World σ H N) :
    (evaluationResult setup.engine session completion).Does setup
      (fun _ later => Idle world later) world := by
  have asked : (Run.call (Call.result setup.engine session)).Does setup
      (fun _ later => Idle world later) world :=
    does_objects (Call.emits_result setup.engine session) world
  cases completion with
  | success => exact Process.follows_bind.mpr asked
  | error => exact Process.follows_bind.mpr asked
  | other code => exact Idle.refl

section Held

variable {frame : Frame} {rest : List Frame} (sound : world.Sound) (secured : Secured rest world)
  (frames : world.frames = frame :: rest) (held : frame.holds session = true)
  (fewer : ∀ other, waiting.any (·.holds other) = true → world.frames.any (·.holds other) = true)
  (apart : waiting.any (·.holds session) = true → ¬ world.IsFresh session)
include sound secured frames held fewer apart

theorem does_evaluate (script : String)
    (plain : world.IsFresh session → Text.encode script ∈ snapshotScripts) :
    (evaluate setup.engine dispatch session script).Does setup (fun _ later =>
      Passed waiting world later ∧ (world.IsFresh session → Unfailed session world later))
      world := by
  unfold evaluate
  obtain ⟨state, present⟩ := sound.alive frames held
  generalize Text.encode script = bytes at plain ⊢
  let begun := world.begin session bytes
  have record : begun.record = world.record ++ [.evaluate session bytes] :=
    record_noted world session _ _
  have inside : begun.innermost = some (.evaluating, session) := by
    rw [innermost, record, Record.underWay_concat]
    rfl
  have deed : Deed setup world begun := by
    apply Deed.noted (.inside .evaluating (.inl inside))
    · intro script same
      cases same
      exact plain
    · intro same
      cases same
    · rfl
  apply does_modify_bind deed
  intro soundBegun
  apply does_get_bind
  apply does_store_bind
  have framesBegun : begun.frames = world.frames := frames_update world session Session.enter
  have securedBegun : Secured begun.frames begun := by
    rw [framesBegun, frames]
    exact secured_begin present bytes secured held
  apply does_bind (obeys_follow answers _ soundBegun securedBegun)
    (does_follow answers acts _ soundBegun securedBegun) soundBegun
  intro code left kept passed soundLeft
  have insideLeft : left.innermost = some (.evaluating, session) := by
    rw [innermost, passed.underWay]
    exact inside
  apply does_then (does_complete _ code insideLeft) soundLeft
  intro _ completed idleCompleted soundCompleted
  apply does_then (does_evaluationResult session _ completed) soundCompleted
  intro answer last idleLast _
  have inner := passed.idle (idleCompleted.trans idleLast)
  have recordLast : (last.leave session).record = last.record ++ [.returned session] :=
    record_noted last session _ _
  have insideLast : last.innermost = some (.evaluating, session) := by
    rw [innermost, inner.underWay]
    exact inside
  have freshBegun (other : SessionId) : begun.IsFresh other ↔ world.IsFresh other :=
    isFresh_begin present bytes other
  apply does_modify_bind (Deed.within insideLast rfl (by simp) (by simp))
  intro _
  constructor
  · apply passed_within record (inner.mono fun other waits => framesBegun ▸ fewer other waits)
      recordLast (fun _ => rfl) (fun _ => rfl)
    intro other waits fresh
    refine ⟨(freshBegun other).mpr fresh, ?_, ?_⟩
    · rintro ⟨⟩
      exact apart waits fresh
    · rintro ⟨⟩
  · intro fresh
    have started : Unfailed session world begun := unfailed_of_recorded record (by simp)
    have went : Unfailed session begun last := by
      apply inner.unfailed
      · rw [framesBegun, frames, List.any_cons, held, Bool.true_or]
      · exact (freshBegun session).mpr fresh
    exact (started.trans went).trans (unfailed_of_recorded recordLast (by simp))

theorem does_makeSafe :
    (makeSafe setup.engine dispatch session).Does setup (fun outcome later =>
      Passed waiting world later ∧
        (outcome.isOk → world.IsFresh session → Unfailed session world later)) world := by
  unfold makeSafe
  obtain ⟨state, present⟩ := sound.alive frames held
  apply does_get_bind
  split
  · exact ⟨Passed.refl, fun _ _ => Idle.refl.unfailed⟩
  · rename_i unsecured
    let asked := world.push (.makeSafe session)
    have record : asked.record = world.record ++ [.makeSafe session] := record_push world _
    have inside : asked.innermost = some (.restricting, session) := by
      rw [innermost, record, Record.underWay_concat]
      rfl
    have deed : Deed setup world asked := by
      apply Deed.recorded record
      · exact fun _ => .inl rfl
      · rfl
      · intro _ _ same
        cases same
      · intro other same
        cases same
        exact ⟨state, present, by simpa [present] using unsecured⟩
      · intro _ same
        cases same
    have emitted : (emit (.makeSafe session)).Does setup (fun _ later => later = asked) world :=
      fun _ => ⟨deed, rfl⟩
    apply does_then emitted sound
    rintro _ _ rfl soundAsked
    have kept := (push_beside world (.makeSafe session) rfl).kept
    have securedAsked : Secured asked.frames asked := kept.secured (secured.cons frames)
    apply does_store_bind
    apply does_bind (obeys_follow answers _ soundAsked securedAsked)
      (does_follow answers acts _ soundAsked securedAsked) soundAsked
    intro code left keptLeft passed soundLeft
    have insideLeft : left.innermost = some (.restricting, session) := by
      rw [innermost, passed.underWay]
      exact inside
    let last := left.restrict session code
    have recordLast : last.record = left.record ++ [.restricted session code] :=
      record_noted left session _ _
    have ended : Passed waiting world last := by
      apply passed_within record (passed.mono fewer) recordLast (fun _ => rfl) (fun _ => rfl)
      intro other waits fresh
      refine ⟨fresh, not_prepares rfl other, ?_⟩
      rintro ⟨⟩
      exact apart waits fresh
    apply does_modify_bind (Deed.within insideLeft rfl (by simp) (by simp))
    intro soundLast
    split
    · apply Process.follows_bind.mpr
      apply (does_objects (Call.emits_result setup.engine session) last).weaken soundLast
      intro _ later idle _
      exact ⟨ended.idle idle, by rintro ⟨⟩⟩
    · rename_i accepted
      refine ⟨ended, fun _ fresh => ?_⟩
      have started : Unfailed session world asked := unfailed_of_recorded record (by simp)
      have went : Unfailed session asked left := by
        apply passed.unfailed
        · change world.frames.any _ = true
          rw [frames, List.any_cons, held, Bool.true_or]
        · exact fresh
      apply (started.trans went).trans
      apply unfailed_of_recorded recordLast
      intro other same
      cases same
      exact Decidable.not_not.mp accepted

theorem does_listResult (script : String)
    (plain : world.IsFresh session → Text.encode script ∈ snapshotScripts) :
    (listResult setup.engine dispatch session script).run.Does setup (fun _ later =>
      Passed waiting world later ∧ (world.IsFresh session → Unfailed session world later))
      world := by
  unfold listResult
  rw [ExceptT.run_bind]
  apply does_then (does_evaluate answers acts sound secured frames held fewer apart script plain)
    sound
  rintro (cause | text) later ⟨passed, unfailed⟩ soundLater
  · exact ⟨passed, unfailed⟩
  · dsimp only
    rw [ExceptT.run_bind_lift]
    apply does_then (does_objects (Call.emits_splitList setup.engine session _) later) soundLater
    intro items last idle _
    exact ⟨passed.idle idle, fun fresh => (unfailed fresh).trans idle.unfailed⟩

end Held

end Parts

end Run

end TclHost
