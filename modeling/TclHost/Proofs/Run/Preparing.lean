import TclHost.Proofs.Run.Entering

/-!
Opening a session keeps to what a step may do: the session is fresh while it is prepared, so it is
left alone by everybody else.
-/

namespace TclHost

open Record (Activity)

variable {σ H N α β : Type}

namespace Run

open World

variable {setup : Setup σ H N} {world : World σ H N} {waiting : List Frame} {session : SessionId}
  {post : α → World σ H N → Prop}

section Parts

variable {dispatch : Dispatch σ H N} (answers : Answers dispatch) (acts : Acts setup dispatch)
include answers acts

omit answers acts in
theorem does_attempt {run : ExceptT Error (Run σ H N) α}
    {next : α → ExceptT Error (Run σ H N) β} {middle : World σ H N → Prop}
    {done : Except Error α → World σ H N → Prop} {post : Except Error β → World σ H N → Prop}
    (obeys : run.run.Obeys rules (fun _ => middle) world) (does : run.run.Does setup done world)
    (sound : world.Sound)
    (rest : ∀ answer later, middle later → done (.ok answer) later → later.Sound →
      (next answer).run.Does setup post later)
    (failed : ∀ cause later, done (.error cause) later → post (.error cause) later) :
    (run >>= next).run.Does setup post world := by
  rw [ExceptT.run_bind]
  apply does_bind obeys does sound
  rintro (cause | answer) later obeyed passed soundLater
  · exact failed cause later passed
  · exact rest answer later obeyed passed soundLater

omit answers acts in
theorem does_ready (fresh : world.IsFresh session) (usable : world.mayUse session = true)
    (unfailed : ∀ code, .restricted session code ∈ world.record → code = 0) :
    (ExceptT.lift (modify (·.ready session)) : ExceptT Error (Run σ H N) PUnit).run.Does setup
      (fun _ later => Idle world later) world := by
  obtain ⟨state, present, isFresh⟩ := fresh
  have ready : (world.ready session).sessions[session]? = some { state with stage := .ready } := by
    rw [sessions_ready, present, Option.map_some]
  intro _
  constructor
  · apply Deed.noted (.prepare state _ present isFresh usable ready rfl)
    · intro script same
      cases same
    · exact fun _ => unfailed
    · rfl
  · apply Idle.noted (fun _ => rfl)
    rintro _ ⟨⟩

theorem does_prepare (safe : Bool) {frame : Frame} {rest : List Frame} (sound : world.Sound)
    (secured : Secured rest world) (frames : world.frames = frame :: rest)
    (held : frame.holds session = true)
    (fewer : ∀ other, waiting.any (·.holds other) = true → world.frames.any (·.holds other) = true)
    (apart : waiting.any (·.holds session) = false) (fresh : world.IsFresh session)
    (unfailed : ∀ code, .restricted session code ∈ world.record → code = 0) :
    (prepare setup.engine dispatch session safe).run.Does setup
      (fun _ later => Passed waiting world later) world := by
  have waits : world.frames.any (·.holds session) = true := by
    rw [frames, List.any_cons, held, Bool.true_or]
  have elsewhere {later : World σ H N} : waiting.any (·.holds session) = true →
      ¬ later.IsFresh session := by
    intro holds
    simp [apart] at holds
  have guarded {later : World σ H N} (kept : Kept world later) : later.IsFresh session :=
    kept.since.guarded session waits fresh
  have usable {later : World σ H N} (kept : Kept world later) : later.mayUse session = true := by
    rw [mayUse_eq (kept.frames.trans frames)]
    exact held
  have within {later : World σ H N} (kept : Kept world later) : ∀ other,
      waiting.any (·.holds other) = true → later.frames.any (·.holds other) = true := by
    intro other
    rw [kept.frames]
    exact fewer other
  have still {later : World σ H N} (kept : Kept world later) : ∀ other,
      waiting.any (·.holds other) = true → world.IsFresh other → later.IsFresh other :=
    (kept.since.mono fewer).guarded
  have finish {last : World σ H N} (soundLast : last.Sound) (kept : Kept world last)
      (passed : Passed waiting world last) (mild : Unfailed session world last) :
      (ExceptT.lift (modify (·.ready session)) : ExceptT Error (Run σ H N) PUnit).run.Does setup
        (fun _ later => Passed waiting world later) last := by
    have unrefused : ∀ code, .restricted session code ∈ last.record → code = 0 := by
      intro code member
      rcases mild code member with same | earlier
      · exact same
      · exact unfailed code earlier
    apply (does_ready (guarded kept) (usable kept) unrefused).weaken soundLast
    exact fun _ _ idle _ => passed.idle idle
  unfold prepare
  apply does_attempt (obeys_listResult answers setup.engine session _ sound secured frames held)
    (does_listResult answers acts sound secured frames held fewer elsewhere _
      fun _ => by simp [snapshotScripts]) sound
  · rintro procs first kept ⟨passed, mild⟩ soundFirst
    have framesFirst := kept.frames.trans frames
    have securedFirst := kept.since.secured secured
    apply does_attempt
      (obeys_listResult answers setup.engine session _ soundFirst securedFirst framesFirst held)
      (does_listResult answers acts soundFirst securedFirst framesFirst held (within kept)
        elsewhere _ fun _ => by simp [snapshotScripts]) soundFirst
    · rintro vars second keptSecond ⟨passedSecond, mildSecond⟩ soundSecond
      have before := kept.trans keptSecond
      have passing := passed.trans (still kept) passedSecond
      have milder := (mild fresh).trans (mildSecond (guarded kept))
      obtain ⟨state, present, isFresh⟩ := guarded before
      let noted := second.update session fun state => { state with builtins := some ⟨procs, vars⟩ }
      have prepared : noted.sessions[session]? =
          some { state with builtins := some ⟨procs, vars⟩ } := by
        simp [noted, sessions_update, present]
      have handling : Handling session second noted :=
        .prepare state _ present isFresh (usable before) prepared rfl
      have silent : Idle second noted := Idle.of_record (record_update second session _)
      have noting : Kept second noted :=
        ⟨frames_update second session _, Since.of_unrecorded present (fun _ => rfl) Iff.rfl⟩
      rw [ExceptT.run_bind_lift]
      apply does_modify_bind (Deed.unrecorded handling)
      intro soundNoted
      have keptNoted := before.trans noting
      have framesNoted := keptNoted.frames.trans frames
      have securedNoted := keptNoted.since.secured secured
      split
      · apply does_attempt
          (obeys_makeSafe answers setup.engine session soundNoted securedNoted framesNoted held)
          (does_makeSafe answers acts soundNoted securedNoted framesNoted held (within keptNoted)
            elsewhere) soundNoted
        · rintro _ last keptLast ⟨passedLast, mildLast⟩ soundLast
          apply finish soundLast (keptNoted.trans keptLast)
          · exact (passing.idle silent).trans (still keptNoted) passedLast
          · exact (milder.trans silent.unfailed).trans (mildLast rfl (guarded keptNoted))
        · rintro cause last ⟨passedLast, _⟩
          exact (passing.idle silent).trans (still keptNoted) passedLast
      · exact finish soundNoted keptNoted (passing.idle silent) (milder.trans silent.unfailed)
    · rintro cause second ⟨passedSecond, _⟩
      exact passed.trans (still kept) passedSecond
  · rintro cause first ⟨passed, _⟩
    exact passed

omit answers acts in
theorem does_allocate (sound : world.Sound) :
    (allocate setup.engine).Does setup (fun outcome later => Idle world later ∧
      ∀ session, outcome = .ok session → session = world.created) world := by
  have neutral {event : Event N} (silent : event.session? = none)
      (level : ∀ underWay, Record.turn underWay event = underWay) :
      ∀ other, other = event → other.Neutral := by
    rintro _ rfl
    exact ⟨silent, level⟩
  have counted : Deed setup world { world with created := world.created + 1 } :=
    Deed.silent rfl rfl rfl
  unfold allocate
  apply does_get_bind
  apply does_modify_bind counted
  intro soundCounted
  apply does_bind (obeys_call ((Call.emits_create setup.engine _).lone rfl) _)
    (does_call ((Call.emits_create setup.engine _).mono (neutral rfl fun _ => rfl)) _) soundCounted
  intro granted created beside idle soundCreated
  have noted : Idle world created := (Idle.of_record rfl).trans idle
  split
  · refine ⟨noted, ?_⟩
    intro _ same
    cases same
  · apply does_bind
      (obeys_discard (obeys_call ((Call.emits_init setup.engine _).lone rfl) created))
      (does_discard (does_call ((Call.emits_init setup.engine _).mono (neutral rfl fun _ => rfl)) _))
      soundCreated
    intro _ initialised besideInit idleInit soundInit
    apply does_bind (obeys_call ((Call.emits_preserve setup.engine _).lone rfl) initialised)
      (does_call ((Call.emits_preserve setup.engine _).mono (neutral rfl fun _ => rfl)) _) soundInit
    intro _ between besidePreserve idlePreserve soundBetween
    have absent : between.sessions[world.created]? = none := by
      rw [((beside.trans besideInit).trans besidePreserve).sessions]
      cases present : world.sessions[world.created]? with
      | none => rfl
      | some state => exact absurd (sound.known _ state present) (Nat.lt_irrefl _)
    have enrolled : Idle between (between.enrol world.created) :=
      Idle.of_record (record_enrol between world.created)
    apply does_modify_bind (Deed.enrol absent)
    intro soundEnrolled
    apply does_then
      (does_call ((Call.emits_createCommand setup.engine _ _).mono (neutral rfl fun _ => rfl)) _)
      soundEnrolled
    intro _ later idleLater _
    refine ⟨(((noted.trans idleInit).trans idlePreserve).trans enrolled).trans idleLater, ?_⟩
    intro _ same
    cases same
    rfl

theorem does_handOut (safe : Bool) {caller : Option SessionId} {kept : List SessionId}
    {rest : List Frame} (sound : world.Sound) (secured : Secured rest world)
    (frames : world.frames = ⟨caller, session :: kept⟩ :: rest) (fresh : world.IsFresh session)
    (outside : (⟨caller, kept⟩ :: rest : List Frame).any (·.holds session) = false)
    (unfailed : ∀ code, .restricted session code ∈ world.record → code = 0) :
    (handOut setup.engine dispatch session safe).Does setup
      (fun _ later => Passed (⟨caller, kept⟩ :: rest) world later) world := by
  have held : (⟨caller, session :: kept⟩ : Frame).holds session = true := by
    simp [Frame.holds]
  have fewer : ∀ other, (⟨caller, kept⟩ :: rest : List Frame).any (·.holds other) = true →
      world.frames.any (·.holds other) = true := by
    intro other holds
    simp only [frames, List.any_cons, Frame.holds, Bool.or_eq_true, List.contains_cons] at holds ⊢
    grind
  unfold handOut
  apply does_bind (obeys_prepare answers setup.engine session safe sound secured frames held fresh)
    (does_prepare answers acts safe sound secured frames held fewer outside fresh unfailed) sound
  rintro (cause | _) prepared outcome passed soundPrepared
  · apply does_then (does_letGo answers acts (outcome.since.secured secured)
      (outcome.frames.trans frames)) soundPrepared
    intro _ later passedLater _
    exact passed.trans (outcome.since.mono fewer).guarded passedLater
  · exact passed

theorem does_openSession (config : Config) {caller : Option SessionId} {kept : List SessionId}
    {rest : List Frame} (secured : Secured rest world)
    (frames : world.frames = ⟨caller, kept⟩ :: rest) :
    (openSession setup dispatch config).Does setup
      (fun _ later => Passed (⟨caller, kept⟩ :: rest) world later) world := by
  unfold openSession
  apply does_get_bind
  have loads := show Deed setup world
      { world with library := (world.library.load setup.libraries config).2 } from
    Deed.neutral (List.append_nil _).symm (by simp) (fun _ => .inl rfl) (.inr ⟨config, rfl⟩)
  revert loads
  generalize world.library.load setup.libraries config = loaded
  obtain ⟨outcome, library⟩ := loaded
  intro loads
  have silent : Idle world { world with library } := Idle.of_record rfl
  apply does_modify_bind loads
  intro soundLoaded
  cases outcome with
  | error cause => exact silent.passed
  | ok path =>
      apply does_bind (obeys_allocate setup.engine soundLoaded) (does_allocate soundLoaded)
        soundLoaded
      rintro (cause | session) later allocated ⟨idle, new⟩ soundLater
      · exact (silent.trans idle).passed
      · obtain ⟨between, before, soundBetween, absent, beside⟩ := allocated
        have framesBetween := before.frames.trans frames
        have framesLater := beside.frames.trans (frames_enrol framesBetween session)
        have securedLater : Secured rest later := by
          intro other running
          rw [depthOf, beside.sessions, ← depthOf, depthOf_enrol absent, before.since.depth]
            at running
          exact secured other running
        have fresh : later.IsFresh session :=
          (IsFresh.of_sessions beside.sessions).mpr (isFresh_enrol between session)
        have unheld := soundBetween.absent absent
        rw [holds, Bool.or_eq_false_iff, framesBetween] at unheld
        have unfailed : ∀ code, .restricted session code ∈ later.record → code = 0 := by
          intro code member
          rcases idle.unfailed code member with same | earlier
          · exact same
          · have known : session < world.created := soundLoaded.recorded _ earlier session rfl
            rw [new session rfl] at known
            exact absurd known (Nat.lt_irrefl _)
        apply (does_handOut answers acts config.safe soundLater securedLater framesLater fresh
          unheld.2 unfailed).weaken soundLater
        intro _ last passed _
        have guarded : ∀ other, (⟨caller, kept⟩ :: rest : List Frame).any (·.holds other) = true →
            world.IsFresh other → later.IsFresh other := by
          intro other holds isFresh
          obtain ⟨state, present, stage⟩ := before.since.guarded other (frames ▸ holds) isFresh
          have different : session ≠ other := fun same => by simp [← same, absent] at present
          refine ⟨state, ?_, stage⟩
          rw [beside.sessions, sessions_enrol, if_neg different, present]
        exact ((silent.trans idle).passed).trans guarded passed

end Parts

end Run

end TclHost
