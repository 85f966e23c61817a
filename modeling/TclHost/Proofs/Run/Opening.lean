import TclHost.Proofs.Run.Evaluation

/-!
Opening a session obeys the rules. The session is fresh until it is handed out, and taken down if
that fails.
-/

namespace TclHost

variable {σ H N α β : Type}

namespace World

variable {world later : World σ H N} {session : SessionId} {waiting : List Frame}

theorem frames_enrol {caller : Option SessionId} {kept : List SessionId} {rest : List Frame}
    (frames : world.frames = ⟨caller, kept⟩ :: rest) (session : SessionId) :
    (world.enrol session).frames = ⟨caller, session :: kept⟩ :: rest := by
  simp [enrol, keep, frames]

theorem isFresh_enrol (world : World σ H N) (session : SessionId) :
    (world.enrol session).IsFresh session :=
  ⟨{}, by rw [sessions_enrol, if_pos rfl], rfl⟩

theorem depthOf_enrol (absent : world.sessions[session]? = none) (other : SessionId) :
    (world.enrol session).depthOf other = world.depthOf other := by
  rw [depthOf, sessions_enrol, depthOf]
  by_cases same : session = other
  · subst same
    simp [absent]
  · simp [same]

/-- What happens since a session was added happens as well since before, once it is not fresh any
more. -/
theorem Since.of_enrol (absent : world.sessions[session]? = none)
    (since : Since waiting (world.enrol session) later) (settled : ¬ later.IsFresh session) :
    Since waiting world later := by
  refine ⟨?_, ?_, ?_, ?_⟩
  · intro other
    rw [since.depth, depthOf_enrol absent]
  · intro other fresh
    obtain ⟨state, present, isFresh⟩ := since.aged other fresh
    have different : session ≠ other := fun same => settled (same ▸ fresh)
    rw [sessions_enrol, if_neg different] at present
    exact ⟨state, present, isFresh⟩
  · intro other held ⟨state, present, isFresh⟩
    have different : session ≠ other := fun same => by simp [← same, absent] at present
    refine since.guarded other held ⟨state, ?_, isFresh⟩
    rw [sessions_enrol, if_neg different, present]
  · rw [← record_enrol world session]
    exact since.grown

theorem not_isFresh_ready {state : Session H} (present : world.sessions[session]? = some state) :
    ¬ (world.ready session).IsFresh session := by
  intro fresh
  have changed := (isFresh_update present (fun state => { state with stage := .ready })
    session).mp fresh
  simp at changed

theorem ready_since {state : Session H} (present : world.sessions[session]? = some state)
    (outside : waiting.any (·.holds session) = false) :
    Since waiting world (world.ready session) := by
  have fresh := isFresh_update present fun state : Session H => { state with stage := .ready }
  refine ⟨depthOf_update_of_depth fun _ => rfl, ?_, ?_, [.ready session], ?_, ?_⟩
  · intro other isFresh
    have before := (fresh other).mp isFresh
    by_cases same : session = other
    · simp [same] at before
    · simpa [same] using before
  · intro other held isFresh
    have different : session ≠ other := fun same => by simp [← same, outside] at held
    exact (fresh other).mpr (by simpa [different] using isFresh)
  · exact record_noted world session _ _
  · exact Record.closed_singleton fun _ view => ⟨view, rfl, rfl⟩

end World

namespace Run

open World

variable {world : World σ H N}

theorem obeys_attempt (sound : world.Sound) {run : ExceptT Error (Run σ H N) α}
    {next : α → ExceptT Error (Run σ H N) β} {middle : World σ H N → Prop}
    {post : Except Error β → World σ H N → Prop}
    (first : run.run.Obeys rules (fun _ => middle) world)
    (rest : ∀ answer later, middle later → later.Sound →
      (next answer).run.Obeys rules post later)
    (failed : ∀ cause later, middle later → post (.error cause) later) :
    (run >>= next).run.Obeys rules post world := by
  rw [ExceptT.run_bind]
  refine sound.bind first fun outcome later holds sound => ?_
  cases outcome with
  | ok answer => exact rest answer later holds sound
  | error cause => exact failed cause later holds

variable {dispatch : Dispatch σ H N} (answers : Answers dispatch)
include answers

theorem obeys_listResult (engine : Engine σ) (session : SessionId) (script : String)
    {frame : Frame} {rest : List Frame} (sound : world.Sound) (secured : Secured rest world)
    (frames : world.frames = frame :: rest) (held : frame.holds session = true) :
    (listResult engine dispatch session script).run.Obeys rules (fun _ later => Kept world later)
      world := by
  unfold listResult
  refine obeys_attempt sound
    (obeys_evaluate answers engine session script sound secured frames held) ?_ ?_
  · intro text later kept sound
    rw [ExceptT.run_bind_lift]
    refine sound.bind (obeys_call (Call.emits_splitList engine session _).quiet later) ?_
    intro items last beside _
    exact kept.trans beside.kept
  · intro cause later kept
    exact kept

/-- A fresh session stays fresh until everything is prepared. -/
theorem obeys_prepare (engine : Engine σ) (session : SessionId) (safe : Bool) {frame : Frame}
    {rest : List Frame} (sound : world.Sound) (secured : Secured rest world)
    (frames : world.frames = frame :: rest) (held : frame.holds session = true)
    (fresh : world.IsFresh session) :
    (prepare engine dispatch session safe).run.Obeys rules (fun outcome later =>
      match outcome with
      | .ok _ => ∃ last state, Kept world last ∧ last.Sound ∧
          last.sessions[session]? = some state ∧ later = last.ready session
      | .error _ => Kept world later) world := by
  have unready : ∀ last, Kept world last → last.IsFresh session := by
    intro last kept
    have waiting : world.frames.any (·.holds session) = true := by simp [frames, held]
    exact kept.since.guarded session waiting fresh
  have finish : ∀ last, Kept world last → last.Sound →
      (ExceptT.lift (modify (·.ready session)) : ExceptT Error (Run σ H N) PUnit).run.Obeys rules
        (fun outcome later => match outcome with
          | .ok _ => ∃ last state, Kept world last ∧ last.Sound ∧
              last.sessions[session]? = some state ∧ later = last.ready session
          | .error _ => Kept world later) last := by
    intro last kept soundLast
    obtain ⟨state, present, isFresh⟩ := unready last kept
    exact ⟨Step.update present (Session.Change.ready state isFresh), last, state, kept, soundLast,
      present, rfl⟩
  unfold prepare
  refine obeys_attempt sound
    (obeys_listResult answers engine session _ sound secured frames held) ?_ ?_
  · intro procs first keptFirst soundFirst
    have framesFirst := keptFirst.frames.trans frames
    refine obeys_attempt soundFirst (obeys_listResult answers engine session _ soundFirst
      (keptFirst.since.secured secured) framesFirst held) ?_ ?_
    · intro vars second keptSecond soundSecond
      have before := keptFirst.trans keptSecond
      obtain ⟨state, present, isFresh⟩ := unready second before
      rw [ExceptT.run_bind_lift]
      have noted : Step second (second.update session fun state =>
          { state with builtins := some ⟨procs, vars⟩ }) :=
        Step.unrecorded present (Session.Change.snapshot state _ isFresh)
      have noting : Kept second (second.update session fun state =>
          { state with builtins := some ⟨procs, vars⟩ }) :=
        ⟨frames_update second session _, Since.of_unrecorded present (fun _ => rfl) Iff.rfl⟩
      refine obeys_modify_bind noted ?_
      have prepared := before.trans noting
      have soundThird := noted.sound soundSecond
      split
      · refine obeys_attempt soundThird (obeys_makeSafe answers engine session soundThird
          (prepared.since.secured secured) (prepared.frames.trans frames) held) ?_ ?_
        · intro _ last kept soundLast
          exact finish last (prepared.trans kept) soundLast
        · intro cause later kept
          exact prepared.trans kept
      · exact finish _ prepared soundThird
    · intro cause later kept
      exact keptFirst.trans kept
  · intro cause later kept
    exact kept

omit answers in
theorem obeys_allocate (engine : Engine σ) (sound : world.Sound) :
    (allocate engine).Obeys rules (fun outcome later =>
      match outcome with
      | .ok session => ∃ between, Kept world between ∧ between.Sound ∧
          between.sessions[session]? = none ∧ Beside (between.enrol session) later
      | .error _ => Kept world later) world := by
  unfold allocate
  refine obeys_get_bind ?_
  have counted : Step world { world with created := world.created + 1 } := by
    refine Step.handled rfl rfl (Nat.le_succ _) sound (fun _ => Or.inl) fun session held => ?_
    exact sound.held session (by simp [holds, held])
  have counting : Kept world { world with created := world.created + 1 } :=
    ⟨rfl, Since.of_sessions rfl (List.append_nil _).symm (Record.closed_of_silent (by simp))⟩
  refine obeys_modify_bind counted ?_
  refine (counted.sound sound).bind (obeys_call ((Call.emits_create engine _).lone rfl) _) ?_
  intro granted created besideCreate soundCreated
  split
  · exact counting.trans besideCreate.kept
  · refine soundCreated.bind (obeys_discard (obeys_call ((Call.emits_init engine _).lone rfl) created)) ?_
    intro _ initialised besideInit soundInit
    refine soundInit.bind (obeys_call ((Call.emits_preserve engine _).lone rfl) initialised) ?_
    intro _ between besidePreserve soundBetween
    have beside := (besideCreate.trans besideInit).trans besidePreserve
    have absent : between.sessions[world.created]? = none := by
      rw [beside.sessions]
      cases present : world.sessions[world.created]? with
      | none => rfl
      | some state => exact absurd (sound.known _ state present) (Nat.lt_irrefl _)
    have unknown : ∀ event ∈ between.record, event.session? ≠ some world.created := by
      intro event member about
      obtain ⟨entries, grown, silent⟩ := beside.grown
      rw [grown, List.mem_append] at member
      rcases member with earlier | latest
      · exact absurd (sound.recorded event earlier _ about) (Nat.lt_irrefl _)
      · simp [silent event latest] at about
    have below : world.created < between.created := by
      rw [beside.same]
      exact Nat.lt_succ_self _
    have enrolled := Step.enrol between world.created absent below unknown
    refine obeys_modify_bind enrolled ?_
    refine (enrolled.sound soundBetween).bind
      (obeys_call ((Call.emits_createCommand engine _ _).lone rfl) _) ?_
    intro _ later besideCommand _
    exact ⟨between, counting.trans beside.kept, soundBetween, absent, besideCommand⟩

/-- A session that is handed out is ready, and nobody else has come by it. One that cannot be made
ready is gone. -/
theorem obeys_handOut (engine : Engine σ) (safe : Bool) {between : World σ H N}
    {session : SessionId} {caller : Option SessionId} {kept : List SessionId} {rest : List Frame}
    (soundBetween : between.Sound) (secured : Secured rest between)
    (frames : between.frames = ⟨caller, kept⟩ :: rest)
    (absent : between.sessions[session]? = none)
    (beside : Beside (between.enrol session) world) (sound : world.Sound) :
    (handOut engine dispatch session safe).Obeys rules (fun outcome later =>
      Since (⟨caller, kept⟩ :: rest) between later ∧
        match outcome with
        | .ok given => later.frames = ⟨caller, given :: kept⟩ :: rest ∧ ¬ later.IsFresh given ∧
            ({ later with frames := ⟨caller, kept⟩ :: rest } : World σ H N).holds given = false
        | .error _ => later.frames = ⟨caller, kept⟩ :: rest) world := by
  have framesOpen : world.frames = ⟨caller, session :: kept⟩ :: rest :=
    beside.frames.trans (frames_enrol frames session)
  have securedOpen : Secured rest world := by
    intro other running
    rw [depthOf, beside.sessions, ← depthOf, depthOf_enrol absent] at running
    exact secured other running
  have isFresh : world.IsFresh session :=
    (IsFresh.of_sessions beside.sessions).mpr (isFresh_enrol between session)
  have outside : (⟨caller, kept⟩ :: rest : List Frame).any (·.holds session) = false := by
    have unheld := soundBetween.absent absent
    rw [holds, Bool.or_eq_false_iff, frames] at unheld
    exact unheld.2
  have fewer : ∀ other, (⟨caller, kept⟩ :: rest : List Frame).any (·.holds other) = true →
      world.frames.any (·.holds other) = true := by
    intro other held
    simp only [framesOpen, List.any_cons, Frame.holds, Bool.or_eq_true,
      List.contains_cons] at held ⊢
    grind
  have opened : ∀ last, Since (⟨caller, kept⟩ :: rest) world last →
      ¬ last.IsFresh session → Since (⟨caller, kept⟩ :: rest) between last :=
    fun last since settled => (beside.since.trans since).of_enrol absent settled
  -- Nobody else can hold a fresh session.
  have offDesk : ∀ last, Kept world last → last.Sound → last.desk.holds session = false := by
    intro last kept soundLast
    refine Bool.eq_false_iff.mpr fun held => soundLast.settled session held ?_
    refine kept.since.guarded session ?_ isFresh
    simp [framesOpen, Frame.holds]
  unfold handOut
  refine sound.bind (obeys_prepare answers engine session safe sound securedOpen framesOpen
    (by simp [Frame.holds]) isFresh) ?_
  rintro (cause | _) prepared outcome soundPrepared
  · have framesPrepared := outcome.frames.trans framesOpen
    refine soundPrepared.bind (obeys_letGo answers engine soundPrepared
      (outcome.since.secured securedOpen) framesPrepared) ?_
    rintro _ last ⟨framesLast, since, gone⟩ _
    have settled := gone (offDesk prepared outcome soundPrepared) outside
    exact ⟨opened last ((outcome.since.mono fewer).trans since) settled, framesLast⟩
  · obtain ⟨last, state, keptLast, soundLast, present, rfl⟩ := outcome
    have ready := ready_since present outside
    have settled := not_isFresh_ready present
    refine ⟨opened _ ((keptLast.since.mono fewer).trans ready) settled, ?_, settled, ?_⟩
    · exact (frames_update last session _).trans (keptLast.frames.trans framesOpen)
    · have desk : (last.ready session).desk = last.desk := desk_update last session _
      rw [holds, desk, offDesk last keptLast soundLast, outside, Bool.or_false]

theorem obeys_openSession (setup : Setup σ H N) (config : Config) {caller : Option SessionId}
    {kept : List SessionId} {rest : List Frame} (sound : world.Sound)
    (secured : Secured rest world) (frames : world.frames = ⟨caller, kept⟩ :: rest) :
    (openSession setup dispatch config).Obeys rules (fun outcome later =>
      Since (⟨caller, kept⟩ :: rest) world later ∧
        match outcome with
        | .ok session =>
            later.frames = ⟨caller, session :: kept⟩ :: rest ∧ ¬ later.IsFresh session ∧
              ({ later with frames := ⟨caller, kept⟩ :: rest } : World σ H N).holds session = false
        | .error _ => later.frames = ⟨caller, kept⟩ :: rest) world := by
  unfold openSession
  refine obeys_get_bind ?_
  generalize world.library.load setup.libraries config = loaded
  obtain ⟨outcome, library⟩ := loaded
  have noted : Step world { world with library } := by
    refine Step.handled rfl rfl (Nat.le_refl _) sound (fun _ => Or.inl) fun session held => ?_
    exact sound.held session (by simp [holds, held])
  have noting : Kept world { world with library } :=
    ⟨rfl, Since.of_sessions rfl (List.append_nil _).symm (Record.closed_of_silent (by simp))⟩
  refine obeys_modify_bind noted ?_
  cases outcome with
  | error cause => exact ⟨frames ▸ noting.since, frames⟩
  | ok path =>
      refine (noted.sound sound).bind (obeys_allocate setup.engine (noted.sound sound)) ?_
      rintro (cause | session) later allocated soundLater
      · have failed := noting.trans allocated
        exact ⟨frames ▸ failed.since, failed.frames.trans frames⟩
      · obtain ⟨between, before, soundBetween, absent, beside⟩ := allocated
        have waited := noting.trans before
        refine (obeys_handOut answers setup.engine config.safe soundBetween
          (waited.since.secured secured) (waited.frames.trans frames) absent beside
          soundLater).weaken ?_
        rintro outcome last ⟨since, handed⟩
        have earlier : Since (⟨caller, kept⟩ :: rest) world between := frames ▸ waited.since
        exact ⟨earlier.trans since, handed⟩

end Run

end TclHost
