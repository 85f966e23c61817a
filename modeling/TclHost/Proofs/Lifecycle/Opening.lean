import TclHost.Proofs.Lifecycle.Care

/-!
Scripts are evaluated and sessions are opened with care. A session that is being opened is known to
nobody but the program that opens it, and so is taken down if that fails.
-/

namespace TclHost

variable {σ H N α β : Type}

namespace World

variable {interp session : InterpId} {world later : World (Audited σ) H N} {phase next stage : Phase}

/-- The interpreter of this session is being opened and has come to the stage, or it is another one
or astray, and attended to. -/
def Opening (interp session : InterpId) (stage phase : Phase) (world : World (Audited σ) H N) :
    Prop :=
  (session = interp ∧ phase = .absent ∧ world.phase? interp = some stage ∧
      (world.Present interp → stage.Open)) ∨
    ((session = interp → phase = .astray) ∧ world.Attended interp phase)

theorem visits_enrol (world : World (Audited σ) H N) (session : SessionId) :
    (world.enrol session).visits = world.visits := by
  rw [enrol, keep_eq]
  rfl

theorem desk_enrol (world : World (Audited σ) H N) (session : SessionId) :
    (world.enrol session).desk = world.desk ∧
      (world.enrol session).created = world.created := by
  rw [enrol, keep_eq]
  exact ⟨rfl, rfl⟩

theorem Opening.enrol {caller : Option SessionId} {kept : List SessionId} {rest : List Frame}
    (opening : world.Opening interp session .preserved phase)
    (frames : world.frames = ⟨caller, kept⟩ :: rest) :
    world.Heeds interp (world.enrol session) ∧
      (world.enrol session).Opening interp session .preserved phase := by
  have same := visits_enrol world session
  rcases opening with ⟨own, absent, known, _⟩ | ⟨aloof, attended⟩
  · have knownLater : (world.enrol session).phase? interp = some .preserved :=
      (congrArg (Audited.phase? interp) same).trans known
    exact ⟨⟨⟨.preserved, knownLater, fun _ => trivial⟩, fun _ _ => .inl same⟩,
      .inl ⟨own, absent, knownLater, fun _ => trivial⟩⟩
  · have knownLater : (world.enrol session).phase? interp = some phase :=
      (congrArg (Audited.phase? interp) same).trans attended.known
    have suits : (world.enrol session).Suits interp ((world.enrol session).holds interp = true)
        phase := by
      by_cases own : session = interp
      · rw [aloof own]
        trivial
      · refine attended.suits.mono ?_ (Nat.le_of_eq (desk_enrol world session).2.symm) ?_ ?_
        · exact fun present => ((present_enrol world).mp present).resolve_left own
        · rw [holds, holds, (desk_enrol world session).1, frames_enrol frames, frames]
          simp only [List.any_cons, Frame.holds, Bool.or_eq_true, List.contains_cons]
          grind
        · rw [frames_enrol frames, frames]
          simp only [List.any_cons, Frame.holds, Bool.or_eq_true, List.contains_cons]
          grind
    have after : (world.enrol session).Attended interp phase := ⟨knownLater, suits⟩
    exact ⟨attended.heeds after, .inr ⟨aloof, after⟩⟩

theorem Attended.exists_entered (attended : world.Attended interp phase) (sound : world.Sound)
    (held : world.frames.any (·.holds session) = true) :
    ∃ inside, phase.follow interp (session, .enter) = some inside ∧
      world.Suits interp (world.holds interp = true) inside ∧
      (session = interp → inside.Leaves .leave) ∧
      ∀ (next : Phase) (later : World (Audited σ) H N), inside.Yields next →
        later.frames = world.frames →
        later.Suits interp (later.holds interp = true) next →
          ∃ last, next.follow interp (session, .leave) = some last ∧ phase.Yields last ∧
            later.Suits interp (later.holds interp = true) last := by
  by_cases own : session = interp
  · subst own
    simp only [Phase.follow_self]
    have present : world.Present session := sound.held session (by simp [holds, held])
    rcases attended.suits.opens present with ⟨calls, rfl⟩ | rfl
    · refine ⟨.alive (calls + 1), by cases calls <;> rfl, ⟨attended.suits.1, fun _ => held⟩,
        fun _ => .inl ⟨calls, rfl, rfl⟩, ?_⟩
      rintro next later yields frames suits
      rcases yields with rfl | same
      · exact ⟨.astray, rfl, .inl rfl, trivial⟩
      · obtain rfl := same (.inl trivial)
        refine ⟨.alive calls, rfl, Phase.yields_refl _, suits.1, fun busy => ?_⟩
        rw [frames]
        exact attended.suits.2 busy
    · refine ⟨.astray, rfl, trivial, fun _ => .inr (.inr rfl), ?_⟩
      rintro next later yields _ _
      obtain rfl := yields.astray rfl
      exact ⟨.astray, rfl, .inl rfl, trivial⟩
  · refine ⟨phase, Phase.follow_of_ne own _ _, attended.suits, fun same => absurd same own, ?_⟩
    exact fun next later yields _ suits => ⟨next, Phase.follow_of_ne own _ _, yields, suits⟩

end World

namespace Run

open World

variable {interp session : InterpId} {phase stage : Phase} {world : World (Audited σ) H N}
  {dispatch : Dispatch (Audited σ) H N} {engine : Engine σ}

theorem cares_complete (attended : world.Attended interp phase) (session : SessionId)
    (depth : Nat) (code : Int) : (complete session depth code).Cares interp
      (fun _ later => world.Upheld interp phase later phase) world := by
  unfold complete
  refine cares_get_bind attended.still ?_
  split
  · exact (attended.noted session Session.terminate (fun _ => rfl)
      (.completed session code)).attended.not_due
  · have settled := attended.noted session _ (Session.commands_settle depth (Completion.ofCode code))
      (.completed session code)
    exact fun _ => ⟨attended.heeds settled.attended, settled⟩

theorem cares_result (attended : world.Attended interp phase)
    (present : session = interp → world.Present interp) :
    (Run.call (Call.result engine.audited session)).Cares interp
      (fun _ later => world.Upheld interp phase later phase) world :=
  cares_call (Call.visits_result engine) attended fun own => (attended.usable (present own)).1

theorem cares_evaluationResult (attended : world.Attended interp phase)
    (present : session = interp → world.Present interp) (completion : Completion) :
    (evaluationResult engine.audited session completion).Cares interp
      (fun _ later => world.Upheld interp phase later phase) world := by
  have asked : (Run.call (Call.result engine.audited session)).Cares interp
      (fun _ later => world.Upheld interp phase later phase) world := cares_result attended present
  cases completion with
  | success | error => exact Process.follows_bind.mpr asked
  | other code => exact attended.refl

variable (attends : Attends interp dispatch)
include attends

/-- The library is entered and left again. -/
theorem cares_enter {reaction : Reaction σ} (sound : world.Sound)
    (attended : world.Attended interp phase)
    (held : world.frames.any (·.holds session) = true) :
    (follow dispatch (reaction.audited session .leave
        (world.scene.store.visits ++ [(session, .enter)]))).Cares interp
      (fun _ later => ∃ next, world.Upheld interp phase later next) world := by
  obtain ⟨inside, entered, suits, leaves, leaving⟩ := attended.exists_entered sound held
  refine (cares_follow attends sound ((Audited.phase?_concat attended.known _).trans entered) suits
    leaves fun visit due => absurd due (attended.not_due visit)).weaken sound ?_
  rintro _ later ⟨next, returned⟩ _
  obtain ⟨last, left, yields, suitsLast⟩ :=
    leaving next later returned.yields returned.frames returned.suits
  exact ⟨last, ⟨yields, ⟨returned.known.trans left, suitsLast⟩, returned.hidden⟩, returned.frames⟩

section Held

variable (held : world.frames.any (·.holds session) = true)
include held

theorem cares_evaluate (attended : world.Attended interp phase)
    (script : String) : (evaluate engine.audited dispatch session script).Cares interp
      (fun _ later => ∃ next, world.Upheld interp phase later next) world := by
  unfold evaluate
  generalize Text.encode script = bytes
  have begun : world.Upheld interp phase (world.begin session bytes) phase :=
    attended.noted session Session.enter (fun _ => rfl) (.evaluate session bytes)
  refine cares_modify_bind (attended.heeds begun.attended) fun soundBegun => ?_
  refine cares_get_bind begun.attended.still (cares_store_bind begun.attended.still ?_)
  refine cares_bind (cares_enter attends soundBegun begun.attended (begun.frames ▸ held))
    soundBegun ?_
  rintro code later ⟨next, upheld⟩ soundLater
  refine cares_bind (cares_complete upheld.attended session _ code) soundLater ?_
  intro _ completed upheldCompleted soundCompleted
  have before := (begun.trans upheld).trans upheldCompleted
  have present : session = interp → completed.Present interp := by
    rintro rfl
    exact soundCompleted.held session (by simp [holds, before.frames, held])
  refine cares_bind (cares_evaluationResult upheldCompleted.attended present _)
    soundCompleted ?_
  intro answer last upheldLast _
  have left : last.Upheld interp next (last.leave session) next :=
    upheldLast.attended.noted session Session.leave (fun _ => rfl) (.returned session)
  exact cares_modify_bind (upheldLast.attended.heeds left.attended)
    fun _ => ⟨next, before.trans (upheldLast.trans left)⟩

theorem cares_makeSafe (sound : world.Sound) (attended : world.Attended interp phase) :
    (makeSafe engine.audited dispatch session).Cares interp
      (fun _ later => ∃ next, world.Upheld interp phase later next) world := by
  unfold makeSafe
  refine cares_get_bind attended.still ?_
  split
  · exact ⟨phase, attended.refl⟩
  · refine cares_bind (cares_emit attended (.makeSafe session)) sound ?_
    intro _ asked upheldAsked soundAsked
    refine cares_store_bind upheldAsked.attended.still ?_
    refine cares_bind (cares_enter attends soundAsked upheldAsked.attended
      (upheldAsked.frames ▸ held)) soundAsked ?_
    rintro code later ⟨next, upheld⟩ _
    have restricted : later.Upheld interp next (later.restrict session code) next :=
      upheld.attended.noted session (fun state => { state with safe := state.safe || code = 0 })
        (fun _ => rfl) (.restricted session code)
    have before := upheldAsked.trans (upheld.trans restricted)
    refine cares_modify_bind (upheld.attended.heeds restricted.attended) fun soundRestricted => ?_
    split
    · have present : session = interp → (later.restrict session code).Present interp := by
        rintro rfl
        exact soundRestricted.held session (by simp [holds, before.frames, held])
      refine cares_bind (cares_result restricted.attended present) soundRestricted ?_
      exact fun _ last upheldLast _ => ⟨next, before.trans upheldLast⟩
    · exact ⟨next, before⟩

omit attends held in
theorem cares_attempt {run : ExceptT Error (Run (Audited σ) H N) α}
    {next : α → ExceptT Error (Run (Audited σ) H N) β}
    (first : run.run.Cares interp
      (fun _ later => ∃ next, world.Upheld interp phase later next) world)
    (sound : world.Sound)
    (rest : ∀ answer later middle, world.Upheld interp phase later middle → later.Sound →
      (next answer).run.Cares interp
        (fun _ last => ∃ final, later.Upheld interp middle last final) later) :
    (run >>= next).run.Cares interp
      (fun _ later => ∃ next, world.Upheld interp phase later next) world := by
  rw [ExceptT.run_bind]
  refine cares_bind first sound ?_
  rintro (cause | answer) later ⟨middle, upheld⟩ soundLater
  · exact ⟨middle, upheld⟩
  · refine (rest answer later middle upheld soundLater).weaken soundLater ?_
    exact fun _ last ⟨final, upheldLast⟩ _ => ⟨final, upheld.trans upheldLast⟩

theorem cares_listResult (sound : world.Sound) (attended : world.Attended interp phase)
    (script : String) : (listResult engine.audited dispatch session script).run.Cares interp
      (fun _ later => ∃ next, world.Upheld interp phase later next) world := by
  unfold listResult
  refine cares_attempt (cares_evaluate attends held attended script) sound ?_
  intro text later next upheld soundLater
  have present : session = interp → later.Present interp := by
    rintro rfl
    exact soundLater.held session (by simp [holds, upheld.frames, held])
  rw [ExceptT.run_bind_lift]
  refine cares_bind (cares_call (Call.visits_splitList engine _) upheld.attended
    fun own => (upheld.attended.usable (present own)).1) soundLater ?_
  exact fun _ last upheldLast _ => ⟨next, upheldLast⟩

theorem cares_prepare (sound : world.Sound) (attended : world.Attended interp phase)
    (safe : Bool) : (prepare engine.audited dispatch session safe).run.Cares interp
      (fun _ later => ∃ next, world.Upheld interp phase later next) world := by
  have finish : ∀ {last : World (Audited σ) H N} {final : Phase}, last.Attended interp final →
      (ExceptT.lift (modify (·.ready session)) :
        ExceptT Error (Run (Audited σ) H N) PUnit).run.Cares interp
        (fun _ later => ∃ next, last.Upheld interp final later next) last := by
    intro last final attendedLast
    have ready : last.Upheld interp final (last.ready session) final :=
      attendedLast.noted session (fun state => { state with stage := .ready }) (fun _ => rfl)
        (.ready session)
    exact fun _ => ⟨attendedLast.heeds ready.attended, final, ready⟩
  unfold prepare
  refine cares_attempt (cares_listResult attends held sound attended _) sound ?_
  intro procs first next upheldFirst soundFirst
  have heldFirst := upheldFirst.frames ▸ held
  refine cares_attempt (cares_listResult attends heldFirst soundFirst upheldFirst.attended _)
    soundFirst ?_
  intro vars second middle upheldSecond _
  rw [ExceptT.run_bind_lift]
  have noted : second.Upheld interp middle (second.update session fun state =>
      { state with builtins := some ⟨procs, vars⟩ }) middle :=
    upheldSecond.attended.update session _ fun _ => rfl
  refine cares_modify_bind (upheldSecond.attended.heeds noted.attended) fun soundNoted => ?_
  have heldNoted := (upheldSecond.trans noted).frames ▸ heldFirst
  split
  · refine (cares_attempt (cares_makeSafe attends heldNoted soundNoted noted.attended) soundNoted
      fun _ last final upheldLast _ => finish upheldLast.attended).weaken soundNoted ?_
    exact fun _ last ⟨final, upheldLast⟩ _ => ⟨final, noted.trans upheldLast⟩
  · refine (finish noted.attended).weaken soundNoted ?_
    exact fun _ last ⟨final, upheldLast⟩ _ => ⟨final, noted.trans upheldLast⟩

end Held

omit attends

/-! Opening sessions. -/

/-- The interpreter that is being opened is brought to its next stage. -/
theorem cares_opening_bind {call : Call (Audited σ) N α} {next : α → Run (Audited σ) H N β}
    {post : β → World (Audited σ) H N → Prop} (reached : Phase) (visit : Visit)
    (opening : world.Opening interp session stage phase)
    (grown : (call.run world.scene).2.store.visits = world.visits ++ [(session, visit)])
    (visited : stage.next visit = some reached)
    (due : ∀ held other, stage.due? held = some other → other = visit)
    (opens : session = interp → world.Present interp → reached.Open)
    (rest : ∀ scene, ({ world with scene } : World (Audited σ) H N).Sound →
      ({ world with scene } : World (Audited σ) H N).Opening interp session reached phase →
        (next (call.run world.scene).1).Cares interp post { world with scene }) :
    (Run.call call >>= next).Cares interp post world := by
  intro sound
  rcases opening with ⟨rfl, absent, known, _⟩ | ⟨aloof, attended⟩
  · have knownLater : Audited.phase? session (call.run world.scene).2.store.visits =
        some reached := by
      rw [grown]
      exact (Audited.phase?_concat known _).trans ((Phase.follow_self ..).trans visited)
    refine ⟨⟨⟨reached, knownLater, opens rfl⟩, ?_⟩,
      rest _ sound (.inl ⟨rfl, absent, knownLater, opens rfl⟩)⟩
    rintro other ⟨found, same, next⟩
    cases known.symm.trans same
    exact .inr ⟨[], due _ other next ▸ grown⟩
  · have knownLater : Audited.phase? interp (call.run world.scene).2.store.visits =
        some phase := by
      rw [grown]
      exact (Audited.phase?_concat attended.known _).trans (Phase.follow_aloof aloof visit)
    have after := (attended.scene knownLater).attended
    exact ⟨attended.heeds after, rest _ sound (.inr ⟨aloof, after⟩)⟩

theorem not_present_created (sound : world.Sound) : ¬ world.Present world.created := by
  rintro ⟨state, present⟩
  exact Nat.lt_irrefl _ (sound.known _ state present)

theorem unheld_created (sound : world.Sound) : world.holds world.created = false := by
  refine sound.absent ?_
  cases present : world.sessions[world.created]? with
  | none => rfl
  | some state => exact absurd ⟨state, present⟩ (not_present_created sound)

theorem opening_created (sound : world.Sound) (attended : world.Attended interp phase) :
    ({ world with created := world.created + 1 } : World (Audited σ) H N).Opening interp
      world.created .absent phase := by
  by_cases own : world.created = interp ∧ phase = .absent
  · obtain ⟨rfl, rfl⟩ := own
    exact .inl ⟨rfl, rfl, attended.known, fun present => absurd present (not_present_created sound)⟩
  · refine .inr ⟨fun same => ?_, attended.aside rfl id (Nat.le_succ _) rfl rfl⟩
    have suits := attended.suits
    subst same
    cases phase with
    | absent => exact absurd ⟨rfl, rfl⟩ own
    | astray => rfl
    | refused | deleting | released => exact absurd suits.2 (Nat.lt_irrefl _)
    | alive calls => exact absurd (sound.held _ suits.1) (not_present_created sound)
    | created | initialised | preserved | deleted => exact suits.elim

theorem cares_discard_bind {run : Run (Audited σ) H N α} {next : PUnit → Run (Audited σ) H N β}
    {post : β → World (Audited σ) H N → Prop}
    (cares : (run >>= fun _ => next ⟨⟩).Cares interp post world) :
    (discard run >>= next).Cares interp post world := by
  rwa [show discard run >>= next = run >>= fun _ => next ⟨⟩ from
    bind_assoc run (fun _ => (pure ⟨⟩ : Run (Audited σ) H N PUnit)) next]

theorem frames_enrolled {caller : Option SessionId} {kept : List SessionId} {rest : List Frame}
    (frames : world.frames = ⟨caller, kept⟩ :: rest) (scene : Scene (Audited σ) N) :
    (({ world with created := world.created + 1, scene } : World (Audited σ) H N).enrol
      world.created).frames = ⟨caller, world.created :: kept⟩ :: rest := by
  have given : ({ world with created := world.created + 1, scene } : World (Audited σ) H N).frames =
      ⟨caller, kept⟩ :: rest := frames
  exact frames_enrol given world.created

/-- The session is known to nobody when it is added, and others stay as hidden as they were. -/
theorem hidden_enrolled (sound : world.Sound) (interp : InterpId)
    (first last : Scene (Audited σ) N) :
    (world.Hidden interp → ({ ({ world with created := world.created + 1, scene := first } :
        World (Audited σ) H N).enrol world.created with scene := last } :
          World (Audited σ) H N).Hidden interp) ∧
      (interp = world.created →
        ({ ({ world with created := world.created + 1, scene := first } :
          World (Audited σ) H N).enrol world.created with scene := last } :
            World (Audited σ) H N).Hidden interp) := by
  generalize base : ({ world with created := world.created + 1, scene := first } :
    World (Audited σ) H N) = given
  obtain ⟨desk, created⟩ := desk_enrol given world.created
  constructor
  · intro hidden
    have different : world.created ≠ interp := (Nat.ne_of_lt hidden.asked).symm
    refine hidden.aside ?_ ?_ fun state present => ⟨state, ?_, rfl⟩
    · change world.created ≤ (given.enrol world.created).created
      rw [created, ← base]
      exact Nat.le_succ _
    · exact desk.trans (by rw [← base])
    · change (given.enrol world.created).sessions[interp]? = some state at present
      rw [sessions_enrol, if_neg different, ← base] at present
      exact present
  · rintro rfl
    have unheld := unheld_created sound
    rw [holds, Bool.or_eq_false_iff] at unheld
    refine ⟨?_, ?_, fun state present => ?_⟩
    · change world.created < (given.enrol world.created).created
      rw [created, ← base]
      exact Nat.lt_succ_self _
    · change (given.enrol world.created).desk.holds world.created = false
      rw [desk, ← base]
      exact unheld.1
    · change (given.enrol world.created).sessions[world.created]? = some state at present
      rw [sessions_enrol, if_pos rfl] at present
      cases present
      rfl

theorem cares_allocate (sound : world.Sound) (attended : world.Attended interp phase)
    {caller : Option SessionId} {kept : List SessionId} {rest : List Frame}
    (frames : world.frames = ⟨caller, kept⟩ :: rest) :
    (allocate engine.audited).Cares interp (fun outcome later =>
      ∃ next, world.Spared interp phase later next ∧
        match outcome with
        | .ok session => session = world.created ∧ (interp = session → later.Hidden interp) ∧
            later.frames = ⟨caller, session :: kept⟩ :: rest
        | .error _ => later.frames = ⟨caller, kept⟩ :: rest ∧
            (interp = world.created → ¬ later.Present interp)) world := by
  have gone : world.created = interp → ¬ world.Present interp := by
    rintro rfl
    exact not_present_created sound
  unfold allocate
  refine cares_get_bind attended.still ?_
  have counted : world.Heeds interp { world with created := world.created + 1 } :=
    ⟨⟨phase, attended.known, attended.suits.isOpen⟩,
      fun visit due => absurd due (attended.not_due visit)⟩
  refine cares_modify_bind counted fun _ => ?_
  refine cares_opening_bind _ (.create (engine.create world.created world.scene.store.store).1)
    (opening_created sound attended) rfl rfl (fun _ _ due => by cases due)
    (fun own present => absurd present (gone own)) ?_
  intro asked soundAsked openingAsked
  split
  · rename_i refused
    have refused : (engine.create world.created world.scene.store.store).1 = false :=
      (Bool.not_eq_true' _).mp refused
    rw [refused] at openingAsked
    have hidden : world.Hidden interp → ({ world with
        created := world.created + 1, scene := asked } : World (Audited σ) H N).Hidden interp :=
      fun hidden => hidden.aside (Nat.le_succ _) rfl fun state present => ⟨state, present, rfl⟩
    rcases openingAsked with ⟨own, rfl, known, _⟩ | ⟨_, attendedAsked⟩
    · refine ⟨.refused, ⟨.inr ?_, ⟨known, gone own, own ▸ Nat.lt_succ_self _⟩, hidden⟩, frames,
        fun same => gone same.symm⟩
      rintro (busy | busy) <;> cases busy
    · exact ⟨phase, ⟨phase.yields_refl, attendedAsked, hidden⟩, frames,
        fun same => gone same.symm⟩
  · rename_i granted
    have granted : (engine.create world.created world.scene.store.store).1 = true := by
      cases given : (engine.create world.created world.scene.store.store).1 with
      | true => rfl
      | false => exact absurd (congrArg not given) granted
    rw [granted] at openingAsked
    refine cares_discard_bind (cares_opening_bind .initialised .init openingAsked rfl rfl
      (fun _ _ due => (Option.some.inj due).symm) (fun own present => absurd present (gone own)) ?_)
    intro initialised _ openingInit
    refine cares_opening_bind .preserved .preserve openingInit rfl rfl
      (fun _ _ due => (Option.some.inj due).symm) (fun _ _ => trivial) ?_
    intro preserved _ openingPreserved
    obtain ⟨heeds, openingEnrolled⟩ := openingPreserved.enrol frames
    refine cares_modify_bind heeds fun _ => ?_
    refine cares_opening_bind (.alive 0) .command openingEnrolled rfl rfl
      (fun _ _ due => (Option.some.inj due).symm) (fun _ _ => trivial) ?_
    intro commanded _ openingLast
    obtain ⟨hidden, fresh⟩ := hidden_enrolled sound interp preserved commanded
    have framesLast := frames_enrolled frames preserved
    rcases openingLast with ⟨rfl, rfl, known, _⟩ | ⟨_, attendedLast⟩
    · refine ⟨.alive 0, ⟨.inr ?_, ⟨known, ?_, fun busy => absurd busy (Nat.lt_irrefl 0)⟩, hidden⟩,
        rfl, fresh, framesLast⟩
      · rintro (busy | busy) <;> cases busy
      · simp [holds, framesLast, Frame.holds]
    · exact ⟨phase, ⟨phase.yields_refl, attendedLast, hidden⟩, rfl, fresh, framesLast⟩

variable {caller : Option SessionId} {kept : List SessionId} {rest : List Frame}
  (attends : Attends interp dispatch)
include attends

theorem cares_handOut (sound : world.Sound) (attended : world.Attended interp phase)
    (frames : world.frames = ⟨caller, session :: kept⟩ :: rest)
    (outer : ∀ calls, phase = .alive (calls + 1) → rest.any (·.holds interp) = true)
    (fresh : interp = session → world.Hidden interp ∧
      (⟨caller, kept⟩ :: rest : List Frame).any (·.holds interp) = false) (safe : Bool) :
    (handOut engine.audited dispatch session safe).Cares interp (fun outcome later =>
      ∃ next, world.Spared interp phase later next ∧
        match outcome with
        | .ok given => given = session ∧ (interp = given → later.Hidden interp) ∧
            later.frames = ⟨caller, given :: kept⟩ :: rest
        | .error _ => later.frames = ⟨caller, kept⟩ :: rest ∧
            (interp = session → next = .astray ∨ ¬ later.Present interp)) world := by
  have held : world.frames.any (·.holds session) = true := by
    simp [frames, Frame.holds]
  unfold handOut
  refine cares_bind (cares_prepare attends held sound attended safe) sound ?_
  rintro (cause | _) prepared ⟨next, upheld⟩ soundPrepared
  · refine cares_bind (cares_letGo attends soundPrepared (upheld.frames.trans frames)
      upheld.attended fun calls busy => outer calls (upheld.yields.eq_of_alive busy))
      soundPrepared ?_
    rintro _ last ⟨final, spared, framesLast, gone⟩ _
    refine ⟨final, upheld.toSpared.trans spared, framesLast, fun own => ?_⟩
    exact gone own.symm (upheld.hidden (fresh own).1).offDesk (fresh own).2
  · exact ⟨next, upheld.toSpared, rfl, fun own => upheld.hidden (fresh own).1,
      upheld.frames.trans frames⟩

omit attends in
theorem outside_created (sound : world.Sound) : world.frames.any (·.holds world.created) = false := by
  have unheld := unheld_created sound
  rw [holds, Bool.or_eq_false_iff] at unheld
  exact unheld.2

/-- A session is handed out to one program only. If it cannot be, then its interpreter is not used
any more. -/
theorem cares_openSession {setup : Setup σ H N} (sound : world.Sound)
    (attended : world.Attended interp phase) (frames : world.frames = ⟨caller, kept⟩ :: rest)
    (outer : ∀ calls, phase = .alive (calls + 1) → rest.any (·.holds interp) = true)
    (config : Config) :
    (openSession setup.audited dispatch config).Cares interp
      (fun outcome later => ∃ next, world.Spared interp phase later next ∧
        match outcome with
        | .ok given => given = world.created ∧ (interp = given → later.Hidden interp) ∧
            later.frames = ⟨caller, given :: kept⟩ :: rest
        | .error _ => later.frames = ⟨caller, kept⟩ :: rest ∧
            (interp = world.created → next = .astray ∨ ¬ later.Present interp)) world := by
  unfold openSession
  refine cares_get_bind attended.still ?_
  generalize world.library.load _ config = loaded
  obtain ⟨outcome, library⟩ := loaded
  have noted : ({ world with library } : World (Audited σ) H N).Attended interp phase :=
    attended.aside rfl id (Nat.le_refl _) rfl rfl
  have hidden : world.Hidden interp →
      ({ world with library } : World (Audited σ) H N).Hidden interp :=
    fun hidden => hidden.aside (Nat.le_refl _) rfl fun state present => ⟨state, present, rfl⟩
  refine cares_modify_bind (attended.heeds noted) fun soundNoted => ?_
  cases outcome with
  | error cause =>
      refine ⟨phase, ⟨phase.yields_refl, noted, hidden⟩, frames, ?_⟩
      rintro rfl
      exact .inr (not_present_created soundNoted)
  | ok path =>
      refine cares_bind (cares_allocate soundNoted noted frames) soundNoted ?_
      rintro (cause | session) later ⟨next, spared, allocated⟩ soundLater
      · exact ⟨next, ⟨spared.yields, spared.attended, spared.hidden ∘ hidden⟩, allocated.1,
          fun own => .inr (allocated.2 own)⟩
      · obtain ⟨rfl, fresh, framesLater⟩ := allocated
        have alone : interp = world.created → later.Hidden interp ∧
            (⟨caller, kept⟩ :: rest : List Frame).any (·.holds interp) = false := by
          rintro rfl
          exact ⟨fresh rfl, frames ▸ outside_created sound⟩
        refine (cares_handOut attends soundLater spared.attended framesLater
          (fun calls busy => outer calls (spared.yields.eq_of_alive busy)) alone config.safe).weaken
          soundLater ?_
        rintro (cause | given) last ⟨final, sparedLast, handed⟩ _
        · exact ⟨final, ⟨spared.yields.trans sparedLast.yields, sparedLast.attended,
            sparedLast.hidden ∘ spared.hidden ∘ hidden⟩, handed⟩
        · exact ⟨final, ⟨spared.yields.trans sparedLast.yields, sparedLast.attended,
            sparedLast.hidden ∘ spared.hidden ∘ hidden⟩, handed⟩

end Run

end TclHost
