import TclHost.Host.ScriptFile
import TclHost.Proofs.Lifecycle.Requests
import TclHost.Proofs.Run.Request

/-!
Every run takes care of every interpreter from the call that creates it to the one that releases
it, and of those that could not be handed out.
-/

namespace TclHost

variable {σ H N α β : Type}

namespace Run

open World

variable {interp session : InterpId} {phase : Phase} {world : World (Audited σ) H N}
  {dispatch : Dispatch (Audited σ) H N} {setup : Setup σ H N} {caller : Option SessionId}
  {rest : List Frame}

section Callbacks

variable (attends : Attends interp dispatch)
include attends

theorem cares_program (program : Host H N α) (sound : world.Sound)
    (attending : world.Attending interp caller rest phase) :
    (Program.run (perform setup.audited dispatch) program).Cares interp
      (fun _ later => ∃ next, world.Proceeds interp caller rest phase later next) world := by
  induction program generalizing world phase with
  | done result => exact ⟨phase, attending.refl⟩
  | ask request next ih =>
      refine cares_bind (cares_perform attends request sound attending) sound ?_
      rintro answer later ⟨middle, proceeds⟩ soundLater
      refine (ih answer soundLater (attending.proceeds proceeds)).weaken soundLater ?_
      exact fun _ last ⟨final, onward⟩ _ => ⟨final, proceeds.trans onward⟩

/-- A session that is hidden has no handlers, and those of other sessions cannot get at it. -/
theorem cares_runHandler (words : List String) (sound : world.Sound)
    (attended : world.Attended interp phase)
    (frames : world.frames = ⟨some session, []⟩ :: rest)
    (outer : ∀ calls, phase = .alive (calls + 1) → rest.any (·.holds interp) = true) :
    (runHandler setup.audited dispatch session words).Cares interp
      (fun _ later => ∃ next, world.Spared interp phase later next ∧
        ∃ kept, later.frames = ⟨some session, kept⟩ :: rest) world := by
  obtain ⟨state, present⟩ := sound.alive frames (holds_caller session [])
  unfold runHandler
  refine cares_get_bind attended.still ?_
  simp only [present]
  cases routed : state.commands.route words with
  | nowhere message => exact ⟨phase, attended.refl.toSpared, [], frames⟩
  | handler handler arguments =>
      refine (cares_program attends _ sound ⟨⟨[], frames⟩, attended, outer⟩).weaken sound ?_
      rintro _ later ⟨next, proceeds⟩ _
      refine ⟨next, ⟨proceeds.yields, proceeds.attended, fun hidden => ?_⟩, proceeds.frames⟩
      refine (proceeds.outside ⟨hidden, ?_⟩).1
      have different : session ≠ interp := by
        rintro rfl
        rw [hidden.unused state present] at routed
        exact CommandTable.route_empty_ne_handler words handler arguments routed
      rw [mayUse_eq frames]
      simpa [Frame.holds] using different

theorem cares_answerCall (words : List Obj)
    (attended : world.Attended interp phase) (present : world.Present session) :
    (answerCall setup.audited dispatch session words).Cares interp
      (fun _ later => ∃ next, world.Upheld interp phase later next) world := by
  unfold answerCall
  have entered : world.Spared interp phase
      { world with frames := { caller := some session } :: world.frames } phase := by
    refine ⟨phase.yields_refl, ⟨attended.known, attended.suits.mono id (Nat.le_refl _) ?_ ?_⟩,
      fun hidden => hidden.aside (Nat.le_refl _) rfl fun state there => ⟨state, there, rfl⟩⟩
    · simp only [holds, List.any_cons, Bool.or_eq_true]
      tauto
    · intro _ _ held
      rw [List.any_cons, held, Bool.or_true]
  have outer : ∀ {next : Phase}, phase.Yields next → ∀ calls, next = .alive (calls + 1) →
      world.frames.any (·.holds interp) = true := by
    intro next yields calls busy
    obtain rfl := yields.eq_of_alive busy
    exact attended.suits.2 (Nat.succ_pos calls)
  refine cares_modify_bind (attended.heeds entered.attended) fun soundEntered => ?_
  have texts : (words.tail.mapM fun word =>
      Call.text setup.engine.audited (some word) : Call (Audited σ) N (List String)).Visits session
      .use :=
    Call.visits_mapM fun word => Call.visits_text setup.engine (some word)
  refine cares_bind (cares_call texts entered.attended
    fun own => (entered.attended.usable (own ▸ present)).1) soundEntered ?_
  intro arguments read upheldRead soundRead
  refine cares_bind (cares_runHandler attends arguments soundRead upheldRead.attended
    upheldRead.frames (outer phase.yields_refl)) soundRead ?_
  rintro outcome handled ⟨next, sparedHandled, kept, framesHandled⟩ soundHandled
  have spared := (entered.trans upheldRead.toSpared).trans sparedHandled
  refine cares_bind (cares_dropKept attends soundHandled framesHandled sparedHandled.attended
    (outer spared.yields)) soundHandled ?_
  rintro _ dropped ⟨middle, sparedDropped, framesDropped⟩ soundDropped
  have answered : dropped.Upheld interp middle (dropped.answer session outcome) middle :=
    sparedDropped.attended.noted session (·.answer outcome) (Session.commands_answer outcome)
      (.answered session outcome)
  refine cares_modify_bind (sparedDropped.attended.heeds answered.attended) fun soundAnswered => ?_
  have there : session = interp → (dropped.answer session outcome).Present interp := by
    rintro rfl
    exact soundAnswered.held session (by simp [holds, answered.frames, framesDropped, Frame.holds])
  refine cares_bind (cares_call (Call.visits_setResult setup.engine _) answered.attended
    fun own => (answered.attended.usable (there own)).2) soundAnswered ?_
  intro _ told upheldTold soundTold
  have before := (spared.trans sparedDropped).trans (answered.trans upheldTold).toSpared
  have framesTold : told.frames = ⟨some session, []⟩ :: world.frames := by
    rw [upheldTold.frames, answered.frames, framesDropped]
  refine cares_bind (cares_endFrame attends soundTold framesTold upheldTold.attended
    (outer before.yields)) soundTold ?_
  rintro _ last ⟨final, sparedLast, framesLast⟩ _
  exact ⟨final, before.trans sparedLast, framesLast⟩

end Callbacks

theorem attends_dispatch (interp : InterpId) (setup : Setup σ H N) (fuel : Nat) :
    Attends interp (Run.dispatch setup.audited fuel) := by
  -- The callbacks of a program that answers a callback are answered with less fuel.
  induction fuel with
  | zero => exact fun _ _ _ _ _ attended _ => attended.not_due
  | succ fuel ih =>
      intro world session words phase sound attended callable
      unfold Run.dispatch
      refine cares_get_bind attended.still ?_
      split
      · rename_i known
        have present : world.Present session := by
          rwa [Std.TreeMap.contains_eq_isSome_getElem?, Option.isSome_iff_exists] at known
        refine cares_bind (cares_answerCall ih words attended present) sound ?_
        rintro outcome later upheld _
        refine ⟨upheld, ?_⟩
        rintro rfl rfl
        exact absurd present attended.suits.1
      · refine cares_bind (cares_call (Call.visits_setResult setup.engine _) attended
          fun own => attended.suits.exists_next_setResult (callable own)) sound ?_
        exact fun _ later upheld _ => ⟨⟨phase, upheld⟩, fun _ _ => rfl⟩

/-! Constructors. -/

theorem cares_program_bind {program : Host H N α} {next : α → Host H N β}
    {middle : α → World (Audited σ) H N → Prop} {post : β → World (Audited σ) H N → Prop}
    (first : (Program.run (perform setup.audited dispatch) program).Cares interp middle world)
    (sound : world.Sound)
    (rest : ∀ answer later, middle answer later → later.Sound →
      (Program.run (perform setup.audited dispatch) (next answer)).Cares interp post later) :
    (Program.run (perform setup.audited dispatch) (program >>= next)).Cares interp post world := by
  rw [Program.run_bind]
  exact cares_bind first sound rest

theorem cares_question (request : Request H N)
    {post : request.Answer → World (Audited σ) H N → Prop}
    (cares : (perform setup.audited dispatch request).Cares interp post world) :
    (Program.run (perform setup.audited dispatch) (Program.question request)).Cares interp post
      world :=
  Process.follows_bind.mpr cares

theorem cares_readScripts (sound : world.Sound) (paths : List String) :
    (Program.run (perform setup.audited dispatch)
      (Host.readScripts paths : Attempt H N String).run).Cares interp
        (fun _ later => later = world) world := by
  induction paths with
  | nil => exact rfl
  | cons path rest ih =>
      unfold Host.readScripts
      rw [ExceptT.run_bind_lift]
      have read : (Program.run (perform setup.audited dispatch)
          (Host.readFile path : Host H N _)).Cares interp (fun _ later => later = world) world :=
        rfl
      refine cares_program_bind read sound ?_
      rintro (cause | text) _ rfl _
      · exact rfl
      · dsimp only
        rw [ExceptT.run_bind]
        refine cares_program_bind ih sound ?_
        rintro (cause | more) _ rfl _ <;> exact rfl

theorem cares_loadFiles (attends : Attends interp dispatch) (sound : world.Sound)
    (attended : world.Attended interp phase)
    (held : world.frames.any (·.holds session) = true) (paths : List String) :
    (Program.run (perform setup.audited dispatch)
      (Host.loadFiles session paths : Attempt H N String).run).Cares interp
        (fun _ later => ∃ next, world.Upheld interp phase later next) world := by
  unfold Host.loadFiles
  rw [ExceptT.run_bind]
  refine cares_program_bind (cares_readScripts sound paths) sound ?_
  rintro (cause | text) _ rfl _
  · exact ⟨phase, attended.refl⟩
  · have asked : (perform setup.audited dispatch (.evaluate session text)).Cares interp
        (fun _ later => ∃ next, World.Upheld interp _ phase later next) _ :=
      cares_using attended fun _ _ => cares_evaluate attends held attended text
    dsimp only
    unfold Host.eval
    rw [ExceptT.run_bind]
    refine cares_program_bind (cares_question (.evaluate session text) asked) sound ?_
    rintro (cause | answer) later upheld _ <;> exact upheld

/-- A session whose scripts fail to load is taken down before the failure is reported. Until then
nobody but the program that opens it can have come by it. -/
theorem cares_openWithFiles {caller : Option SessionId} {rest : List Frame}
    (attends : Attends interp dispatch) (sound : world.Sound)
    (attending : world.Attending interp caller rest phase) (config : Config)
    (paths : List String) :
    (Program.run (perform setup.audited dispatch)
      (Host.openWithFiles config paths : Attempt H N SessionId).run).Cares interp
        (fun outcome later => ∃ next, phase.Yields next ∧ later.Attended interp next ∧
          ∀ cause, outcome = .error cause → interp = world.created →
            next = .astray ∨ ¬ later.Present interp) world := by
  obtain ⟨kept, frames⟩ := attending.frames
  have outside : interp = world.created →
      (⟨caller, kept⟩ :: rest : List Frame).any (·.holds interp) = false := by
    rintro rfl
    exact frames ▸ outside_created sound
  have opened : (perform setup.audited dispatch (.openSession config)).Cares interp _ world :=
    cares_openSession attends sound attending.attended frames attending.outer config
  unfold Host.openWithFiles
  rw [ExceptT.run_bind]
  refine cares_program_bind (cares_question (.openSession config) opened) sound ?_
  rintro (cause | session) later ⟨next, spared, handed⟩ soundLater
  · exact ⟨next, spared.yields, spared.attended, fun _ _ own => handed.2 own⟩
  · obtain ⟨rfl, hidden, framesLater⟩ := handed
    have held : later.frames.any (·.holds world.created) = true := by
      simp [framesLater, Frame.holds]
    dsimp only
    rw [ExceptT.run_bind_lift]
    refine cares_program_bind (cares_loadFiles attends soundLater spared.attended held paths)
      soundLater ?_
    rintro (cause | result) loaded ⟨middle, upheld⟩ soundLoaded
    · dsimp only
      rw [ExceptT.run_bind_lift]
      have yields := spared.yields.trans upheld.yields
      have left : (perform setup.audited dispatch .letGo).Cares interp _ loaded :=
        cares_letGo attends soundLoaded (upheld.frames.trans framesLater) upheld.attended
          fun calls busy => attending.outer calls (yields.eq_of_alive busy)
      refine cares_program_bind (cares_question .letGo left) soundLoaded ?_
      rintro _ last ⟨final, sparedLast, _, gone⟩ _
      refine ⟨final, yields.trans sparedLast.yields, sparedLast.attended, fun _ _ own => ?_⟩
      exact gone own.symm (upheld.hidden (hidden own)).offDesk (outside own)
    · refine ⟨middle, spared.yields.trans upheld.yields, upheld.attended, ?_⟩
      rintro _ ⟨⟩

end Run

namespace World

variable {interp : InterpId} {world now later : World (Audited σ) H N} {phase next : Phase}
  {setup : Setup σ H N}

structure Hosting (world : World (Audited σ) H N) : Prop where
  sound : world.Sound
  attending : ∃ caller rest, Standing caller rest world ∧
    ∀ interp, ∃ phase, world.Attending interp caller rest phase

structure Tended (setup : Setup σ H N) (interp : InterpId) (now later : World (Audited σ) H N)
    (phase : Phase) : Prop where
  known : now.phase? interp = some phase
  /-- As long as there is a handle the session is there, and its interpreter is not deleted. -/
  held : now.holds interp = true → now.Present interp ∧ phase.Open
  /-- Each stage was reached by one call, made once, and the later ones are still to be reached. -/
  once : phase ≠ .astray → ∀ visit stage, visit.stage? = some stage →
    now.visits.count (interp, visit) = if stage ≤ phase.stage then 1 else 0
  astray : phase = .astray → ∃ before after earlier,
    now.visits = before ++ (interp, .called) :: after ∧
      Audited.phase? interp before = some earlier ∧ ¬ earlier.Callable
  /-- What is due is the next thing that the library hears of the host. -/
  prompt : ∀ visit, phase.due? (now.holds interp) = some visit → later.visits = now.visits ∨
    ∃ more, later.visits = now.visits ++ (interp, visit) :: more
  /-- A call that comes while the interpreter is deleted fails, and nothing else happens. -/
  deleting : phase = .deleting → ¬ now.Present interp ∧ ∀ fuel words,
    (Run.dispatch setup.audited (fuel + 1) interp words).exec now =
      .ok .gone { now with
        scene := ((Call.setResult setup.engine.audited interp Reply.gone.text).run now.scene).2 } ∧
      Reply.gone.code = 1

theorem hosting_start (store : σ) (library : Library) :
    (start ⟨store, []⟩ library : World (Audited σ) H N).Hosting where
  sound := sound_start _ library
  attending := by
    refine ⟨none, [], standing_start _ library, fun interp => ⟨.absent, ⟨[], rfl⟩, ⟨rfl, ?_⟩, ?_⟩⟩
    · rintro ⟨state, present⟩
      simp [start] at present
    · rintro _ ⟨⟩

theorem tended (sound : now.Sound) (known : now.phase? interp = some phase)
    (isOpen : now.Present interp → phase.Open)
    (prompt : ∀ visit, now.Due interp visit → later.visits = now.visits ∨
      ∃ more, later.visits = now.visits ++ (interp, visit) :: more) :
    Tended setup interp now later phase where
  known := known
  held held := ⟨sound.held interp held, isOpen (sound.held interp held)⟩
  once lawful _ _ staged := Audited.count_of_phase? known lawful staged
  astray astray := by
    subst astray
    exact Audited.exists_called_of_astray known
  prompt visit due := prompt visit ⟨phase, known, due⟩
  deleting deleting := by
    subst deleting
    have gone : ¬ now.Present interp := isOpen
    refine ⟨gone, fun fuel words => ⟨?_, rfl⟩⟩
    have absent : ¬ now.sessions.contains interp = true := by
      rw [Std.TreeMap.contains_eq_isSome_getElem?, Option.isSome_iff_exists]
      exact gone
    change (if now.sessions.contains interp = true then _ else _ : Run (Audited σ) H N _).exec
      now = _
    rw [if_neg absent]
    rfl

theorem Attended.closed (attended : later.Attended interp next) (sound : later.Sound)
    (yields : phase.Yields next) (known : phase ≠ .deleting)
    (gone : next = .astray ∨ ¬ later.Present interp) : next.Closed := by
  have suits := attended.suits
  cases next with
  | absent | refused | released | astray => trivial
  | alive calls =>
      rcases gone with lost | gone
      · cases lost
      · exact absurd (sound.held interp suits.1) gone
  | deleting =>
      rcases yields with lost | same
      · cases lost
      · exact absurd (same (.inr trivial)).symm known
  | created | initialised | preserved | deleted => exact suits.elim

theorem Attended.rests (attended : later.Attended interp next) (yields : phase.Yields next) :
    phase.Rests (later.holds interp = true) next := by
  have suits := attended.suits
  cases next with
  | absent | refused | released | astray => exact .inr (.inl trivial)
  | alive calls =>
      cases calls with
      | zero => exact .inr (.inr ⟨rfl, suits.1⟩)
      | succ calls =>
          obtain rfl := yields.eq_of_alive rfl
          exact .inl ⟨trivial, rfl⟩
  | deleting =>
      rcases yields with lost | same
      · cases lost
      · obtain rfl := same (.inr trivial)
        exact .inl ⟨trivial, rfl⟩
  | created | initialised | preserved | deleted => exact suits.elim

end World

namespace Host

open World

variable (setup : Setup σ H N) (fuel : Nat) {world : World (Audited σ) H N}

theorem obeys_hosting (hosting : world.Hosting) (program : Host H N α) :
    (Host.run setup.audited fuel program).Obeys rules (fun _ later => ∃ caller rest,
      Standing caller rest later) world := by
  obtain ⟨caller, rest, standing, _⟩ := hosting.attending
  exact (Run.obeys_program (Run.answers_dispatch setup.audited fuel) setup.audited program
    hosting.sound standing).weaken fun _ _ onward => ⟨caller, rest, onward.standing⟩

theorem obeys_care {interp : InterpId} {phase : Phase} {caller : Option SessionId}
    {rest : List Frame} (sound : world.Sound) (standing : Standing caller rest world)
    (attending : world.Attending interp caller rest phase) (program : Host H N α) :
    (Host.run setup.audited fuel program).Obeys (care interp)
      (fun _ later => ∃ next, world.Proceeds interp caller rest phase later next) world := by
  have attends := Run.attends_dispatch interp setup fuel
  exact (Run.obeys_program (Run.answers_dispatch setup.audited fuel) setup.audited program sound
    standing).follows sound (fun _ _ step => step.sound)
    (Run.cares_program attends program sound attending)

theorem tended_after (hosting : world.Hosting) (program : Host H N α) (count : Nat)
    (interp : InterpId) :
    ∃ phase, Tended setup interp ((Host.run setup.audited fuel program).after count world)
      ((Host.run setup.audited fuel program).after (count + 1) world) phase := by
  obtain ⟨caller, rest, standing, attending⟩ := hosting.attending
  obtain ⟨first, attending⟩ := attending interp
  have obeys := obeys_care setup fuel hosting.sound standing attending program
  have sound := ((obeys_hosting setup fuel hosting program).reaches_after count).preserved
    (fun _ _ step => step.sound) hosting.sound
  obtain ⟨phase, known, isOpen⟩ := (obeys.reaches_after count).preserved
    (fun _ _ step _ => step.lawful)
    ⟨first, attending.attended.known, attending.attended.suits.isOpen⟩
  refine ⟨phase, tended sound known isOpen fun visit due => ?_⟩
  rcases obeys.step_after count with step | same
  · exact step.prompt visit due
  · exact .inl (congrArg visits same)

theorem not_due_finally (hosting : world.Hosting) (program : Host H N α) (interp : InterpId)
    (visit : Visit) :
    ¬ (Process.finalState ((Host.run setup.audited fuel program).exec world)).Due interp
      visit := by
  obtain ⟨caller, rest, standing, attending⟩ := hosting.attending
  obtain ⟨phase, attending⟩ := attending interp
  have obeys := obeys_care setup fuel hosting.sound standing attending program
  cases ended : (Host.run setup.audited fuel program).exec world with
  | ok result final =>
      obtain ⟨⟨next, proceeds⟩, _⟩ := obeys.exec_ok ended
      exact proceeds.attended.not_due visit
  | error cause final =>
      obtain ⟨later, last, _, allowed, rfl⟩ := obeys.exec_error ended
      exact allowed visit

theorem hosting_finally (hosting : world.Hosting) (program : Host H N α) {result : α}
    {final : World (Audited σ) H N}
    (returned : (Host.run setup.audited fuel program).exec world = .ok result final) :
    final.Hosting ∧ ∀ interp, ∃ before after, world.phase? interp = some before ∧
      final.phase? interp = some after ∧ before.Rests (final.holds interp = true) after := by
  obtain ⟨caller, rest, standing, attending⟩ := hosting.attending
  have onward := (Run.obeys_program (Run.answers_dispatch setup.audited fuel) setup.audited program
    hosting.sound standing).exec_ok returned
  have sound := onward.2.preserved (fun _ _ step => step.sound) hosting.sound
  have proceeded : ∀ interp, ∃ before after,
      world.Attending interp caller rest before ∧
        world.Proceeds interp caller rest before final after := by
    intro interp
    obtain ⟨before, attending⟩ := attending interp
    have obeys := obeys_care setup fuel hosting.sound standing attending program
    obtain ⟨⟨after, proceeds⟩, _⟩ := obeys.exec_ok returned
    exact ⟨before, after, attending, proceeds⟩
  refine ⟨⟨sound, caller, rest, onward.1.standing, fun interp => ?_⟩, fun interp => ?_⟩
  · obtain ⟨before, after, attending, proceeds⟩ := proceeded interp
    exact ⟨after, attending.proceeds proceeds⟩
  · obtain ⟨before, after, attending, proceeds⟩ := proceeded interp
    exact ⟨before, after, attending.attended.known, proceeds.attended.known,
      proceeds.attended.rests proceeds.yields⟩

/-- What a failed constructor leaves of the interpreter that it asked for. -/
theorem closed_of_failed (hosting : world.Hosting) {constructor : Host H N (Except Error SessionId)}
    (given : ∃ config, constructor = (Host.openSession config : Attempt H N SessionId).run ∨
      ∃ paths, constructor = (Host.openWithFiles config paths : Attempt H N SessionId).run)
    {cause : Error} {final : World (Audited σ) H N}
    (failed : (Host.run setup.audited fuel constructor).exec world = .ok (.error cause) final) :
    ∃ phase, final.phase? world.created = some phase ∧ phase.Closed := by
  obtain ⟨caller, rest, standing, attending⟩ := hosting.attending
  obtain ⟨phase, attending⟩ := attending world.created
  have attends := Run.attends_dispatch world.created setup fuel
  have obeys := Run.obeys_program (Run.answers_dispatch setup.audited fuel) setup.audited
    constructor hosting.sound standing
  have sound := (obeys.exec_ok failed).2.preserved (fun _ _ step => step.sound) hosting.sound
  have idle : phase ≠ .deleting := by
    rintro rfl
    exact Nat.lt_irrefl _ attending.attended.suits.2
  have cares : (Host.run setup.audited fuel constructor).Follows World.Sound (care world.created)
      (fun outcome later => ∃ next, phase.Yields next ∧ later.Attended world.created next ∧
        ∀ cause, outcome = .error cause → next = .astray ∨ ¬ later.Present world.created)
      world := by
    obtain ⟨config, rfl | ⟨paths, rfl⟩⟩ := given
    · obtain ⟨kept, frames⟩ := attending.frames
      refine (Run.cares_question (.openSession config) (Run.cares_openSession attends hosting.sound
        attending.attended frames attending.outer config)).weaken hosting.sound ?_
      rintro (cause | session) later ⟨next, spared, handed⟩ _
      · exact ⟨next, spared.yields, spared.attended, fun _ _ => handed.2 rfl⟩
      · exact ⟨next, spared.yields, spared.attended, fun _ failed => nomatch failed⟩
    · refine (Run.cares_openWithFiles attends hosting.sound attending config paths).weaken
        hosting.sound ?_
      rintro outcome later ⟨next, yields, attended, gone⟩ _
      exact ⟨next, yields, attended, fun cause failed => gone cause failed rfl⟩
  obtain ⟨next, yields, attended, gone⟩ :=
    ((obeys.follows hosting.sound (fun _ _ step => step.sound) cares).exec_ok failed).1
  exact ⟨next, attended.known, attended.closed sound yields idle (gone cause rfl)⟩

/-- Programs may begin in any world that hosts them, as those with which a run starts do. -/
theorem interps_tended (setup : Setup σ H N) (fuel : Nat) :
    (∀ store library, (start ⟨store, []⟩ library : World (Audited σ) H N).Hosting) ∧
      ∀ world : World (Audited σ) H N, world.Hosting →
        (∀ program : Host H N α,
          (∀ count, (Host.run setup fuel program).after count (world.through Audited.store) =
            ((Host.run setup.audited fuel program).after count world).through Audited.store) ∧
          (∀ count interp, ∃ phase,
            Tended setup interp ((Host.run setup.audited fuel program).after count world)
              ((Host.run setup.audited fuel program).after (count + 1) world) phase) ∧
          (∀ interp visit, ¬ (Process.finalState
            ((Host.run setup.audited fuel program).exec world)).Due interp visit) ∧
          ∀ result final, (Host.run setup.audited fuel program).exec world = .ok result final →
            final.Hosting ∧ ∀ interp, ∃ before after, world.phase? interp = some before ∧
              final.phase? interp = some after ∧
                before.Rests (final.holds interp = true) after) ∧
        ∀ constructor : Host H N (Except Error SessionId), (∃ config,
            constructor = (Host.openSession config : Attempt H N SessionId).run ∨
              ∃ paths, constructor = (Host.openWithFiles config paths).run) →
          ∀ cause final,
            (Host.run setup.audited fuel constructor).exec world = .ok (.error cause) final →
              ∃ phase, final.phase? world.created = some phase ∧ phase.Closed := by
  refine ⟨hosting_start, fun world hosting => ⟨fun program => ⟨?_, ?_, ?_, ?_⟩, ?_⟩⟩
  · exact (Host.mirrors_run (Setup.mirrors_withEngine setup.engine.mirrors_audited) fuel program
      world).after fun _ => trivial
  · exact tended_after setup fuel hosting program
  · exact not_due_finally setup fuel hosting program
  · exact fun result final returned => hosting_finally setup fuel hosting program returned
  · exact fun constructor given cause final failed =>
      closed_of_failed setup fuel hosting given failed

end Host

namespace Farewell

/-- Runs the host's command while an interpreter is deleted. All scripts but those of the first
interpreter fail. -/
def engine : Engine Unit where
  create _ store := (true, store)
  init _ store := (0, store)
  preserve _ store := store
  release _ store := store
  createCommand _ _ store := store
  evaluate interp _ store := .finished (if interp = 0 then 0 else 1) store
  makeSafe _ store := .finished 0 store
  delete interp store := .callback interp [⟨0⟩] store .finished
  newObj store := (none, store)
  newString _ store := (⟨0⟩, store)
  increment _ store := store
  decrement _ store := store
  append _ _ _ store := (0, store)
  elements _ _ store := (some ⟨0, []⟩, store)
  bytes _ store := ([], store)
  result _ store := (none, store)
  setResult _ _ store := store

def setup : Setup Unit Unit Empty where
  engine := engine
  behave _ _ _ := return .value ""
  libraries _ := .complete
  environment _ := none
  files _ := .ok []

def program : Host Unit Empty Unit := do
  discard (Program.question (.openSession {}))
  discard (Program.question (.openSession {}))
  Host.letGo

def initial : World (Audited Unit) Unit Empty :=
  World.start ⟨(), []⟩ { outcome := some (.ok "") }

def ended : EStateM.Result Halt (World (Audited Unit) Unit Empty) Unit :=
  (Host.run setup.audited 2 program).exec initial

def unfinished (interp : InterpId) : List (InterpId × Visit) :=
  [.create true, .init, .preserve, .command, .enter, .leave, .use, .delete, .called, .setResult,
    .answered 1, .deleted, .release].map (Prod.mk interp)

theorem all_closed :
    ∃ final, ended = .ok () final ∧
      final.visits.filter (·.1 = 1) = unfinished 1 ∧
      ∀ interp ∈ [0, 1], ∃ phase, final.phase? interp = some phase ∧ phase.Closed := by
  have answered : Process.result? ended = some () := by decide +kernel
  have visited : (Process.finalState ended).visits.filter (·.1 = 1) = unfinished 1 := by decide +kernel
  have gone : ∀ interp ∈ [0, 1], (Process.finalState ended).holds interp = false := by
    decide +kernel
  obtain ⟨final, returned⟩ := Process.result?_eq_some_iff.mp answered
  rw [returned] at visited gone
  refine ⟨final, returned, visited, fun interp member => ?_⟩
  obtain ⟨starts, tends⟩ := Host.interps_tended setup 2
  obtain ⟨_, rested⟩ := ((tends initial (starts () _)).1 program).2.2.2 () final returned
  obtain ⟨before, after, known, found, rests⟩ := rested interp
  obtain rfl : before = .absent := (Option.some.inj known).symm
  refine ⟨after, found, ?_⟩
  rcases rests with ⟨busy, _⟩ | closed | ⟨_, held⟩
  · cases busy
  · exact closed
  · rw [Process.finalState] at gone
    simp [gone interp member] at held

end Farewell

end TclHost
