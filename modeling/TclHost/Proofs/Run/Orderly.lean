import TclHost.Proofs.Run.Handles
import TclHost.Proofs.Run.Opening

/-!
Every run obeys the rules, whatever the library answers and whatever the programs ask for.
-/

namespace TclHost

variable {σ H N α β : Type}

namespace World

variable {world later : World σ H N} {session : SessionId} {caller : Option SessionId}
  {rest : List Frame}

/-- A program is running and may go on: it holds no session that is still being set up, and every
session that is being evaluated is held further out. -/
structure Standing (caller : Option SessionId) (rest : List Frame) (world : World σ H N) :
    Prop where
  frames : ∃ kept, world.frames = ⟨caller, kept⟩ :: rest
  settled : ∀ session, world.mayUse session = true → ¬ world.IsFresh session
  secured : Secured rest world

structure Onward (caller : Option SessionId) (rest : List Frame) (world later : World σ H N) :
    Prop where
  standing : Standing caller rest later
  since : Since rest world later

theorem mayUse_eq {frame : Frame} (frames : world.frames = frame :: rest) (session : SessionId) :
    world.mayUse session = frame.holds session := by
  simp [mayUse, frames]

theorem Standing.onward (standing : Standing caller rest world) {kept : List SessionId}
    (frames : later.frames = ⟨caller, kept⟩ :: rest) (since : Since rest world later)
    (known : ∀ session ∈ kept, ¬ later.IsFresh session) : Onward caller rest world later := by
  refine ⟨⟨⟨kept, frames⟩, ?_, since.secured standing.secured⟩, since⟩
  intro session held
  obtain ⟨before, framesBefore⟩ := standing.frames
  rw [mayUse_eq frames, Frame.holds, Bool.or_eq_true] at held
  rcases held with isCaller | isKept
  · have usable : world.mayUse session = true := by
      simp [mayUse_eq framesBefore, Frame.holds, isCaller]
    exact fun fresh => standing.settled session usable (since.aged session fresh)
  · exact known session (by simpa using isKept)

theorem Standing.kept (standing : Standing caller rest world) (kept : Kept world later) :
    Onward caller rest world later := by
  obtain ⟨before, frames⟩ := standing.frames
  have since : Since (⟨caller, before⟩ :: rest) world later := frames ▸ kept.since
  refine standing.onward (kept.frames.trans frames) since.outer fun session member fresh => ?_
  have usable : world.mayUse session = true := by
    simp [mayUse_eq frames, Frame.holds, member]
  exact standing.settled session usable (since.aged session fresh)

/-- A session that is being set up has no commands yet, so no program answers for it. -/
theorem Sound.settled_of_routed (sound : world.Sound) {state : Session H}
    (present : world.sessions[session]? = some state) {words arguments : List String} {handler : H}
    (routed : state.commands.route words = .handler handler arguments) :
    ¬ world.IsFresh session := by
  rintro ⟨found, foundPresent, fresh⟩
  rw [present, Option.some.injEq] at foundPresent
  subst foundPresent
  rw [(sound.sessions session state present).unused fresh] at routed
  exact CommandTable.route_empty_ne_handler words handler arguments routed

/-- A program that starts to answer a call holds the calling session and nothing else. -/
theorem Standing.of_called (secured : Secured rest world)
    (frames : world.frames = ⟨some session, []⟩ :: rest) (settled : ¬ world.IsFresh session) :
    Standing (some session) rest world := by
  refine ⟨⟨[], frames⟩, fun other usable => ?_, secured⟩
  have same : session = other := by
    simpa [mayUse_eq frames, Frame.holds] using usable
  exact same ▸ settled

theorem Standing.refl (standing : Standing caller rest world) : Onward caller rest world world :=
  standing.kept Kept.refl

theorem Onward.trans {between : World σ H N} (first : Onward caller rest world between)
    (second : Onward caller rest between later) : Onward caller rest world later :=
  ⟨second.standing, first.since.trans second.since⟩

theorem desk_kept (world : World σ H N) (desk : Desk) : Kept world { world with desk } :=
  ⟨rfl, Since.of_sessions rfl (List.append_nil _).symm (Record.closed_of_silent (by simp))⟩

theorem desk_step (sound : world.Sound) (standing : Standing caller rest world) {desk : Desk}
    (usable : ∀ session, desk.holds session = true →
      world.desk.holds session = true ∨ world.mayUse session = true) :
    Step world { world with desk } := by
  refine Step.handled rfl rfl (Nat.le_refl _) sound ?_ fun session held =>
    sound.held session (by simp [holds, held])
  intro session held
  rcases usable session held with before | mayUse
  · exact Or.inl before
  · obtain ⟨kept, frames⟩ := standing.frames
    rw [mayUse_eq frames] at mayUse
    obtain ⟨state, present⟩ := sound.alive frames mayUse
    refine Or.inr ⟨state, present, fun fresh => ?_⟩
    exact standing.settled session ((mayUse_eq frames session).trans mayUse) ⟨state, present, fresh⟩

theorem holds_caller (session : SessionId) (kept : List SessionId) :
    (⟨some session, kept⟩ : Frame).holds session = true := by
  simp [Frame.holds]

theorem Step.answering (sound : world.Sound) {state : Session H}
    (present : world.sessions[session]? = some state) :
    Step world { world with frames := ⟨some session, []⟩ :: world.frames } := by
  refine Step.handled rfl rfl (Nat.le_refl _) sound (fun _ => Or.inl) fun other held => ?_
  rw [List.any_cons, Bool.or_eq_true] at held
  rcases held with isCaller | outside
  · have same : session = other := by simpa [Frame.holds] using isCaller
    exact ⟨state, same ▸ present⟩
  · refine sound.held other ?_
    rw [holds, outside, Bool.or_true]

/-- When the call is answered the session is as deep as it was when the call was made. -/
theorem answer_step {before : List (Event N)} {earlier state : Session H} {outcome : Outcome}
    (sound : world.Sound) (known : world.sessions[session]? = some earlier)
    (called : world.record = before ++ [.called session])
    (since : Since rest world later)
    (present : later.sessions[session]? = some state)
    (settled : world.IsFresh session → outcome.exitStatus? = none) :
    Step later (later.answer session outcome) ∧
      Since rest later (later.answer session outcome) := by
  have fresh : state.stage = .fresh → outcome.exitStatus? = none :=
    fun isFresh => settled (since.aged session ⟨state, present, isFresh⟩)
  obtain ⟨entries, grown, _⟩ := since.grown
  have arrived : later.record = before ++ .called session :: entries := by
    rw [grown, called]
    simp
  have level : Record.begun session before = state.depth + Record.ended session before := by
    have depth := since.depth session
    simp only [depthOf, present, known] at depth
    have counted := (sound.sessions session earlier known).counted
    rw [called, Record.begun_append, Record.ended_append, ← depth] at counted
    exact counted
  refine ⟨Step.update present ?_, Since.of_update present ?_ ?_ ?_⟩
  · exact Session.Change.answer state outcome before entries fresh arrived level
  · exact fun state => Session.depth_answer state outcome
  · cases asked : outcome.exitStatus? with
    | none => simp [Session.answer, asked]
    | some status =>
        have aged : state.stage ≠ .fresh := fun isFresh => by simp [fresh isFresh] at asked
        simp [Session.answer, asked, Session.requestExit, aged]
  · exact Record.closed_answered session outcome

end World

namespace Run

open World

variable {world : World σ H N} {caller : Option SessionId} {rest : List Frame}

theorem obeys_held_bind {post : α → World σ H N → Prop} {session : SessionId}
    {next : Session H → Run σ H N α}
    (rest : ∀ state, world.sessions[session]? = some state → world.mayUse session = true →
      (next state).Obeys rules post world) : (held session >>= next).Obeys rules post world := by
  unfold held
  refine Process.obeys_bind.mpr (obeys_get_bind ?_)
  split
  · rename_i state present
    split
    · rename_i usable
      exact rest state present usable
    · exact obeys_stop (by simp)
  · exact obeys_stop (by simp)

theorem obeys_using {post : α → World σ H N → Prop} {session : SessionId}
    {next : PUnit → Run σ H N α}
    (rest : ∀ state, world.sessions[session]? = some state → world.mayUse session = true →
      (next ⟨⟩).Obeys rules post world) :
    (discard (held session) >>= next).Obeys rules post world := by
  rw [discard_held_bind]
  exact obeys_held_bind rest

theorem obeys_keep {session : SessionId} (sound : world.Sound)
    (standing : Standing caller rest world) (onDesk : world.desk.holds session = true)
    {answer : α} : (do modify (·.keep session); return answer : Run σ H N α).Obeys rules
      (fun _ later => Onward caller rest world later) world := by
  obtain ⟨kept, frames⟩ := standing.frames
  have same : world.keep session =
      { world with frames := ⟨caller, session :: kept⟩ :: rest } := by
    simp [keep, frames]
  have step : Step world (world.keep session) := by
    rw [same]
    refine Step.handled rfl rfl (Nat.le_refl _) sound (fun _ => Or.inl) fun other held => ?_
    refine sound.held other ?_
    simp only [List.any_cons, Frame.holds, Bool.or_eq_true, List.contains_cons, beq_iff_eq] at held
    simp only [holds, frames, List.any_cons, Frame.holds, Bool.or_eq_true]
    grind
  have since : Since rest world (world.keep session) := by
    rw [same]
    exact Since.of_sessions rfl (List.append_nil _).symm (Record.closed_of_silent (by simp))
  have framesKept : (world.keep session).frames = ⟨caller, session :: kept⟩ :: rest := by rw [same]
  refine obeys_modify_bind step (standing.onward framesKept since ?_)
  intro other member fresh
  have before := since.aged other fresh
  rcases List.mem_cons.mp member with rfl | earlier
  · exact sound.settled other onDesk before
  · exact standing.settled other (by simp [mayUse_eq frames, Frame.holds, earlier]) before

theorem obeys_setCommands {session : SessionId} {state : Session H}
    (standing : Standing caller rest world) (present : world.sessions[session]? = some state)
    (usable : world.mayUse session = true) (change : CommandTable H → CommandTable H) {answer : α} :
    (do update session fun state => { state with commands := change state.commands }
        return answer : Run σ H N α).Obeys rules
      (fun _ later => Onward caller rest world later) world := by
  have settled : state.stage ≠ .fresh :=
    fun fresh => standing.settled session usable ⟨state, present, fresh⟩
  have step : Step world (world.update session fun state =>
      { state with commands := change state.commands }) :=
    Step.unrecorded present (Session.Change.commands state _ settled)
  refine obeys_modify_bind step (standing.kept ?_)
  exact ⟨frames_update world session _, Since.of_unrecorded present (fun _ => rfl) Iff.rfl⟩

variable {dispatch : Dispatch σ H N} (answers : Answers dispatch)
include answers

theorem obeys_sweepReplaced (engine : Engine σ) (replaced : Option SessionId)
    (sound : world.Sound) (standing : Standing caller rest world) :
    (sweepReplaced engine dispatch replaced).Obeys rules
      (fun _ later => Onward caller rest world later) world := by
  cases replaced with
  | none => exact standing.refl
  | some session =>
      obtain ⟨kept, frames⟩ := standing.frames
      refine (obeys_sweep answers engine session sound (standing.secured.cons frames)).weaken ?_
      rintro _ later ⟨swept, _⟩
      exact standing.kept swept

theorem obeys_put (engine : Engine σ) (sound : world.Sound) (standing : Standing caller rest world)
    (change : Desk → Desk) {session : SessionId} {replaced : Option SessionId}
    (usable : world.mayUse session = true)
    (puts : world.desk.Puts (change world.desk) session replaced) :
    (do modify fun world => { world with desk := change world.desk }
        sweepReplaced engine dispatch replaced : Run σ H N Unit).Obeys rules
      (fun _ later => Onward caller rest world later) world := by
  have step := desk_step sound standing (usable_of_puts puts usable)
  have moved := standing.kept (desk_kept world (change world.desk))
  refine obeys_modify_bind step ?_
  refine (obeys_sweepReplaced answers engine replaced (step.sound sound) moved.standing).weaken ?_
  exact fun _ _ onward => moved.trans onward

theorem obeys_drop (engine : Engine σ) (sound : world.Sound) (standing : Standing caller rest world)
    (change : Desk → Desk) {session : SessionId}
    (drops : world.desk.Drops (change world.desk) session) {answer : α} :
    (do modify fun world => { world with desk := change world.desk }
        sweep engine dispatch session
        return answer : Run σ H N α).Obeys rules
      (fun _ later => Onward caller rest world later) world := by
  have step := desk_step sound standing fun other held => Or.inl (drops.fewer other held)
  have moved := standing.kept (desk_kept world (change world.desk))
  obtain ⟨kept, frames⟩ := moved.standing.frames
  refine obeys_modify_bind step ?_
  refine (step.sound sound).bind (obeys_sweep answers engine session (step.sound sound)
    (moved.standing.secured.cons frames)) ?_
  rintro _ later ⟨swept, _⟩ _
  exact moved.trans (moved.standing.kept swept)

theorem obeys_perform (setup : Setup σ H N) (request : Request H N) (sound : world.Sound)
    (standing : Standing caller rest world) :
    (perform setup dispatch request).Obeys rules (fun _ later => Onward caller rest world later)
      world := by
  obtain ⟨kept, frames⟩ := standing.frames
  have known : ∀ session ∈ kept, ¬ world.IsFresh session := by
    intro session member
    exact standing.settled session (by simp [mayUse_eq frames, Frame.holds, member])
  cases request with
  | evaluate session script =>
      refine obeys_using fun state present usable => ?_
      rw [mayUse_eq frames] at usable
      exact (obeys_evaluate answers setup.engine session script sound standing.secured frames
        usable).weaken fun _ _ => standing.kept
  | makeSafe session =>
      refine obeys_using fun state present usable => ?_
      rw [mayUse_eq frames] at usable
      exact (obeys_makeSafe answers setup.engine session sound standing.secured frames
        usable).weaken fun _ _ => standing.kept
  | result session =>
      refine obeys_using fun state present usable => ?_
      exact (obeys_call (Call.emits_result setup.engine session).quiet world).weaken
        fun _ _ beside => standing.kept beside.kept
  | quoteList session words =>
      refine obeys_using fun state present usable => ?_
      exact (obeys_call (Call.emits_quoteList setup.engine session words).quiet world).weaken
        fun _ _ beside => standing.kept beside.kept
  | splitList session list =>
      refine obeys_using fun state present usable => ?_
      exact (obeys_call (Call.emits_splitList setup.engine session list).quiet world).weaken
        fun _ _ beside => standing.kept beside.kept
  | inspect session =>
      change (held session).Obeys rules _ world
      rw [← bind_pure (held session)]
      exact obeys_held_bind fun _ _ _ => standing.refl
  | insertCommand session name handler =>
      refine obeys_held_bind fun state present usable => ?_
      exact obeys_setCommands standing present usable (·.insert name handler)
  | eraseCommand session name =>
      refine obeys_held_bind fun state present usable => ?_
      exact obeys_setCommands standing present usable (·.erase name)
  | setReceiver session receiver =>
      refine obeys_using fun state present usable => ?_
      exact obeys_setCommands standing present usable (·.withReceiver receiver)
  | openSession config =>
      refine (obeys_openSession answers setup config sound standing.secured frames).weaken ?_
      rintro (cause | session) later ⟨since, outcome⟩
      · refine standing.onward outcome since.outer fun other member fresh => ?_
        exact known other member (since.aged other fresh)
      · refine standing.onward outcome.1 since.outer fun other member fresh => ?_
        rcases List.mem_cons.mp member with rfl | earlier
        · exact outcome.2.1 fresh
        · exact known other earlier (since.aged other fresh)
  | takeInterp name =>
      refine obeys_get_bind ?_
      split
      · exact standing.refl
      · rename_i session found
        exact obeys_keep sound standing (Desk.holds_interp found)
  | takeProc name =>
      refine obeys_get_bind ?_
      split
      · exact standing.refl
      · rename_i proc found
        exact obeys_keep sound standing (Desk.holds_proc found)
  | takeVar name =>
      refine obeys_get_bind ?_
      split
      · exact standing.refl
      · rename_i var found
        exact obeys_keep sound standing (Desk.holds_var found)
  | letGo =>
      cases kept with
      | nil =>
          change (letGo setup.engine dispatch).Obeys rules _ world
          unfold letGo
          refine obeys_get_bind ?_
          simp only [frames]
          exact standing.refl
      | cons session kept =>
          refine (obeys_letGo answers setup.engine sound standing.secured frames).weaken ?_
          rintro _ later ⟨framesLater, since, _⟩
          refine standing.onward framesLater since.outer fun other member fresh => ?_
          exact known other (List.mem_cons_of_mem _ member) (since.aged other fresh)
  | putInterp name session =>
      refine obeys_using fun state present usable => obeys_get_bind ?_
      exact obeys_put answers setup.engine sound standing
        (fun desk => { desk with interps := world.desk.interps.insert name session }) usable
        (world.desk.puts_interp name session)
  | putProc name proc =>
      refine obeys_using fun state present usable => obeys_get_bind ?_
      exact obeys_put answers setup.engine sound standing
        (fun desk => { desk with procs := world.desk.procs.insert name proc }) usable
        (world.desk.puts_proc name proc)
  | putVar name var =>
      refine obeys_using fun state present usable => obeys_get_bind ?_
      exact obeys_put answers setup.engine sound standing
        (fun desk => { desk with vars := world.desk.vars.insert name var }) usable
        (world.desk.puts_var name var)
  | dropInterp name =>
      change (dropInterp setup.engine dispatch name).Obeys rules _ world
      unfold dropInterp
      refine obeys_get_bind ?_
      dsimp only
      split
      · exact standing.refl
      · rename_i session found
        exact obeys_drop answers setup.engine sound standing
          (fun desk => { desk with interps := world.desk.interps.erase name }) (Desk.drops_interp found)
  | dropProc name =>
      change (dropProc setup.engine dispatch name).Obeys rules _ world
      unfold dropProc
      refine obeys_get_bind ?_
      dsimp only
      split
      · exact standing.refl
      · rename_i proc found
        exact obeys_drop answers setup.engine sound standing
          (fun desk => { desk with procs := world.desk.procs.erase name }) (Desk.drops_proc found)
  | dropVar name =>
      change (dropVar setup.engine dispatch name).Obeys rules _ world
      unfold dropVar
      refine obeys_get_bind ?_
      dsimp only
      split
      · exact standing.refl
      · rename_i var found
        exact obeys_drop answers setup.engine sound standing
          (fun desk => { desk with vars := world.desk.vars.erase name }) (Desk.drops_var found)
  | environment => exact standing.refl
  | readFile path => exact standing.refl
  | note entry =>
      refine (obeys_emit rfl world).weaken fun _ later recorded => ?_
      subst recorded
      exact standing.kept (push_beside world (.note entry) rfl).kept

theorem obeys_program (setup : Setup σ H N) (program : Host H N α) (sound : world.Sound)
    (standing : Standing caller rest world) :
    (Program.run (perform setup dispatch) program).Obeys rules
      (fun _ later => Onward caller rest world later) world := by
  induction program generalizing world with
  | done result => exact standing.refl
  | ask request next ih =>
      refine sound.bind (obeys_perform answers setup request sound standing) ?_
      intro answer later onward soundLater
      refine (ih answer soundLater onward.standing).weaken fun _ _ finished => ?_
      exact onward.trans finished

theorem obeys_runHandler (setup : Setup σ H N) (session : SessionId) (words : List String)
    (sound : world.Sound) (secured : Secured rest world)
    (frames : world.frames = ⟨some session, []⟩ :: rest) :
    (runHandler setup dispatch session words).Obeys rules (fun outcome later =>
      (∃ kept, later.frames = ⟨some session, kept⟩ :: rest) ∧ Since rest world later ∧
        (world.IsFresh session → outcome.exitStatus? = none)) world := by
  obtain ⟨state, present⟩ := sound.alive frames (holds_caller session [])
  unfold runHandler
  refine obeys_get_bind ?_
  simp only [present]
  cases routed : state.commands.route words with
  | nowhere message => exact ⟨⟨[], frames⟩, Since.refl, fun _ => rfl⟩
  | handler handler arguments =>
      have settled := sound.settled_of_routed present routed
      have standing := Standing.of_called secured frames settled
      refine (obeys_program answers setup _ sound standing).weaken fun outcome later onward => ?_
      exact ⟨onward.standing.frames, onward.since, fun fresh => absurd fresh settled⟩

theorem obeys_answerCall (setup : Setup σ H N) (session : SessionId) (words : List Obj)
    {before : List (Event N)} {state : Session H} (sound : world.Sound)
    (secured : Secured world.frames world) (called : world.record = before ++ [.called session])
    (present : world.sessions[session]? = some state) :
    (answerCall setup dispatch session words).Obeys rules (fun _ later => Kept world later)
      world := by
  unfold answerCall
  have entered := Step.answering sound present
  have entering : Since world.frames world ({ world with
      frames := { caller := some session } :: world.frames } : World σ H N) :=
    Since.of_sessions rfl (List.append_nil _).symm (Record.closed_of_silent (by simp))
  refine obeys_modify_bind entered ?_
  refine (entered.sound sound).bind (obeys_call (Call.emits_mapM fun word =>
    Call.emits_text setup.engine (some word)).quiet _) ?_
  intro arguments read beside soundRead
  have sinceRead := entering.trans beside.since
  refine soundRead.bind (obeys_runHandler answers setup session arguments soundRead
    (sinceRead.secured secured) beside.frames) ?_
  rintro outcome handled ⟨⟨kept, framesHandled⟩, since, settled⟩ soundHandled
  have sinceHandled := sinceRead.trans since
  refine soundHandled.bind (obeys_dropKept answers setup.engine soundHandled
    (sinceHandled.secured secured) framesHandled) ?_
  rintro _ dropped ⟨framesDropped, dropping⟩ soundDropped
  have sinceDropped := sinceHandled.trans dropping
  obtain ⟨current, presentDropped⟩ := soundDropped.alive framesDropped (holds_caller session [])
  have settledFirst : world.IsFresh session → outcome.exitStatus? = none :=
    fun fresh => settled ((IsFresh.of_sessions beside.sessions).mpr fresh)
  obtain ⟨answered, answering⟩ :=
    answer_step sound present called sinceDropped presentDropped settledFirst
  refine obeys_modify_bind answered ?_
  refine (answered.sound soundDropped).bind
    (obeys_call (Call.emits_setResult setup.engine session _).quiet _) ?_
  intro _ told besideTold soundTold
  have sinceTold := (sinceDropped.trans answering).trans besideTold.since
  have framesTold : told.frames = ⟨some session, []⟩ :: world.frames := by
    rw [besideTold.frames, ← framesDropped]
    exact frames_update dropped session _
  refine soundTold.bind (obeys_endFrame answers setup.engine session soundTold
    (sinceTold.secured secured) framesTold) ?_
  rintro _ later ⟨framesLater, ended⟩ _
  exact ⟨framesLater, sinceTold.trans ended⟩

omit answers in
/-- However deep callbacks are answered within callbacks, each is answered by the rules. -/
theorem answers_dispatch (setup : Setup σ H N) (fuel : Nat) : Answers (Run.dispatch setup fuel) := by
  -- A program that answers a callback has its own callbacks answered with less fuel.
  induction fuel with
  | zero =>
      intro world session words before _ _ _
      exact obeys_stop (by simp)
  | succ fuel ih =>
      intro world session words before sound secured called
      unfold Run.dispatch
      refine obeys_get_bind ?_
      split
      · rename_i known
        rw [Std.TreeMap.contains_eq_isSome_getElem?, Option.isSome_iff_exists] at known
        obtain ⟨state, present⟩ := known
        exact Process.obeys_bind.mpr (obeys_answerCall ih setup session words sound secured called
          present)
      · refine sound.bind (obeys_call (Call.emits_setResult setup.engine session _).quiet world) ?_
        intro _ later beside _
        exact beside.kept

end Run

theorem World.standing_start (store : σ) (library : Library) :
    Standing none [] (start store library : World σ H N) := by
  refine ⟨⟨[], rfl⟩, fun session _ ⟨state, present, _⟩ => ?_, fun session running => ?_⟩
  · simp [start] at present
  · simp [start, depthOf] at running

namespace Host

open World

variable (setup : Setup σ H N) (fuel : Nat) (program : Host H N α) (store : σ) (library : Library)

theorem obeys_run : (Host.run setup fuel program).Obeys rules (fun _ _ => True)
    (start store library) := by
  have answers := Run.answers_dispatch setup fuel
  exact (Run.obeys_program answers setup program (sound_start store library)
    (standing_start store library)).weaken fun _ _ _ => trivial

theorem sound_after (count : Nat) :
    ((Host.run setup fuel program).after count (start store library)).Sound :=
  ((obeys_run setup fuel program store library).reaches_after count).preserved
    (fun _ _ step => step.sound) (sound_start store library)

variable {setup fuel program store library}

/-- Another program may begin where a run has returned. -/
theorem stands_finally {result : α}
    (returned : ∃ final, (Host.run setup fuel program).exec (start store library) =
      .ok result final) :
    let final := Process.finalState ((Host.run setup fuel program).exec (start store library))
    final.Sound ∧ Standing none [] final := by
  obtain ⟨final, returned⟩ := returned
  obtain ⟨onward, reached⟩ := (Run.obeys_program (Run.answers_dispatch setup fuel) setup program
    (sound_start store library) (standing_start store library)).exec_ok returned
  rw [returned]
  exact ⟨reached.preserved (fun _ _ step => step.sound) (sound_start store library),
    onward.standing⟩

end Host

end TclHost
