import TclHost.Proofs.Run.Preparing

/-!
Every run keeps to what its steps may do, and leaves under way what was under way before.
-/

namespace TclHost

open Record (Activity)

variable {σ H N α β : Type}

namespace Run

open World

variable {setup : Setup σ H N} {world : World σ H N} {waiting : List Frame} {session : SessionId}
  {post : α → World σ H N → Prop}

section Parts

variable {dispatch : Dispatch σ H N} (answers : Answers dispatch) (acts : Acts setup dispatch)
include answers acts

omit answers acts in
theorem does_held_bind {next : Session H → Run σ H N α}
    (rest : ∀ state, world.sessions[session]? = some state → world.mayUse session = true →
      (next state).Does setup post world) : (held session >>= next).Does setup post world := by
  unfold held
  apply Process.follows_bind.mpr
  apply does_get_bind
  split
  · rename_i state present
    split
    · rename_i usable
      exact rest state present usable
    · exact Deed.refl world
  · exact Deed.refl world

omit answers acts in
theorem does_using {next : PUnit → Run σ H N α}
    (rest : ∀ state, world.sessions[session]? = some state → world.mayUse session = true →
      (next ⟨⟩).Does setup post world) :
    (discard (held session) >>= next).Does setup post world := by
  rw [discard_held_bind]
  exact does_held_bind rest

omit answers acts in
theorem does_silently {change : World σ H N → World σ H N} {answer : α}
    (record : (change world).record = world.record)
    (sessions : (change world).sessions = world.sessions)
    (library : (change world).library = world.library) :
    (do modify change; return answer : Run σ H N α).Does setup
      (fun _ later => Passed waiting world later) world :=
  fun _ => ⟨Deed.silent record sessions library, (Idle.of_record record).passed⟩

omit answers acts in
theorem does_keep (session : SessionId) {answer : α} :
    (do modify (·.keep session); return answer : Run σ H N α).Does setup
      (fun _ later => Passed waiting world later) world := by
  apply does_silently
  · rw [keep_eq]
    rfl
  · rw [keep_eq]
  · rw [keep_eq]

variable {caller : Option SessionId} {rest : List Frame}

omit answers acts in
theorem does_setCommands {state : Session H} (standing : Standing caller rest world)
    (present : world.sessions[session]? = some state) (usable : world.mayUse session = true)
    (change : CommandTable H → CommandTable H) {answer : α} :
    (do update session fun state => { state with commands := change state.commands }
        return answer : Run σ H N α).Does setup (fun _ later => Passed waiting world later)
      world := by
  have ready : state.stage ≠ .fresh :=
    fun fresh => standing.settled session usable ⟨state, present, fresh⟩
  intro _
  constructor
  · apply Deed.unrecorded
    apply Handling.edit state (change state.commands) present ready usable
    simp [sessions_update, present]
  · exact (Idle.of_record (record_update world session _)).passed

theorem does_swept (session : SessionId) (sound : world.Sound)
    (standing : Standing caller rest world) :
    (sweep setup.engine dispatch session).Does setup (fun _ later => Passed rest world later)
      world := by
  obtain ⟨kept, frames⟩ := standing.frames
  apply (does_sweep answers acts session (standing.secured.cons frames)).weaken sound
  intro _ later passed _
  rw [frames] at passed
  exact passed.outer

theorem does_put (standing : Standing caller rest world) (change : Desk → Desk)
    (replaced : Option SessionId) :
    (do modify fun world => { world with desk := change world.desk }
        sweepReplaced setup.engine dispatch replaced : Run σ H N Unit).Does setup
      (fun _ later => Passed rest world later) world := by
  have moved := standing.kept (desk_kept world (change world.desk))
  refine does_modify_bind (Deed.silent rfl rfl rfl) fun soundMoved => ?_
  cases replaced with
  | none => exact (Idle.of_record rfl).passed
  | some session => exact does_swept answers acts session soundMoved moved.standing

theorem does_drop (standing : Standing caller rest world)
    (change : Desk → Desk) (session : SessionId) {answer : α} :
    (do modify fun world => { world with desk := change world.desk }
        sweep setup.engine dispatch session
        return answer : Run σ H N α).Does setup (fun _ later => Passed rest world later) world := by
  have moved := standing.kept (desk_kept world (change world.desk))
  refine does_modify_bind (Deed.silent rfl rfl rfl) fun soundMoved => ?_
  apply does_then (does_swept answers acts session soundMoved moved.standing) soundMoved
  intro _ later passed _
  exact passed

theorem does_perform (request : Request H N) (sound : world.Sound)
    (standing : Standing caller rest world) :
    (perform setup dispatch request).Does setup (fun _ later => Passed rest world later) world := by
  obtain ⟨kept, frames⟩ := standing.frames
  have fewer : ∀ other, rest.any (·.holds other) = true →
      world.frames.any (·.holds other) = true := by
    intro other holds
    rw [frames, List.any_cons, holds, Bool.or_true]
  cases request with
  | evaluate session script =>
      apply does_using
      intro state present usable
      have settled := standing.settled session usable
      rw [mayUse_eq frames] at usable
      apply (does_evaluate answers acts sound standing.secured frames usable fewer
        (fun _ => settled) script fun fresh => absurd fresh settled).weaken sound
      intro _ later passed _
      exact passed.1
  | makeSafe session =>
      apply does_using
      intro state present usable
      have settled := standing.settled session usable
      rw [mayUse_eq frames] at usable
      apply (does_makeSafe answers acts sound standing.secured frames usable fewer
        fun _ => settled).weaken sound
      intro _ later passed _
      exact passed.1
  | result session =>
      apply does_using
      intro state present usable
      apply (does_objects (Call.emits_result setup.engine session) world).weaken sound
      exact fun _ _ idle _ => idle.passed
  | quoteList session words =>
      apply does_using
      intro state present usable
      apply (does_objects (Call.emits_quoteList setup.engine session words) world).weaken sound
      exact fun _ _ idle _ => idle.passed
  | splitList session list =>
      apply does_using
      intro state present usable
      apply (does_objects (Call.emits_splitList setup.engine session list) world).weaken sound
      exact fun _ _ idle _ => idle.passed
  | inspect session =>
      change (held session).Does setup _ world
      rw [← bind_pure (held session)]
      exact does_held_bind fun _ _ _ => Passed.refl
  | insertCommand session name handler =>
      apply does_held_bind
      intro state present usable
      exact does_setCommands standing present usable (·.insert name handler)
  | eraseCommand session name =>
      apply does_held_bind
      intro state present usable
      exact does_setCommands standing present usable (·.erase name)
  | setReceiver session receiver =>
      apply does_using
      intro state present usable
      exact does_setCommands standing present usable (·.withReceiver receiver)
  | openSession config =>
      apply (does_openSession answers acts config standing.secured frames).weaken sound
      exact fun _ _ passed _ => passed.outer
  | takeInterp name =>
      apply does_get_bind
      split
      · exact Passed.refl
      · exact does_keep _
  | takeProc name =>
      apply does_get_bind
      split
      · exact Passed.refl
      · exact does_keep _
  | takeVar name =>
      apply does_get_bind
      split
      · exact Passed.refl
      · exact does_keep _
  | letGo =>
      cases kept with
      | nil =>
          change (letGo setup.engine dispatch).Does setup _ world
          unfold letGo
          apply does_get_bind
          simp only [frames]
          exact Passed.refl
      | cons session kept =>
          apply (does_letGo answers acts standing.secured frames).weaken sound
          exact fun _ _ passed _ => passed.outer
  | putInterp name session =>
      apply does_using
      intro state present usable
      apply does_get_bind
      exact does_put answers acts standing
        (fun desk => { desk with interps := world.desk.interps.insert name session }) _
  | putProc name proc =>
      apply does_using
      intro state present usable
      apply does_get_bind
      exact does_put answers acts standing
        (fun desk => { desk with procs := world.desk.procs.insert name proc }) _
  | putVar name var =>
      apply does_using
      intro state present usable
      apply does_get_bind
      exact does_put answers acts standing
        (fun desk => { desk with vars := world.desk.vars.insert name var }) _
  | dropInterp name =>
      change (dropInterp setup.engine dispatch name).Does setup _ world
      unfold dropInterp
      apply does_get_bind
      dsimp only
      split
      · exact Passed.refl
      · exact does_drop answers acts standing
          (fun desk => { desk with interps := world.desk.interps.erase name }) _
  | dropProc name =>
      change (dropProc setup.engine dispatch name).Does setup _ world
      unfold dropProc
      apply does_get_bind
      dsimp only
      split
      · exact Passed.refl
      · exact does_drop answers acts standing
          (fun desk => { desk with procs := world.desk.procs.erase name }) _
  | dropVar name =>
      change (dropVar setup.engine dispatch name).Does setup _ world
      unfold dropVar
      apply does_get_bind
      dsimp only
      split
      · exact Passed.refl
      · exact does_drop answers acts standing
          (fun desk => { desk with vars := world.desk.vars.erase name }) _
  | environment => exact Passed.refl
  | readFile path => exact Passed.refl
  | note entry =>
      apply (does_emit rfl (by simp) world).weaken sound
      rintro _ later rfl _
      exact (Idle.of_neutral (record_push world (.note entry))
        (by simp [Event.Neutral, Event.session?, Record.turn])).passed

theorem does_program (program : Host H N α) (sound : world.Sound)
    (standing : Standing caller rest world) :
    (Program.run (perform setup dispatch) program).Does setup
      (fun _ later => Passed rest world later) world := by
  induction program generalizing world with
  | done result => exact Passed.refl
  | ask request next ih =>
      apply does_bind (obeys_perform answers setup request sound standing)
        (does_perform answers acts request sound standing) sound
      intro answer later onward passed soundLater
      apply (ih answer soundLater onward.standing).weaken soundLater
      intro _ last passedLast _
      exact passed.trans onward.since.guarded passedLast

theorem does_runHandler (words : List String) (sound : world.Sound) (secured : Secured rest world)
    (frames : world.frames = ⟨some session, []⟩ :: rest) :
    (runHandler setup dispatch session words).Does setup
      (fun _ later => Passed rest world later) world := by
  obtain ⟨state, present⟩ := sound.alive frames (holds_caller session [])
  unfold runHandler
  apply does_get_bind
  simp only [present]
  cases routed : state.commands.route words with
  | nowhere message => exact Passed.refl
  | handler handler arguments =>
      have settled := sound.settled_of_routed present routed
      exact does_program answers acts _ sound (Standing.of_called secured frames settled)

theorem does_answerCall (words : List Obj) {before : List (Event N)} {state : Session H}
    (sound : world.Sound) (secured : Secured world.frames world)
    (called : world.record = before ++ [.called session])
    (present : world.sessions[session]? = some state) :
    (answerCall setup dispatch session words).Does setup
      (fun _ later => Passed world.frames world later) world := by
  unfold answerCall
  refine does_modify_bind (Deed.silent rfl rfl rfl) fun soundEntered => ?_
  have entering : Since world.frames world ({ world with
      frames := { caller := some session } :: world.frames } : World σ H N) :=
    Since.of_sessions rfl (List.append_nil _).symm (Record.closed_of_silent (by simp))
  have reading := (Call.emits_mapM fun word => Call.emits_text setup.engine (some word) :
    Call.Emits Event.IsObject (words.tail.mapM fun word => Call.text setup.engine (some word) :
      Call σ N (List String)))
  apply does_bind (obeys_call reading.quiet _) (does_objects reading _) soundEntered
  intro arguments read beside idle soundRead
  have sinceRead := entering.trans beside.since
  have securedRead := sinceRead.secured secured
  have passedRead : Passed world.frames world read := ((Idle.of_record rfl).trans idle).passed
  apply does_bind (obeys_runHandler answers setup session arguments soundRead securedRead
    beside.frames) (does_runHandler answers acts arguments soundRead securedRead beside.frames)
    soundRead
  rintro outcome handled ⟨⟨kept, framesHandled⟩, since, settled⟩ passed soundHandled
  have sinceHandled := sinceRead.trans since
  have passedHandled := passedRead.trans sinceRead.guarded passed
  apply does_bind (obeys_dropKept answers setup.engine soundHandled
    (sinceHandled.secured secured) framesHandled)
    (does_dropKept answers acts soundHandled (sinceHandled.secured secured) framesHandled)
    soundHandled
  rintro _ dropped ⟨framesDropped, dropping⟩ passed soundDropped
  have sinceDropped := sinceHandled.trans dropping
  have passedDropped := passedHandled.trans sinceHandled.guarded passed
  obtain ⟨current, presentDropped⟩ := soundDropped.alive framesDropped (holds_caller session [])
  have settledFirst : world.IsFresh session → outcome.exitStatus? = none :=
    fun fresh => settled ((IsFresh.of_sessions beside.sessions).mpr fresh)
  obtain ⟨_, answering⟩ :=
    answer_step sound present called sinceDropped presentDropped settledFirst
  -- What was under way before the handler ran is so again: the call itself.
  have inside : dropped.innermost = some (.answering, session) := by
    rw [innermost, passedDropped.underWay, called, Record.underWay_concat]
    rfl
  apply does_modify_bind (Deed.within inside rfl (by simp) (by simp))
  intro soundAnswered
  have answered : Idle dropped (dropped.answer session outcome) := by
    apply Idle.noted (fun _ => rfl)
    rintro _ ⟨⟩
  apply does_bind (obeys_call (Call.emits_setResult setup.engine session _).quiet _)
    (does_objects (Call.emits_setResult setup.engine session _) _) soundAnswered
  intro _ told besideTold idleTold soundTold
  have sinceTold := (sinceDropped.trans answering).trans besideTold.since
  have framesTold : told.frames = ⟨some session, []⟩ :: world.frames := by
    rw [besideTold.frames, ← framesDropped]
    exact frames_update dropped session _
  have passedTold := passedDropped.idle (answered.trans idleTold)
  apply does_then (does_endFrame answers acts session (sinceTold.secured secured) framesTold)
    soundTold
  intro _ later passed _
  exact passedTold.trans sinceTold.guarded passed

end Parts

theorem acts_dispatch (fuel : Nat) : Acts setup (Run.dispatch setup fuel) := by
  induction fuel with
  | zero =>
      intro world session words before _ _ _
      exact Deed.refl world
  | succ fuel ih =>
      intro world session words before sound secured called
      unfold Run.dispatch
      apply does_get_bind
      split
      · rename_i known
        rw [Std.TreeMap.contains_eq_isSome_getElem?, Option.isSome_iff_exists] at known
        obtain ⟨state, present⟩ := known
        exact Process.follows_bind.mpr (does_answerCall (answers_dispatch setup fuel) ih words sound
          secured called present)
      · apply does_then (does_objects (Call.emits_setResult setup.engine session _) world) sound
        intro _ later idle _
        exact idle.passed

/-- What every step preserves holds after a request as well. -/
theorem perform_preserves {fuel : Nat} {request : Request H N} {answer : request.Answer}
    {caller : Option SessionId} {rest : List Frame} {world later : World σ H N}
    {holds : World σ H N → Prop}
    (step : ∀ first second, first.Sound → Step first second → Deed setup first second →
      holds first → holds second)
    (sound : world.Sound) (standing : Standing caller rest world) (initially : holds world)
    (performed : (perform setup (Run.dispatch setup fuel) request).exec world = .ok answer later) :
    later.Sound ∧ Onward caller rest world later ∧ holds later := by
  have answers := answers_dispatch setup fuel
  have obeys := obeys_perform answers setup request sound standing
  have does := does_perform answers (acts_dispatch fuel) request sound standing
  have both := obeys.both (obeys.follows sound (fun _ _ step => step.sound) does)
  obtain ⟨⟨onward, _⟩, reached⟩ := both.exec_ok performed
  have known : later.Sound ∧ holds later := by
    apply reached.preserved _ ⟨sound, initially⟩
    intro first second both known
    exact ⟨both.1.sound known.1, step first second known.1 both.1 both.2 known.2⟩
  exact ⟨known.1, onward, known.2⟩

end Run

namespace Host

open World

variable (setup : Setup σ H N) (fuel : Nat) (program : Host H N α) (store : σ) (library : Library)

theorem obeys_deeds :
    (Host.run setup fuel program).Obeys (deeds setup) (fun _ _ => True) (start store library) := by
  have answers := Run.answers_dispatch setup fuel
  have sound : (start store library : World σ H N).Sound := sound_start store library
  have standing : Standing none [] (start store library : World σ H N) :=
    standing_start store library
  have does := Run.does_program answers (Run.acts_dispatch fuel) program sound standing
  have obeys := obeys_run setup fuel program store library
  apply obeys.follows sound (fun _ _ step => step.sound)
  exact does.weaken sound fun _ _ _ _ => trivial

/-- What every step preserves, and the end of the process, holds at every moment of a run. -/
theorem throughout {holds : World σ H N → Prop} {world : World σ H N}
    (initially : holds (start store library))
    (step : ∀ first second, first.Sound → Step first second → Deed setup first second →
      holds first → holds second)
    (halt : ∀ cause last later, later.Sound → rules.halt cause last later →
      Deed setup later (last later) → holds later → holds (last later))
    (comes : (Host.run setup fuel program).ComesTo (start store library) world) : holds world := by
  have obeys := (obeys_run setup fuel program store library).both
    (obeys_deeds setup fuel program store library)
  let known : World σ H N → Prop := fun world => world.Sound ∧ holds world
  have started : known (start store library) := ⟨sound_start store library, initially⟩
  rcases obeys.comesTo comes with reaches | ⟨cause, last, between, reaches, halted, rfl⟩
  · apply (Process.Rules.Reaches.preserved reaches _ started).2
    intro first second both known
    exact ⟨both.1.sound known.1, step first second known.1 both.1 both.2 known.2⟩
  · have before : known between := by
      apply Process.Rules.Reaches.preserved reaches _ started
      intro first second both known
      exact ⟨both.1.sound known.1, step first second known.1 both.1 both.2 known.2⟩
    exact halt cause last between before.1 halted.1 halted.2 before.2

/-- From one moment of a run to the next the world changes by a deed, if it does. -/
theorem deed_after (count : Nat) :
    Deed setup ((Host.run setup fuel program).after count (start store library))
      ((Host.run setup fuel program).after (count + 1) (start store library)) := by
  rcases (obeys_deeds setup fuel program store library).step_after count with deed | same
  · exact deed
  · rw [same]
    exact Deed.refl _

end Host

end TclHost
