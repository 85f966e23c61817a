import TclHost.Proofs.Lifecycle.Opening

/-!
Whatever programs ask for, interpreters are taken care of, and so they are when the library calls
back.
-/

namespace TclHost

variable {σ H N α β : Type}

namespace World

variable {interp session : InterpId} {world between later : World (Audited σ) H N}
  {phase next last : Phase} {caller : Option SessionId} {rest : List Frame}

/-- A program is running, and whoever is at work on the interpreter waits further out. -/
structure Attending (interp : InterpId) (caller : Option SessionId) (rest : List Frame)
    (world : World (Audited σ) H N) (phase : Phase) : Prop where
  frames : ∃ kept, world.frames = ⟨caller, kept⟩ :: rest
  attended : world.Attended interp phase
  outer : ∀ calls, phase = .alive (calls + 1) → rest.any (·.holds interp) = true

def Outside (interp : InterpId) (world : World (Audited σ) H N) : Prop :=
  world.Hidden interp ∧ world.mayUse interp = false

structure Proceeds (interp : InterpId) (caller : Option SessionId) (rest : List Frame)
    (world : World (Audited σ) H N) (phase : Phase) (later : World (Audited σ) H N)
    (next : Phase) : Prop where
  frames : ∃ kept, later.frames = ⟨caller, kept⟩ :: rest
  yields : phase.Yields next
  attended : later.Attended interp next
  outside : world.Outside interp → later.Outside interp

theorem Attending.held (attending : world.Attending interp caller rest phase)
    (usable : world.mayUse session = true) : world.frames.any (·.holds session) = true := by
  obtain ⟨kept, frames⟩ := attending.frames
  rw [mayUse_eq frames] at usable
  rw [frames, List.any_cons, usable, Bool.true_or]

theorem Attending.upheld (attending : world.Attending interp caller rest phase)
    (upheld : world.Upheld interp phase later next) :
    world.Proceeds interp caller rest phase later next where
  frames := by
    rw [upheld.frames]
    exact attending.frames
  yields := upheld.yields
  attended := upheld.attended
  outside outside := by
    refine ⟨upheld.hidden outside.1, ?_⟩
    rw [mayUse, upheld.frames]
    exact outside.2

/-- The program may have come by new handles, but not by one of a hidden session. -/
theorem Spared.proceeds {kept keptLater : List SessionId}
    (spared : world.Spared interp phase later next)
    (frames : world.frames = ⟨caller, kept⟩ :: rest)
    (framesLater : later.frames = ⟨caller, keptLater⟩ :: rest)
    (fewer : world.Hidden interp → interp ∈ keptLater → interp ∈ kept) :
    world.Proceeds interp caller rest phase later next where
  frames := ⟨keptLater, framesLater⟩
  yields := spared.yields
  attended := spared.attended
  outside := by
    rintro ⟨hidden, unheld⟩
    refine ⟨spared.hidden hidden, ?_⟩
    rw [mayUse_eq frames] at unheld
    rw [mayUse_eq framesLater]
    simp only [Frame.holds, Bool.or_eq_false_iff, List.contains_eq_mem, decide_eq_false_iff_not]
      at unheld ⊢
    exact ⟨unheld.1, fun held => unheld.2 (fewer hidden held)⟩

theorem Attending.refl (attending : world.Attending interp caller rest phase) :
    world.Proceeds interp caller rest phase world phase :=
  attending.upheld attending.attended.refl

theorem Attending.proceeds (attending : world.Attending interp caller rest phase)
    (proceeds : world.Proceeds interp caller rest phase later next) :
    later.Attending interp caller rest next where
  frames := proceeds.frames
  attended := proceeds.attended
  outer calls busy := attending.outer calls (proceeds.yields.eq_of_alive busy)

theorem Proceeds.trans (first : world.Proceeds interp caller rest phase between next)
    (second : between.Proceeds interp caller rest next later last) :
    world.Proceeds interp caller rest phase later last where
  frames := second.frames
  yields := first.yields.trans second.yields
  attended := second.attended
  outside := second.outside ∘ first.outside

/-- Handles may be moved about freely, as long as they come from somewhere. -/
theorem Attending.moved (attending : world.Attending interp caller rest phase)
    {kept : List SessionId} (framesLater : later.frames = ⟨caller, kept⟩ :: rest)
    (scene : later.scene = world.scene) (sessions : later.sessions = world.sessions)
    (created : later.created = world.created)
    (holds : world.holds interp = true → later.holds interp = true)
    (offDesk : world.Outside interp → later.desk.holds interp = false)
    (unheld : world.Outside interp → later.mayUse interp = false) :
    world.Proceeds interp caller rest phase later phase where
  frames := ⟨kept, framesLater⟩
  yields := phase.yields_refl
  attended := by
    refine ⟨?_, attending.attended.suits.mono ?_ (Nat.le_of_eq created.symm) holds ?_⟩
    · rw [phase?, visits, scene]
      exact attending.attended.known
    · rw [Present, sessions]
      exact id
    · intro calls busy _
      simp [framesLater, attending.outer calls busy]
  outside outside := by
    refine ⟨⟨created ▸ outside.1.asked, offDesk outside, ?_⟩, unheld outside⟩
    rw [sessions]
    exact outside.1.unused

end World

namespace Run

open World

variable {interp session : InterpId} {phase : Phase} {world : World (Audited σ) H N}
  {dispatch : Dispatch (Audited σ) H N} {engine : Engine σ} {setup : Setup σ H N}
  {caller : Option SessionId} {rest : List Frame}

theorem cares_held_bind {post : α → World (Audited σ) H N → Prop}
    {next : Session H → Run (Audited σ) H N α} (attended : world.Attended interp phase)
    (rest : ∀ state, world.Present session → world.mayUse session = true →
      (next state).Cares interp post world) :
    (held session >>= next).Cares interp post world := by
  unfold held
  refine Process.follows_bind.mpr (cares_get_bind attended.still ?_)
  split
  · rename_i state present
    split
    · rename_i usable
      exact rest state ⟨state, present⟩ usable
    · exact attended.not_due
  · exact attended.not_due

theorem cares_using {post : α → World (Audited σ) H N → Prop}
    {next : PUnit → Run (Audited σ) H N α} (attended : world.Attended interp phase)
    (rest : world.Present session → world.mayUse session = true →
      (next ⟨⟩).Cares interp post world) :
    (discard (held session) >>= next).Cares interp post world := by
  rw [discard_held_bind]
  exact cares_held_bind attended fun _ => rest

theorem cares_keep (attending : world.Attending interp caller rest phase)
    (onDesk : world.desk.holds session = true) {answer : α} :
    (do modify (·.keep session); return answer : Run (Audited σ) H N α).Cares interp
      (fun _ later => ∃ next, world.Proceeds interp caller rest phase later next) world := by
  obtain ⟨kept, frames⟩ := attending.frames
  have same : world.keep session =
      { world with frames := ⟨caller, session :: kept⟩ :: rest } := by
    simp [keep, frames]
  have kept : world.Proceeds interp caller rest phase (world.keep session) phase := by
    rw [same]
    refine attending.moved rfl rfl rfl rfl ?_ (fun outside => outside.1.offDesk) ?_
    · simp only [holds, frames, List.any_cons, Frame.holds, Bool.or_eq_true, List.contains_cons]
      grind
    · rintro ⟨hidden, unheld⟩
      have different : interp ≠ session := fun own => by
        have off := hidden.offDesk
        rw [own, onDesk] at off
        cases off
      rw [mayUse_eq frames] at unheld
      simp only [mayUse, Frame.holds, Bool.or_eq_false_iff, List.contains_cons] at unheld ⊢
      grind
  exact cares_modify_bind (attending.attended.heeds kept.attended) fun _ => ⟨phase, kept⟩

theorem cares_setCommands (attending : world.Attending interp caller rest phase)
    (usable : world.mayUse session = true) (change : Session H → Session H) {answer : α} :
    (do update session change; return answer : Run (Audited σ) H N α).Cares interp
      (fun _ later => ∃ next, world.Proceeds interp caller rest phase later next) world := by
  have changed : world.Proceeds interp caller rest phase (world.update session change) phase := by
    refine ⟨?_, phase.yields_refl, attending.attended.updated session change, ?_⟩
    · rw [frames_update]
      exact attending.frames
    · rintro ⟨hidden, unheld⟩
      have different : session ≠ interp := by
        rintro rfl
        rw [usable] at unheld
        cases unheld
      refine ⟨hidden.update fun own => absurd own different, ?_⟩
      rw [mayUse, frames_update]
      exact unheld
  exact cares_modify_bind (attending.attended.heeds changed.attended) fun _ => ⟨phase, changed⟩

section Handles

variable (attends : Attends interp dispatch) (sound : world.Sound)
  (attending : world.Attending interp caller rest phase) (change : Desk → Desk)

theorem outside_desk (usable : ∀ other, (change world.desk).holds other = true →
      world.desk.holds other = true ∨ world.mayUse other = true) (outside : world.Outside interp) :
    ({ world with desk := change world.desk } : World (Audited σ) H N).Outside interp := by
  obtain ⟨⟨asked, offDesk, unused⟩, unheld⟩ := outside
  refine ⟨⟨asked, Bool.eq_false_iff.mpr fun held => ?_, unused⟩, unheld⟩
  rcases usable interp held with before | own
  · simp [offDesk] at before
  · simp [unheld] at own

include attends sound attending

variable (engine) in
theorem cares_swept (session : SessionId)
    (usable : ∀ other, (change world.desk).holds other = true →
      world.desk.holds other = true ∨ world.mayUse other = true)
    (fewer : ∀ other, world.desk.holds other = true →
      (change world.desk).holds other = true ∨ session = other) :
    world.Heeds interp { world with desk := change world.desk } ∧
      (({ world with desk := change world.desk } : World (Audited σ) H N).Sound →
        (sweep engine.audited dispatch session).Cares interp
          (fun _ later => ∃ next, world.Proceeds interp caller rest phase later next)
          { world with desk := change world.desk }) := by
  obtain ⟨kept, frames⟩ := attending.frames
  obtain ⟨heeds, loose⟩ := attending.attended.loose session
    { world with desk := change world.desk } sound rfl rfl rfl
    (fun held => by
      rw [holds, Bool.or_eq_true] at held
      rcases held with onDesk | inFrames
      · exact (fewer interp onDesk).imp_left fun still => by simp [holds, still]
      · exact .inl (by simp [holds, inFrames]))
    fun _ _ => id
  refine ⟨heeds, fun soundGiven => ?_⟩
  refine (cares_sweep attends soundGiven loose).weaken soundGiven ?_
  rintro _ later ⟨next, upheld, _⟩ _
  refine ⟨next, ⟨kept, upheld.frames.trans frames⟩, upheld.yields, upheld.attended, ?_⟩
  intro outside
  have given := outside_desk change usable outside
  refine ⟨upheld.hidden given.1, ?_⟩
  rw [mayUse, upheld.frames]
  exact given.2

theorem cares_drop (drops : world.desk.Drops (change world.desk) session) {answer : α} :
    (do modify fun world => { world with desk := change world.desk }
        sweep engine.audited dispatch session
        return answer : Run (Audited σ) H N α).Cares interp
      (fun _ later => ∃ next, world.Proceeds interp caller rest phase later next) world := by
  obtain ⟨heeds, swept⟩ := cares_swept engine attends sound attending change session
    (fun other held => .inl (drops.fewer other held)) drops.kept
  refine cares_modify_bind heeds fun soundGiven => ?_
  exact cares_bind (swept soundGiven) soundGiven fun _ _ proceeds _ => proceeds

theorem cares_put {replaced : Option SessionId}
    (puts : world.desk.Puts (change world.desk) session replaced)
    (usable : world.mayUse session = true) :
    (do modify fun world => { world with desk := change world.desk }
        sweepReplaced engine.audited dispatch replaced : Run (Audited σ) H N Unit).Cares interp
      (fun _ later => ∃ next, world.Proceeds interp caller rest phase later next) world := by
  have known := usable_of_puts puts usable
  cases replaced with
  | none =>
      obtain ⟨kept, frames⟩ := attending.frames
      have moved : world.Proceeds interp caller rest phase
          { world with desk := change world.desk } phase := by
        refine attending.moved frames rfl rfl rfl (fun held => ?_)
          (fun outside => (outside_desk change known outside).1.offDesk) fun outside => outside.2
        rw [holds, Bool.or_eq_true] at held
        rcases held with onDesk | inFrames
        · rcases puts.kept interp onDesk with still | gone
          · simp [holds, still]
          · cases gone
        · simp [holds, inFrames]
      exact cares_modify_bind (attending.attended.heeds moved.attended) fun _ => ⟨phase, moved⟩
  | some replaced =>
      obtain ⟨heeds, swept⟩ := cares_swept engine attends sound attending change replaced known
        fun other held => (puts.kept other held).imp_right Option.some.inj
      exact cares_modify_bind heeds swept

end Handles

theorem cares_perform (attends : Attends interp dispatch) (request : Request H N)
    (sound : world.Sound) (attending : world.Attending interp caller rest phase) :
    (perform setup.audited dispatch request).Cares interp
      (fun _ later => ∃ next, world.Proceeds interp caller rest phase later next) world := by
  have attended := attending.attended
  have going : ∀ {β : Type} {run : Run (Audited σ) H N β}, run.Cares interp
      (fun _ later => ∃ next, world.Upheld interp phase later next) world →
        run.Cares interp
          (fun _ later => ∃ next, world.Proceeds interp caller rest phase later next) world :=
    fun cares => cares.weaken sound fun _ later held _ => held.imp fun _ => attending.upheld
  have working : ∀ {β : Type} {session : SessionId} {call : Call (Audited σ) N β},
      call.Visits session .use → world.Present session → (Run.call call).Cares interp
        (fun _ later => ∃ next, world.Proceeds interp caller rest phase later next) world := by
    intro β session call visits present
    refine (cares_call visits attended fun own => (attended.usable (own ▸ present)).1).weaken
      sound ?_
    exact fun _ later upheld _ => ⟨phase, attending.upheld upheld⟩
  cases request with
  | evaluate session script =>
      refine cares_using attended fun _ usable => going ?_
      exact cares_evaluate attends (attending.held usable) attended script
  | makeSafe session =>
      refine cares_using attended fun _ usable => going ?_
      exact cares_makeSafe attends (attending.held usable) sound attended
  | result session =>
      exact cares_using attended fun present _ => working (Call.visits_result setup.engine) present
  | quoteList session words =>
      exact cares_using attended fun present _ =>
        working (Call.visits_quoteList setup.engine words) present
  | splitList session list =>
      exact cares_using attended fun present _ =>
        working (Call.visits_splitList setup.engine list) present
  | inspect session =>
      change (held session).Cares interp _ world
      rw [← bind_pure (held session)]
      exact cares_held_bind attended fun _ _ _ => ⟨phase, attending.refl⟩
  | insertCommand session name handler =>
      exact cares_held_bind attended fun _ _ usable => cares_setCommands attending usable _
  | eraseCommand session name =>
      exact cares_held_bind attended fun _ _ usable => cares_setCommands attending usable _
  | setReceiver session receiver =>
      exact cares_using attended fun _ usable => cares_setCommands attending usable _
  | openSession config =>
      obtain ⟨kept, frames⟩ := attending.frames
      refine (cares_openSession attends sound attended frames attending.outer config).weaken
        sound ?_
      rintro (cause | given) later ⟨next, spared, handed⟩ _
      · exact ⟨next, spared.proceeds frames handed.1 fun _ => id⟩
      · obtain ⟨rfl, _, framesLater⟩ := handed
        refine ⟨next, spared.proceeds frames framesLater fun hidden held => ?_⟩
        exact (List.mem_cons.mp held).resolve_left (Nat.ne_of_lt hidden.asked)
  | takeInterp name =>
      refine cares_get_bind attended.still ?_
      split
      · exact ⟨phase, attending.refl⟩
      · rename_i session found
        exact cares_keep attending (Desk.holds_interp found)
  | takeProc name =>
      refine cares_get_bind attended.still ?_
      split
      · exact ⟨phase, attending.refl⟩
      · rename_i proc found
        exact cares_keep attending (Desk.holds_proc found)
  | takeVar name =>
      refine cares_get_bind attended.still ?_
      split
      · exact ⟨phase, attending.refl⟩
      · rename_i var found
        exact cares_keep attending (Desk.holds_var found)
  | letGo =>
      change (letGo setup.engine.audited dispatch).Cares interp _ world
      obtain ⟨kept, frames⟩ := attending.frames
      cases kept with
      | nil =>
          unfold letGo
          refine cares_get_bind attended.still ?_
          simp only [frames]
          exact ⟨phase, attending.refl⟩
      | cons session kept =>
          refine (cares_letGo attends sound frames attended attending.outer).weaken sound ?_
          rintro _ later ⟨next, spared, framesLater, _⟩ _
          exact ⟨next, spared.proceeds frames framesLater fun _ => List.mem_cons_of_mem session⟩
  | putInterp name session =>
      refine cares_using attended fun _ usable => cares_get_bind attended.still ?_
      exact cares_put attends sound attending
        (fun desk => { desk with interps := world.desk.interps.insert name session })
        (world.desk.puts_interp name session) usable
  | putProc name proc =>
      refine cares_using attended fun _ usable => cares_get_bind attended.still ?_
      exact cares_put attends sound attending
        (fun desk => { desk with procs := world.desk.procs.insert name proc })
        (world.desk.puts_proc name proc) usable
  | putVar name var =>
      refine cares_using attended fun _ usable => cares_get_bind attended.still ?_
      exact cares_put attends sound attending
        (fun desk => { desk with vars := world.desk.vars.insert name var })
        (world.desk.puts_var name var) usable
  | dropInterp name =>
      change (dropInterp setup.engine.audited dispatch name).Cares interp _ world
      refine cares_get_bind attended.still ?_
      dsimp only
      split
      · exact ⟨phase, attending.refl⟩
      · rename_i session found
        exact cares_drop attends sound attending
          (fun desk => { desk with interps := world.desk.interps.erase name }) (Desk.drops_interp found)
  | dropProc name =>
      change (dropProc setup.engine.audited dispatch name).Cares interp _ world
      refine cares_get_bind attended.still ?_
      dsimp only
      split
      · exact ⟨phase, attending.refl⟩
      · rename_i proc found
        exact cares_drop attends sound attending
          (fun desk => { desk with procs := world.desk.procs.erase name }) (Desk.drops_proc found)
  | dropVar name =>
      change (dropVar setup.engine.audited dispatch name).Cares interp _ world
      refine cares_get_bind attended.still ?_
      dsimp only
      split
      · exact ⟨phase, attending.refl⟩
      · rename_i var found
        exact cares_drop attends sound attending
          (fun desk => { desk with vars := world.desk.vars.erase name }) (Desk.drops_var found)
  | environment | readFile path => exact ⟨phase, attending.refl⟩
  | note entry =>
      exact (cares_emit attended (.note entry)).weaken sound
        fun _ later upheld _ => ⟨phase, attending.upheld upheld⟩

end Run

end TclHost
