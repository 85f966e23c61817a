import TclHost.Proofs.Objects.Callbacks

/-!
Every run keeps the objects in order, however callbacks are nested and however handlers end.
-/

namespace TclHost

variable {σ H N α β : Type}

namespace World

variable {shows : σ → Heap → Prop} {outside : Multiset Obj} {pending : List InterpId}
  {caller : Option SessionId} {rest : List Frame} {world : World σ H N} {session : SessionId}

def Serving (shows : σ → Heap → Prop) (outside : Multiset Obj) (pending : List InterpId)
    (caller : Option SessionId) (rest : List Frame) (world : World σ H N) : Prop :=
  ∃ kept, world.Balanced shows outside pending (⟨caller, kept⟩ :: rest)

theorem Balanced.held {frame : Frame}
    (balanced : world.Balanced shows outside pending (frame :: rest))
    (usable : world.mayUse session = true) :
    (frame :: rest).any (·.holds session) = true := by
  rw [mayUse_eq balanced.frames_eq] at usable
  rw [List.any_cons, usable, Bool.true_or]

theorem Balanced.desk {frames : List Frame}
    (balanced : world.Balanced shows outside pending frames) (desk : Desk) :
    ({ world with desk } : World σ H N).Balanced shows outside pending frames := by
  obtain rfl := balanced.frames_eq
  exact balanced.handled rfl (fun _ => Iff.rfl) (Nat.le_refl _)

theorem Balanced.not_mem_pending {frames : List Frame}
    (balanced : world.Balanced shows outside pending frames) : world.created ∉ pending := by
  obtain ⟨_, _, accounted⟩ := balanced
  exact fun member => Nat.lt_irrefl _ (accounted.asked _ member)

theorem Balanced.numbered {frames : List Frame}
    (balanced : world.Balanced shows outside pending frames) :
    ({ world with created := world.created + 1 } : World σ H N).Balanced shows outside pending
      frames := by
  obtain rfl := balanced.frames_eq
  exact balanced.handled rfl (fun _ => Iff.rfl) (Nat.le_succ _)

theorem Balanced.keep {kept : List SessionId}
    (balanced : world.Balanced shows outside pending (⟨caller, kept⟩ :: rest))
    (session : SessionId) :
    (world.keep session).Balanced shows outside pending (⟨caller, session :: kept⟩ :: rest) := by
  have same : world.keep session =
      { world with frames := ⟨caller, session :: kept⟩ :: rest } := by
    simp [World.keep, balanced.frames_eq]
  rw [same]
  exact balanced.handled rfl (fun _ => Iff.rfl) (Nat.le_refl _)

end World

namespace Run

open World

variable {shows : σ → Heap → Prop} {outside : Multiset Obj} {pending : List InterpId}
  {frames rest : List Frame} {caller : Option SessionId} {kept : List SessionId}
  {world : World σ H N} {dispatch : Dispatch σ H N} {engine : Engine σ} {session : SessionId}

/-! Opening sessions. -/

theorem balances_attempt {run : ExceptT Error (Run σ H N) α}
    {next : α → ExceptT Error (Run σ H N) β} {holds : World σ H N → Prop}
    (first : run.run.Balances shows (fun _ => holds) world) (sound : world.Sound)
    (rest : ∀ answer later, holds later → later.Sound →
      (next answer).run.Balances shows (fun _ => holds) later) :
    (run >>= next).run.Balances shows (fun _ => holds) world := by
  rw [ExceptT.run_bind]
  refine balances_bind first sound fun outcome later still sound => ?_
  cases outcome with
  | ok answer => exact rest answer later still sound
  | error cause => exact still

theorem balances_create (laws : engine.KeepsBooks shows)
    (balanced : world.Balanced shows outside pending frames) (sound : world.Sound) :
    (Run.call (Call.create engine world.created)).Balances shows
      (fun granted later => later.Balanced shows outside
        (if granted then world.created :: pending else pending) frames)
      ({ world with created := world.created + 1 } : World σ H N) := by
  have new := balanced.not_mem_pending
  obtain ⟨interps, tidy, accounted⟩ := balanced
  have unknown : ¬ world.Present world.created := by
    rintro ⟨state, present⟩
    exact Nat.lt_irrefl _ (sound.known _ state present)
  have absent : world.created ∉ interps := by
    intro member
    rcases (accounted.exist _).mp member with present | waiting
    · exact unknown present
    · exact new waiting
  obtain rfl := accounted.frames
  have counted : ({ world with created := world.created + 1 } : World σ H N).Accounted interps
      pending world.frames :=
    ⟨rfl, accounted.exist, accounted.apart,
      fun interp member => Nat.lt_succ_of_lt (accounted.asked interp member)⟩
  refine balances_call ?_
  have made := laws.create tidy absent
  have after : ({ world with
      created := world.created + 1
      scene := {
        events := world.scene.events.push (.create world.created)
        store := (engine.create world.created world.scene.store).2 } } : World σ H N).Balanced
      shows outside (if (engine.create world.created world.scene.store).1 then
        world.created :: pending else pending) world.frames := by
    cases granted : (engine.create world.created world.scene.store).1 with
    | false =>
        rw [granted] at made
        exact ⟨interps, made, counted.frames, counted.exist, counted.apart, counted.asked⟩
    | true =>
        rw [granted] at made
        have waits := counted.await unknown (Nat.lt_succ_self world.created)
        exact ⟨_, made, waits.frames, waits.exist, waits.apart, waits.asked⟩
  exact ⟨after, after.inBalance⟩

theorem balances_allocate (laws : engine.KeepsBooks shows)
    (balanced : world.Balanced shows outside pending (⟨caller, kept⟩ :: rest))
    (sound : world.Sound) :
    (allocate engine).Balances shows (fun outcome later =>
      match outcome with
      | .ok session => later.Balanced shows outside pending (⟨caller, session :: kept⟩ :: rest)
      | .error _ => later.Balanced shows outside pending (⟨caller, kept⟩ :: rest)) world := by
  unfold allocate
  refine balances_get_bind balanced ?_
  refine balances_modify_bind balanced.numbered fun soundCounted => ?_
  refine balances_bind (balances_create laws balanced sound) soundCounted ?_
  intro granted asked balancedAsked soundAsked
  cases granted with
  | false => exact balancedAsked
  | true =>
      -- Until its session is enrolled the interpreter is there as one that waits.
      have waiting : world.created ∈ world.created :: pending := by simp
      have new : world.created ∉ pending := balanced.not_mem_pending
      refine balances_bind (balances_discard (balances_call_on balancedAsked (Or.inr waiting)
        fun _ tidy known => laws.init tidy known)) soundAsked ?_
      intro _ initialised balancedInit soundInit
      refine balances_bind (balances_call_on balancedInit (Or.inr waiting)
        fun _ tidy known => laws.preserve tidy known) soundInit ?_
      intro _ between balancedBetween _
      have enrolled := balancedBetween.enrol new
      rw [frames_enrol balancedBetween.frames_eq] at enrolled
      refine balances_modify_bind enrolled fun soundEnrolled => ?_
      have present : (between.enrol world.created).Present world.created :=
        (present_enrol between).mpr (Or.inl rfl)
      refine balances_bind (balances_call_on enrolled (Or.inl present)
        fun _ tidy known => laws.createCommand sendCommand tidy known) soundEnrolled ?_
      exact fun _ later balancedLater _ => balancedLater

variable (laws : engine.KeepsBooks shows) (answers : AnswersInBalance shows dispatch)
include laws answers

section Held

variable (held : frames.any (·.holds session) = true)
include held

theorem balances_listResult (balanced : world.Balanced shows outside pending frames)
    (sound : world.Sound) (script : String) :
    (listResult engine dispatch session script).run.Balances shows
      (fun _ later => later.Balanced shows outside pending frames) world := by
  unfold listResult
  refine balances_attempt (balances_evaluate laws answers held balanced script) sound ?_
  intro text later balancedLater soundLater
  rw [ExceptT.run_bind_lift]
  have present := balancedLater.present soundLater held
  refine balances_bind (balances_call_on balancedLater (Or.inl present)
    fun _ tidy known => Call.tidy_splitList laws tidy known _) soundLater ?_
  exact fun _ last balancedLast _ => balancedLast

theorem balances_prepare (balanced : world.Balanced shows outside pending frames)
    (sound : world.Sound) (safe : Bool) :
    (prepare engine dispatch session safe).run.Balances shows
      (fun _ later => later.Balanced shows outside pending frames) world := by
  have finish : ∀ last : World σ H N, last.Balanced shows outside pending frames →
      (ExceptT.lift (modify (·.ready session)) : ExceptT Error (Run σ H N) PUnit).run.Balances
        shows (fun _ later => later.Balanced shows outside pending frames) last := by
    intro last balancedLast
    have ready : (last.ready session).Balanced shows outside pending frames :=
      (balancedLast.update session _).push _
    exact balances_modify_bind ready fun _ => ready
  unfold prepare
  refine balances_attempt (balances_listResult laws answers held balanced sound _) sound ?_
  intro procs first balancedFirst soundFirst
  refine balances_attempt (balances_listResult laws answers held balancedFirst soundFirst _)
    soundFirst ?_
  intro vars second balancedSecond _
  rw [ExceptT.run_bind_lift]
  have noted := balancedSecond.update session fun state : Session H =>
    { state with builtins := some ⟨procs, vars⟩ }
  refine balances_modify_bind noted fun soundNoted => ?_
  split
  · refine balances_attempt (balances_makeSafe laws answers held noted) soundNoted ?_
    exact fun _ last balancedLast _ => finish last balancedLast
  · exact finish _ noted

end Held

theorem balances_handOut
    (balanced : world.Balanced shows outside pending (⟨caller, session :: kept⟩ :: rest))
    (sound : world.Sound) (safe : Bool) :
    (handOut engine dispatch session safe).Balances shows
      (fun _ later => later.Serving shows outside pending caller rest) world := by
  have held : (⟨caller, session :: kept⟩ :: rest : List Frame).any (·.holds session) = true := by
    simp [Frame.holds]
  unfold handOut
  refine balances_bind (balances_prepare laws answers held balanced sound safe) sound ?_
  rintro (cause | _) prepared balancedPrepared soundPrepared
  · refine balances_bind (balances_letGo laws answers balancedPrepared) soundPrepared ?_
    exact fun _ last balancedLast _ => ⟨_, balancedLast⟩
  · exact ⟨_, balancedPrepared⟩

omit laws in
theorem balances_openSession {setup : Setup σ H N} (laws : setup.engine.KeepsBooks shows)
    (balanced : world.Balanced shows outside pending (⟨caller, kept⟩ :: rest))
    (config : Config) : (openSession setup dispatch config).Balances shows
      (fun _ later => later.Serving shows outside pending caller rest) world := by
  unfold openSession
  refine balances_get_bind balanced ?_
  generalize world.library.load setup.libraries config = loaded
  obtain ⟨outcome, library⟩ := loaded
  have noted : ({ world with library } : World σ H N).Balanced shows outside pending
      (⟨caller, kept⟩ :: rest) := by
    obtain ⟨interps, tidy, accounted⟩ := balanced
    exact ⟨interps, tidy, accounted.frames, accounted.exist, accounted.apart, accounted.asked⟩
  refine balances_modify_bind noted fun soundNoted => ?_
  cases outcome with
  | error cause => exact ⟨kept, noted⟩
  | ok path =>
      refine balances_bind (balances_allocate laws noted soundNoted) soundNoted ?_
      rintro (cause | session) later balancedLater soundLater
      · exact ⟨kept, balancedLater⟩
      · exact balances_handOut laws answers balancedLater soundLater config.safe

/-! Requests. -/

omit laws answers in
theorem balances_held_bind {post : α → World σ H N → Prop} {next : Session H → Run σ H N α}
    (balanced : world.Balanced shows outside pending frames)
    (rest : ∀ state, world.Present session → world.mayUse session = true →
      (next state).Balances shows post world) :
    (held session >>= next).Balances shows post world := by
  unfold held
  refine Process.maintains_bind.mpr (balances_get_bind balanced ?_)
  split
  · rename_i state present
    split
    · rename_i usable
      exact rest state ⟨state, present⟩ usable
    · trivial
  · trivial

omit laws answers in
theorem balances_using {post : α → World σ H N → Prop} {next : PUnit → Run σ H N α}
    (balanced : world.Balanced shows outside pending frames)
    (rest : world.Present session → world.mayUse session = true →
      (next ⟨⟩).Balances shows post world) :
    (discard (held session) >>= next).Balances shows post world := by
  rw [discard_held_bind]
  exact balances_held_bind balanced fun _ => rest

omit laws answers in
theorem balances_keep (balanced : world.Balanced shows outside pending (⟨caller, kept⟩ :: rest))
    (session : SessionId) {answer : α} :
    (do modify (·.keep session); return answer : Run σ H N α).Balances shows
      (fun _ later => later.Serving shows outside pending caller rest) world :=
  balances_modify_bind (balanced.keep session) fun _ => ⟨_, balanced.keep session⟩

omit laws answers in
theorem balances_setCommands
    (balanced : world.Balanced shows outside pending (⟨caller, kept⟩ :: rest))
    (session : SessionId) (change : Session H → Session H) {answer : α} :
    (do update session change; return answer : Run σ H N α).Balances shows
      (fun _ later => later.Serving shows outside pending caller rest) world :=
  balances_modify_bind (balanced.update session change) fun _ =>
    ⟨_, balanced.update session change⟩

theorem balances_put (balanced : world.Balanced shows outside pending (⟨caller, kept⟩ :: rest))
    (change : Desk → Desk) (replaced : Option SessionId) :
    (do modify fun world => { world with desk := change world.desk }
        sweepReplaced engine dispatch replaced : Run σ H N Unit).Balances shows
      (fun _ later => later.Serving shows outside pending caller rest) world := by
  have moved := balanced.desk (change world.desk)
  refine balances_modify_bind moved fun soundMoved => ?_
  cases replaced with
  | none => exact ⟨_, moved⟩
  | some session =>
      exact (balances_sweep laws answers moved soundMoved session).weaken soundMoved
        fun _ later balancedLater _ => ⟨_, balancedLater⟩

theorem balances_drop (balanced : world.Balanced shows outside pending (⟨caller, kept⟩ :: rest))
    (change : Desk → Desk) (session : SessionId) {answer : α} :
    (do modify fun world => { world with desk := change world.desk }
        sweep engine dispatch session
        return answer : Run σ H N α).Balances shows
      (fun _ later => later.Serving shows outside pending caller rest) world := by
  have moved := balanced.desk (change world.desk)
  refine balances_modify_bind moved fun soundMoved => ?_
  refine balances_bind (balances_sweep laws answers moved soundMoved session) soundMoved ?_
  exact fun _ later balancedLater _ => ⟨_, balancedLater⟩

omit laws in
theorem balances_perform {setup : Setup σ H N} (laws : setup.engine.KeepsBooks shows)
    (request : Request H N) (sound : world.Sound)
    (serving : world.Serving shows outside pending caller rest) :
    (perform setup dispatch request).Balances shows
      (fun _ later => later.Serving shows outside pending caller rest) world := by
  obtain ⟨kept, balanced⟩ := serving
  have going : ∀ {β : Type} {run : Run σ H N β}, run.Balances shows (fun _ later =>
      later.Balanced shows outside pending (⟨caller, kept⟩ :: rest)) world →
        run.Balances shows (fun _ later => later.Serving shows outside pending caller rest) world :=
    fun balances => balances.weaken sound fun _ later balancedLater _ => ⟨kept, balancedLater⟩
  cases request with
  | evaluate session script =>
      refine balances_using balanced fun _ usable => going ?_
      exact balances_evaluate laws answers (balanced.held usable) balanced script
  | makeSafe session =>
      refine balances_using balanced fun _ usable => going ?_
      exact balances_makeSafe laws answers (balanced.held usable) balanced
  | result session =>
      refine balances_using balanced fun present _ => going ?_
      exact balances_result laws balanced present
  | quoteList session words =>
      refine balances_using balanced fun present _ => going ?_
      exact balances_call_on balanced (Or.inl present)
        fun _ tidy known => Call.tidy_quoteList laws tidy known words
  | splitList session list =>
      refine balances_using balanced fun present _ => going ?_
      exact balances_call_on balanced (Or.inl present)
        fun _ tidy known => Call.tidy_splitList laws tidy known list
  | inspect session =>
      change (held session).Balances shows _ world
      rw [← bind_pure (held session)]
      exact balances_held_bind balanced fun _ _ _ => ⟨kept, balanced⟩
  | insertCommand session name handler =>
      exact balances_held_bind balanced fun _ _ _ => balances_setCommands balanced session _
  | eraseCommand session name =>
      exact balances_held_bind balanced fun _ _ _ => balances_setCommands balanced session _
  | setReceiver session receiver =>
      exact balances_using balanced fun _ _ => balances_setCommands balanced session _
  | openSession config => exact balances_openSession answers laws balanced config
  | takeInterp name | takeProc name | takeVar name =>
      refine balances_get_bind balanced ?_
      split
      · exact ⟨kept, balanced⟩
      · exact balances_keep balanced _
  | letGo =>
      change (letGo setup.engine dispatch).Balances shows _ world
      cases kept with
      | nil =>
          unfold letGo
          refine balances_get_bind balanced ?_
          simp only [balanced.frames_eq]
          exact ⟨[], balanced⟩
      | cons session kept =>
          exact (balances_letGo laws answers balanced).weaken sound
            fun _ later balancedLater _ => ⟨kept, balancedLater⟩
  | putInterp name session =>
      refine balances_using balanced fun _ _ => balances_get_bind balanced ?_
      exact balances_put laws answers balanced
        (fun desk => { desk with interps := world.desk.interps.insert name session }) _
  | putProc name proc =>
      refine balances_using balanced fun _ _ => balances_get_bind balanced ?_
      exact balances_put laws answers balanced
        (fun desk => { desk with procs := world.desk.procs.insert name proc }) _
  | putVar name var =>
      refine balances_using balanced fun _ _ => balances_get_bind balanced ?_
      exact balances_put laws answers balanced
        (fun desk => { desk with vars := world.desk.vars.insert name var }) _
  | dropInterp name =>
      change (dropInterp setup.engine dispatch name).Balances shows _ world
      refine balances_get_bind balanced ?_
      dsimp only
      split
      · exact ⟨kept, balanced⟩
      · exact balances_drop laws answers balanced
          (fun desk => { desk with interps := world.desk.interps.erase name }) _
  | dropProc name =>
      change (dropProc setup.engine dispatch name).Balances shows _ world
      refine balances_get_bind balanced ?_
      dsimp only
      split
      · exact ⟨kept, balanced⟩
      · exact balances_drop laws answers balanced
          (fun desk => { desk with procs := world.desk.procs.erase name }) _
  | dropVar name =>
      change (dropVar setup.engine dispatch name).Balances shows _ world
      refine balances_get_bind balanced ?_
      dsimp only
      split
      · exact ⟨kept, balanced⟩
      · exact balances_drop laws answers balanced
          (fun desk => { desk with vars := world.desk.vars.erase name }) _
  | environment => exact ⟨kept, balanced⟩
  | readFile path => exact ⟨kept, balanced⟩
  | note entry => exact going (balances_emit balanced (.note entry))

omit laws in
theorem balances_program {setup : Setup σ H N} (laws : setup.engine.KeepsBooks shows)
    (program : Host H N α) (sound : world.Sound)
    (serving : world.Serving shows outside pending caller rest) :
    (Program.run (perform setup dispatch) program).Balances shows
      (fun _ later => later.Serving shows outside pending caller rest) world := by
  induction program generalizing world with
  | done result => exact serving
  | ask request next ih =>
      refine balances_bind (balances_perform answers laws request sound serving) sound ?_
      exact fun answer later servingLater soundLater => ih answer soundLater servingLater

/-! Callbacks. -/

omit laws in
theorem balances_route {setup : Setup σ H N} (laws : setup.engine.KeepsBooks shows)
    (session : SessionId) (route : CommandTable.Route H) (sound : world.Sound)
    (balanced : world.Balanced shows outside pending (⟨caller, kept⟩ :: rest)) :
    Run.Balances shows (fun _ later => later.Serving shows outside pending caller rest)
      (match route with
        | .nowhere message => return .error (.failed message)
        | .handler handler arguments => Program.run (perform setup dispatch)
            (setup.behave handler session arguments) : Run σ H N Outcome) world := by
  cases route with
  | nowhere message => exact ⟨kept, balanced⟩
  | handler handler arguments =>
      exact balances_program answers laws _ sound ⟨kept, balanced⟩

omit laws in
theorem balances_runHandler {setup : Setup σ H N} (laws : setup.engine.KeepsBooks shows)
    (session : SessionId) (words : List String) (sound : world.Sound)
    (balanced : world.Balanced shows outside pending (⟨caller, kept⟩ :: rest)) :
    (runHandler setup dispatch session words).Balances shows
      (fun _ later => later.Serving shows outside pending caller rest) world :=
  balances_get_bind balanced (balances_route answers laws session _ sound balanced)

omit laws answers in
theorem balances_readWords (laws : engine.KeepsObjects shows) {interps : Finset InterpId}
    {words : List Obj} (accounted : world.Accounted interps pending frames)
    (lent : Lent shows outside interps words world.scene.store) :
    (Run.call (words.tail.mapM fun word => Call.text engine (some word))).Balances shows
      (fun _ later => later.Balanced shows outside pending frames) world := by
  have tail : Lent shows outside interps words.tail world.scene.store := by
    obtain ⟨heap, shown, order, same, live⟩ := lent
    exact ⟨heap, shown, order, same, fun word member => live word (List.mem_of_mem_tail member)⟩
  refine balances_call ((Call.tidy_texts laws tail).mono ?_)
  intro arguments scene tidyLater
  have after : ({ world with scene } : World σ H N).Balanced shows outside pending frames :=
    ⟨interps, tidyLater, accounted.scene scene⟩
  exact ⟨after, after.inBalance⟩

omit laws in
theorem balances_answerCall {setup : Setup σ H N} (laws : setup.engine.KeepsBooks shows)
    {interps : Finset InterpId} {words : List Obj}
    (accounted : world.Accounted interps pending frames)
    (lent : Lent shows outside interps words world.scene.store) :
    (answerCall setup dispatch session words).Balances shows
      (fun _ later => later.Balanced shows outside pending frames) world := by
  obtain rfl := accounted.frames
  unfold answerCall
  have entered : ({ world with frames := { caller := some session } :: world.frames } :
      World σ H N).Accounted interps pending (⟨some session, []⟩ :: world.frames) :=
    ⟨rfl, accounted.exist, accounted.apart, accounted.asked⟩
  refine balances_modify_bind ⟨interps, lent.tidy, entered⟩ fun soundEntered => ?_
  refine balances_bind (balances_readWords laws.toKeepsObjects entered lent) soundEntered ?_
  intro arguments later balancedRead soundRead
  refine balances_bind (balances_runHandler answers laws session arguments soundRead balancedRead)
    soundRead ?_
  rintro outcome handled ⟨kept, balancedHandled⟩ soundHandled
  refine balances_bind (balances_dropKept laws answers balancedHandled soundHandled)
    soundHandled ?_
  intro _ dropped balancedDropped _
  have answered : (dropped.answer session outcome).Balanced shows outside pending
      (⟨some session, []⟩ :: world.frames) :=
    (balancedDropped.update session _).push _
  refine balances_modify_bind answered fun soundAnswered => ?_
  -- The caller's handle is still held, so its interpreter is there to take the result.
  have present : (dropped.answer session outcome).Present session :=
    answered.present soundAnswered (by simp [Frame.holds])
  refine balances_bind (balances_call_on answered (Or.inl present)
    fun _ tidy known => Call.tidy_setResult laws tidy known _) soundAnswered ?_
  intro _ told balancedTold soundTold
  refine balances_bind (balances_endFrame laws answers balancedTold session) soundTold ?_
  exact fun _ last balancedLast _ => balancedLast

omit answers in
omit laws in
theorem answersInBalance_dispatch {setup : Setup σ H N} (laws : setup.engine.KeepsBooks shows)
    (fuel : Nat) : AnswersInBalance shows (Run.dispatch setup fuel) := by
  -- The callbacks of a program that answers a callback are answered with less fuel.
  induction fuel with
  | zero =>
      intro world session words outside interps pending frames _ _ _ _
      trivial
  | succ fuel ih =>
      intro world session words outside interps pending frames sound accounted lent known
      have balanced : world.Balanced shows outside pending frames :=
        ⟨interps, lent.tidy, accounted⟩
      unfold Run.dispatch
      refine balances_get_bind balanced ?_
      split
      · exact Process.maintains_bind.mpr (balances_answerCall ih laws accounted lent)
      · have told := balances_call_on balanced ((accounted.exist session).mp known)
          fun _ tidy known => Call.tidy_setResult (N := N) laws tidy known Reply.gone.text
        refine balances_bind told sound ?_
        exact fun _ later balancedLater _ => balancedLater

end Run

namespace Host

open World

variable {shows : σ → Heap → Prop} {setup : Setup σ H N} {store : σ} {heap : Heap}

theorem balanced_start (shown : shows store heap) (empty : heap.live = ∅)
    (nobody : heap.interps = ∅) (library : Library) :
    (start store library : World σ H N).Balanced shows 0 [] [{}] := by
  have references : heap.references = 0 := by
    simp [Heap.references, Heap.total, empty, nobody]
  have missing : ∀ object, heap.cells object = none := by
    intro object
    apply Heap.not_mem_live_iff.mp
    simp [empty]
  have order : heap.InOrder 0 := by
    constructor
    · simp [Heap.countOf, missing, references]
    · simp [empty]
    · exact ⟨fun _ => 0, by simp [missing]⟩
  refine ⟨∅, ⟨heap, shown, order, nobody⟩, rfl, ?_, ?_, ?_⟩
  · simp [Present, start]
  · simp
  · simp

theorem balances_run (laws : setup.engine.KeepsBooks shows) (fuel : Nat) (program : Host H N α)
    (library : Library) (shown : shows store heap) (empty : heap.live = ∅)
    (nobody : heap.interps = ∅) :
    (Host.run setup fuel program).Balances shows
      (fun _ later => later.Serving shows 0 [] none []) (start store library) :=
  Run.balances_program (Run.answersInBalance_dispatch laws fuel) laws program
    (sound_start store library) ⟨[], balanced_start shown empty nobody library⟩

theorem obeys_inBalance (laws : setup.engine.KeepsBooks shows) (fuel : Nat)
    (program : Host H N α) (library : Library) (shown : shows store heap) (empty : heap.live = ∅)
    (nobody : heap.interps = ∅) :
    (Host.run setup fuel program).Obeys
      ⟨fun _ later => later.InBalance shows, fun _ _ _ => True⟩
      (fun _ later => later.Serving shows 0 [] none []) (start store library) :=
  (obeys_run setup fuel program store library).maintains (sound_start store library)
    (fun _ _ step => step.sound) (balances_run laws fuel program library shown empty nobody)

theorem inBalance_after (laws : setup.engine.KeepsBooks shows) (fuel : Nat)
    (program : Host H N α) (library : Library) (shown : shows store heap) (empty : heap.live = ∅)
    (nobody : heap.interps = ∅) (count : Nat) :
    ((Host.run setup fuel program).after count (start store library)).InBalance shows := by
  have obeys := obeys_inBalance laws fuel program library shown empty nobody
  refine (obeys.reaches_after count).preserved (fun _ _ step _ => step) ?_
  exact (balanced_start shown empty nobody library).inBalance

end Host

end TclHost
