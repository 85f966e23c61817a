import TclHost.Proofs.Lifecycle.Visits
import TclHost.Proofs.Objects.Balance

/-!
The host takes care of its interpreters: in each step it keeps to the order of the phases, and what
an interpreter is due comes before anything else. Here the parts of a run that take a session down
or enter the library are shown to do so, provided that callbacks are answered so.
-/

namespace TclHost

variable {σ H N α β : Type}

namespace World

variable {interp session : InterpId} {world between later : World (Audited σ) H N}
  {phase next last : Phase} {held stays : Prop}

def visits (world : World (Audited σ) H N) : List (InterpId × Visit) :=
  world.scene.store.visits

def phase? (interp : InterpId) (world : World (Audited σ) H N) : Option Phase :=
  Audited.phase? interp world.visits

def Due (interp : InterpId) (visit : Visit) (world : World (Audited σ) H N) : Prop :=
  ∃ phase, world.phase? interp = some phase ∧ phase.due? (world.holds interp) = some visit

structure Heeds (interp : InterpId) (world later : World (Audited σ) H N) : Prop where
  lawful : ∃ phase, later.phase? interp = some phase ∧ (later.Present interp → phase.Open)
  prompt : ∀ visit, world.Due interp visit → later.visits = world.visits ∨
    ∃ more, later.visits = world.visits ++ (interp, visit) :: more

def care (interp : InterpId) : Process.Rules (World (Audited σ) H N) Halt where
  step := Heeds interp
  halt _ last world := ∀ visit, ¬ (last world).Due interp visit

/-- The phase agrees with the sessions and the handles that there are. An interpreter that is only
just being opened, or that is deleted and not released, is not one that a program comes across. -/
def Suits (interp : InterpId) (held : Prop) (world : World (Audited σ) H N) : Phase → Prop
  | .absent => ¬ world.Present interp
  | .refused | .deleting | .released => ¬ world.Present interp ∧ interp < world.created
  | .alive calls => held ∧ (0 < calls → world.frames.any (·.holds interp) = true)
  | .astray => True
  | .created | .initialised | .preserved | .deleted => False

structure Attended (interp : InterpId) (world : World (Audited σ) H N) (phase : Phase) : Prop where
  known : world.phase? interp = some phase
  suits : world.Suits interp (world.holds interp = true) phase

structure Loose (interp session : InterpId) (world : World (Audited σ) H N) (phase : Phase) :
    Prop where
  known : world.phase? interp = some phase
  suits : world.Suits interp
    (world.holds interp = true ∨ session = interp ∧ world.Present interp) phase

/-- Programs can come by the session only through handles that they have already. -/
structure Hidden (interp : InterpId) (world : World (Audited σ) H N) : Prop where
  asked : interp < world.created
  offDesk : world.desk.holds interp = false
  unused : ∀ state, world.sessions[interp]? = some state → state.commands = {}

structure Spared (interp : InterpId) (world : World (Audited σ) H N) (phase : Phase)
    (later : World (Audited σ) H N) (next : Phase) : Prop where
  yields : phase.Yields next
  attended : later.Attended interp next
  hidden : world.Hidden interp → later.Hidden interp

/-- What a part of a run makes of an interpreter if it is over before the innermost program goes
on. -/
structure Upheld (interp : InterpId) (world : World (Audited σ) H N) (phase : Phase)
    (later : World (Audited σ) H N) (next : Phase) : Prop extends
    Spared interp world phase later next where
  frames : later.frames = world.frames

theorem Suits.mono (suits : world.Suits interp held phase)
    (fewer : later.Present interp → world.Present interp) (growing : world.created ≤ later.created)
    (keeps : held → stays)
    (frames : ∀ calls, phase = .alive (calls + 1) → world.frames.any (·.holds interp) = true →
      later.frames.any (·.holds interp) = true) :
    later.Suits interp stays phase := by
  cases phase with
  | absent => exact fun present => suits (fewer present)
  | refused | deleting | released =>
      exact ⟨fun present => suits.1 (fewer present), Nat.lt_of_lt_of_le suits.2 growing⟩
  | alive calls =>
      refine ⟨keeps suits.1, fun busy => frames (calls - 1) ?_ (suits.2 busy)⟩
      rw [Nat.sub_add_cancel busy]
  | astray => trivial
  | created | initialised | preserved | deleted => exact suits.elim

theorem Suits.opens (suits : world.Suits interp held phase) (present : world.Present interp) :
    (∃ calls, phase = .alive calls) ∨ phase = .astray := by
  cases phase with
  | absent => exact absurd present suits
  | refused | deleting | released => exact absurd present suits.1
  | alive calls => exact .inl ⟨calls, rfl⟩
  | astray => exact .inr rfl
  | created | initialised | preserved | deleted => exact suits.elim

theorem Suits.isOpen (suits : world.Suits interp held phase) (present : world.Present interp) :
    phase.Open := by
  rcases suits.opens present with ⟨calls, rfl⟩ | rfl <;> trivial

theorem Suits.exists_next_setResult (suits : world.Suits interp held phase)
    (callable : phase.Callable) : phase.next .setResult = some phase := by
  cases phase with
  | alive calls => cases calls <;> rfl
  | deleting | astray => rfl
  | _ => cases callable

theorem Attended.not_due (attended : world.Attended interp phase) (visit : Visit) :
    ¬ world.Due interp visit := by
  rintro ⟨found, known, due⟩
  rw [attended.known, Option.some.injEq] at known
  subst known
  have suits := attended.suits
  cases phase with
  | alive calls => simp [Phase.due?, suits.1] at due
  | created | initialised | preserved | deleted => exact suits.elim
  | _ => cases due

theorem Attended.heeds (before : world.Attended interp phase) (after : later.Attended interp next) :
    world.Heeds interp later :=
  ⟨⟨next, after.known, after.suits.isOpen⟩, fun visit due => absurd due (before.not_due visit)⟩

theorem Attended.still (attended : world.Attended interp phase) : world.Heeds interp world :=
  attended.heeds attended

theorem Attended.usable (attended : world.Attended interp phase) (present : world.Present interp) :
    phase.next .use = some phase ∧ phase.next .setResult = some phase := by
  rcases attended.suits.opens present with ⟨calls, rfl⟩ | rfl
  · cases calls <;> exact ⟨rfl, rfl⟩
  · exact ⟨rfl, rfl⟩

/-- Nothing that matters to an interpreter changes. -/
theorem Attended.aside (attended : world.Attended interp phase)
    (visits : later.visits = world.visits)
    (fewer : later.Present interp → world.Present interp) (growing : world.created ≤ later.created)
    (desk : later.desk = world.desk) (frames : later.frames = world.frames) :
    later.Attended interp phase := by
  refine ⟨?_, attended.suits.mono fewer growing ?_ ?_⟩
  · rw [phase?, visits]
    exact attended.known
  · rw [holds, holds, desk, frames]
    exact id
  · rw [frames]
    exact fun _ _ => id

theorem Hidden.aside (hidden : world.Hidden interp) (growing : world.created ≤ later.created)
    (desk : later.desk = world.desk)
    (sessions : ∀ state, later.sessions[interp]? = some state →
      ∃ before, world.sessions[interp]? = some before ∧ state.commands = before.commands) :
    later.Hidden interp := by
  refine ⟨Nat.lt_of_lt_of_le hidden.asked growing, desk ▸ hidden.offDesk, ?_⟩
  intro state present
  obtain ⟨before, known, same⟩ := sessions state present
  exact same.trans (hidden.unused before known)

theorem Attended.loose (attended : world.Attended interp phase) (session : InterpId)
    (later : World (Audited σ) H N) (sound : world.Sound)
    (scene : later.scene = world.scene) (sessions : later.sessions = world.sessions)
    (created : later.created = world.created)
    (fewer : world.holds interp = true → later.holds interp = true ∨ session = interp)
    (frames : ∀ calls, phase = .alive (calls + 1) → world.frames.any (·.holds interp) = true →
      later.frames.any (·.holds interp) = true) :
    world.Heeds interp later ∧ later.Loose interp session phase := by
  have same : later.Present interp ↔ world.Present interp := by rw [Present, sessions, Present]
  have known : later.phase? interp = some phase := by
    rw [phase?, visits, scene]
    exact attended.known
  have suits : later.Suits interp
      (later.holds interp = true ∨ session = interp ∧ later.Present interp) phase := by
    refine attended.suits.mono same.mp (Nat.le_of_eq created.symm) (fun held => ?_) frames
    exact (fewer held).imp_right fun own => ⟨own, same.mpr (sound.held interp held)⟩
  refine ⟨⟨⟨phase, known, suits.isOpen⟩, fun visit due => ?_⟩, known, suits⟩
  exact absurd due (attended.not_due visit)

theorem Loose.attended (loose : world.Loose interp session phase)
    (held : session = interp → world.Present interp → world.holds interp = true) :
    world.Attended interp phase :=
  ⟨loose.known, loose.suits.mono id (Nat.le_refl _)
    (fun kept => kept.elim id fun own => held own.1 own.2) fun _ _ => id⟩

theorem Attended.refl (attended : world.Attended interp phase) :
    world.Upheld interp phase world phase :=
  { yields := phase.yields_refl, attended, hidden := id, frames := rfl }

theorem Spared.trans (first : world.Spared interp phase between next)
    (second : between.Spared interp next later last) : world.Spared interp phase later last where
  yields := first.yields.trans second.yields
  attended := second.attended
  hidden := second.hidden ∘ first.hidden

theorem Upheld.trans (first : world.Upheld interp phase between next)
    (second : between.Upheld interp next later last) : world.Upheld interp phase later last where
  toSpared := first.toSpared.trans second.toSpared
  frames := second.frames.trans first.frames

theorem Attended.scene (attended : world.Attended interp phase) {scene : Scene (Audited σ) N}
    (known : Audited.phase? interp scene.store.visits = some phase) :
    world.Upheld interp phase { world with scene } phase where
  yields := phase.yields_refl
  attended := ⟨known, attended.suits.mono id (Nat.le_refl _) id fun _ _ => id⟩
  hidden hidden := hidden.aside (Nat.le_refl _) rfl fun state present => ⟨state, present, rfl⟩
  frames := rfl

theorem Attended.push (attended : world.Attended interp phase) (event : Event N) :
    world.Upheld interp phase (world.push event) phase :=
  attended.scene attended.known

theorem Attended.updated (attended : world.Attended interp phase) (session : SessionId)
    (change : Session H → Session H) : (world.update session change).Attended interp phase := by
  refine attended.aside ?_ (present_update change).mp
    (Nat.le_of_eq (created_update world session change).symm) (desk_update world session change)
    (frames_update world session change)
  rw [visits, scene_update]
  rfl

theorem Hidden.update (hidden : world.Hidden interp) {change : Session H → Session H}
    (commands : session = interp → ∀ state, (change state).commands = state.commands) :
    (world.update session change).Hidden interp := by
  refine hidden.aside (Nat.le_of_eq (created_update world session change).symm)
    (desk_update world session change) fun state present => ?_
  rw [sessions_update] at present
  split at present
  · rename_i own
    obtain ⟨before, known, rfl⟩ := Option.map_eq_some_iff.mp present
    exact ⟨before, known, commands own before⟩
  · exact ⟨state, present, rfl⟩

/-- A change of a session that leaves its handlers alone. -/
theorem Attended.update (attended : world.Attended interp phase) (session : SessionId)
    (change : Session H → Session H)
    (commands : ∀ state, (change state).commands = state.commands) :
    world.Upheld interp phase (world.update session change) phase where
  yields := phase.yields_refl
  attended := attended.updated session change
  hidden hidden := hidden.update fun _ => commands
  frames := frames_update world session change

theorem Attended.noted (attended : world.Attended interp phase) (session : SessionId)
    (change : Session H → Session H)
    (commands : ∀ state, (change state).commands = state.commands) (event : Event N) :
    world.Upheld interp phase ((world.update session change).push event) phase :=
  have updated := attended.update session change commands
  updated.trans (updated.attended.push event)

end World

namespace Run

open World

abbrev Cares (interp : InterpId) (post : α → World (Audited σ) H N → Prop)
    (run : Run (Audited σ) H N α) (world : World (Audited σ) H N) : Prop :=
  run.Follows World.Sound (care interp) post world

variable {interp session : InterpId} {phase : Phase} {world : World (Audited σ) H N}
  {post : α → World (Audited σ) H N → Prop}

theorem cares_bind {run : Run (Audited σ) H N α} {next : α → Run (Audited σ) H N β}
    {middle : α → World (Audited σ) H N → Prop} {post : β → World (Audited σ) H N → Prop}
    (first : run.Cares interp middle world) (sound : world.Sound)
    (rest : ∀ answer later, middle answer later → later.Sound →
      (next answer).Cares interp post later) : (run >>= next).Cares interp post world :=
  Process.follows_bind.mpr (first.weaken sound rest)

theorem cares_discard {run : Run (Audited σ) H N α} {post : World (Audited σ) H N → Prop}
    (cares : run.Cares interp (fun _ => post) world) :
    (discard run).Cares interp (fun _ => post) world :=
  Process.follows_bind.mpr cares

theorem cares_get_bind {next : World (Audited σ) H N → Run (Audited σ) H N α}
    (heeds : world.Heeds interp world) (rest : (next world).Cares interp post world) :
    (get >>= next).Cares interp post world :=
  fun _ => ⟨heeds, rest⟩

theorem cares_store_bind {next : Audited σ → Run (Audited σ) H N α}
    (heeds : world.Heeds interp world)
    (rest : (next world.scene.store).Cares interp post world) :
    (store >>= next).Cares interp post world :=
  fun _ => ⟨heeds, rest⟩

theorem cares_modify_bind {change : World (Audited σ) H N → World (Audited σ) H N}
    {next : PUnit → Run (Audited σ) H N α} (heeds : world.Heeds interp (change world))
    (rest : (change world).Sound → (next ⟨⟩).Cares interp post (change world)) :
    (modify change >>= next).Cares interp post world :=
  fun sound => ⟨heeds, rest sound⟩

theorem cares_set_bind {given : World (Audited σ) H N}
    {next : PUnit → Run (Audited σ) H N α} (heeds : world.Heeds interp given)
    (rest : given.Sound → (next ⟨⟩).Cares interp post given) :
    (set given >>= next).Cares interp post world :=
  fun sound => ⟨heeds, rest sound⟩

theorem cares_setStore_bind {given : Audited σ} {next : PUnit → Run (Audited σ) H N α}
    (heeds : world.Heeds interp { world with scene := { world.scene with store := given } })
    (rest : ∀ later : World (Audited σ) H N,
      later = { world with scene := { world.scene with store := given } } → later.Sound →
        (next ⟨⟩).Cares interp post later) : (setStore given >>= next).Cares interp post world :=
  fun sound => ⟨heeds, rest _ rfl sound⟩

/-- A call that leaves the phase as it is. -/
theorem cares_call {call : Call (Audited σ) N α} {visit : Visit}
    (visits : call.Visits session visit) (attended : world.Attended interp phase)
    (stable : session = interp → phase.next visit = some phase) :
    (Run.call call).Cares interp (fun _ later => world.Upheld interp phase later phase) world := by
  have known : Audited.phase? interp (call.run world.scene).2.store.visits = some phase := by
    obtain ⟨more, grown, only⟩ := visits world.scene
    rw [grown]
    refine Audited.phase?_of_stable attended.known fun entry member => ?_
    rw [only entry member]
    by_cases own : session = interp
    · subst own
      exact (Phase.follow_self ..).trans (stable rfl)
    · exact Phase.follow_of_ne own phase visit
  have after := attended.scene known
  exact fun _ => ⟨attended.heeds after.attended, after⟩

theorem cares_emit (attended : world.Attended interp phase) (event : Event N) :
    (emit event).Cares interp (fun _ later => world.Upheld interp phase later phase) world :=
  fun _ => ⟨attended.heeds (attended.push event).attended, attended.push event⟩

def Attends (interp : InterpId) (dispatch : Dispatch (Audited σ) H N) : Prop :=
  ∀ (world : World (Audited σ) H N) (session : InterpId) (words : List Obj) (phase : Phase),
    world.Sound → world.Attended interp phase → (session = interp → phase.Callable) →
      (dispatch session words).Cares interp (fun reply later =>
        (∃ next, world.Upheld interp phase later next) ∧
          (session = interp → phase = .deleting → reply.code = 1)) world

structure Returned (interp entered : InterpId) (left : Visit) (world : World (Audited σ) H N)
    (phase : Phase) (later : World (Audited σ) H N) (next : Phase) : Prop where
  yields : phase.Yields next
  known : later.phase? interp = next.follow interp (entered, left)
  suits : later.Suits interp (later.holds interp = true) next
  hidden : world.Hidden interp → later.Hidden interp
  frames : later.frames = world.frames

theorem exists_follow_left {entered : InterpId} {left : Visit} {held : Prop}
    (suits : world.Suits interp held phase) (leaves : entered = interp → phase.Leaves left) :
    ∃ last, phase.follow interp (entered, left) = some last ∧
      (world.Present interp → last.Open) := by
  by_cases own : entered = interp
  · subst own
    rw [Phase.follow_self]
    rcases leaves rfl with ⟨calls, rfl, rfl⟩ | ⟨rfl, rfl⟩ | rfl
    · exact ⟨.alive calls, rfl, fun _ => trivial⟩
    · exact ⟨.deleted, rfl, fun present => absurd present suits.1⟩
    · exact ⟨.astray, rfl, fun _ => trivial⟩
  · exact ⟨phase, Phase.follow_of_ne own phase left, suits.isOpen⟩

variable {dispatch : Dispatch (Audited σ) H N} {engine : Engine σ}

/-- The library has been entered, which the world does not show yet. -/
theorem cares_follow (attends : Attends interp dispatch) {reaction : Reaction σ}
    {entered : InterpId} {left : Visit} {visits : List (InterpId × Visit)} (sound : world.Sound)
    (known : Audited.phase? interp visits = some phase)
    (suits : world.Suits interp (world.holds interp = true) phase)
    (leaves : entered = interp → phase.Leaves left)
    (prompt : ∀ visit, world.Due interp visit →
      ∃ more, visits = world.visits ++ (interp, visit) :: more) :
    (follow dispatch (reaction.audited entered left visits)).Cares interp
      (fun _ later => ∃ next, Returned interp entered left world phase later next) world := by
  induction reaction generalizing world visits phase with
  | finished code store =>
      obtain ⟨last, ends, opens⟩ := exists_follow_left suits leaves
      have ended := Audited.phase?_concat known (entered, left)
      intro _
      refine ⟨⟨⟨last, ended.trans ends, opens⟩, fun visit due => ?_⟩, phase, ?_⟩
      · obtain ⟨more, rfl⟩ := prompt visit due
        exact .inr ⟨more ++ [(entered, left)], by simp [World.visits]⟩
      · exact ⟨phase.yields_refl, ended, suits.mono id (Nat.le_refl _) id fun _ _ => id,
          fun hidden => hidden.aside (Nat.le_refl _) rfl fun state present => ⟨state, present, rfl⟩,
          rfl⟩
  | callback caller words store resume ih =>
      -- The call leads the interpreter astray if its command should not be there.
      obtain ⟨called, calling, yields, callable⟩ := phase.exists_follow_called interp caller
      have entering : ({ world with scene := { world.scene with
          store := ⟨store, visits ++ [(caller, .called)]⟩ } } : World (Audited σ) H N).Attended
          interp called := by
        refine ⟨(Audited.phase?_concat known _).trans calling, ?_⟩
        rcases callable.2 with rfl | rfl
        · exact suits.mono id (Nat.le_refl _) id fun _ _ => id
        · exact True.intro
      refine cares_setStore_bind ⟨⟨called, entering.known, entering.suits.isOpen⟩, ?_⟩ ?_
      · intro visit due
        obtain ⟨more, rfl⟩ := prompt visit due
        exact .inr ⟨more ++ [(caller, .called)], by simp [World.visits]⟩
      rintro _ rfl soundEntered
      refine cares_bind (cares_emit entering (.called caller)) soundEntered ?_
      intro _ noted upheldNoted soundNoted
      refine cares_bind (attends noted caller words called soundNoted upheldNoted.attended
        callable.1) soundNoted ?_
      rintro reply replied ⟨⟨next, upheldReplied⟩, failing⟩ soundReplied
      refine cares_bind (cares_emit upheldReplied.attended (.sent caller reply)) soundReplied ?_
      intro _ sent upheldSent soundSent
      have whole := upheldNoted.trans (upheldReplied.trans upheldSent)
      have answered : Audited.phase? interp (sent.visits ++
          [(caller, .answered reply.code)]) = some next := by
        rw [Audited.phase?_concat upheldSent.attended.known]
        refine Phase.follow_answered fun own deleting => failing own ?_
        subst deleting
        rcases upheldReplied.yields with lost | same
        · cases lost
        · exact (same (.inr trivial)).symm
      have onward := yields.trans whole.yields
      refine cares_store_bind upheldSent.attended.still ?_
      refine (ih reply.code _ soundSent answered upheldSent.attended.suits
        (fun own => (leaves own).yields onward)
        fun visit due => absurd due (upheldSent.attended.not_due visit)).weaken soundSent ?_
      rintro _ later ⟨last, returned⟩ _
      refine ⟨last, onward.trans returned.yields, returned.known, returned.suits, ?_,
        returned.frames.trans whole.frames⟩
      intro hidden
      refine returned.hidden (whole.hidden ?_)
      exact hidden.aside (Nat.le_refl _) rfl fun state present => ⟨state, present, rfl⟩

/-! Taking sessions down. -/

theorem present_takeDown :
    (world.takeDown session).Present interp ↔ session ≠ interp ∧ world.Present interp := by
  simp only [Present, sessions_takeDown, Option.ite_none_left_eq_some, exists_and_left]

theorem hidden_takeDown (hidden : world.Hidden interp) : (world.takeDown session).Hidden interp := by
  refine hidden.aside (Nat.le_refl _) rfl fun state present => ⟨state, ?_, rfl⟩
  rw [sessions_takeDown, Option.ite_none_left_eq_some] at present
  exact present.2

/-- The interpreter of another session is taken down, or one of which nothing is said. -/
theorem cares_tearDown_aloof (attends : Attends interp dispatch)
    (attended : world.Attended interp phase) (aloof : session = interp → phase = .astray) :
    (tearDown engine.audited dispatch session).Cares interp
      (fun _ later => ∃ next, world.Upheld interp phase later next ∧
        (session = interp → next = .astray)) world := by
  have down : (world.takeDown session).Attended interp phase :=
    attended.aside rfl (fun present => (present_takeDown.mp present).2) (Nat.le_refl _) rfl rfl
  unfold tearDown
  refine cares_modify_bind (attended.heeds down) fun soundDown =>
    cares_store_bind down.still ?_
  refine cares_bind (cares_discard (cares_follow attends soundDown
    ((Audited.phase?_concat down.known _).trans (Phase.follow_aloof aloof _)) down.suits
    (fun own => .inr (.inr (aloof own))) fun visit due => absurd due (down.not_due visit)))
    soundDown ?_
  rintro _ left ⟨next, returned⟩ soundLeft
  have still : session = interp → next = .astray :=
    fun own => returned.yields.astray (aloof own)
  have attendedLeft : left.Attended interp next :=
    ⟨returned.known.trans (Phase.follow_aloof still _), returned.suits⟩
  refine (cares_call (Call.visits_of_one fun _ => rfl) attendedLeft fun own => ?_).weaken
    soundLeft ?_
  · rw [still own]
    rfl
  · rintro _ later upheld _
    refine ⟨next, ⟨⟨returned.yields, upheld.attended, ?_⟩, ?_⟩, still⟩
    · exact fun hidden => upheld.hidden (returned.hidden (hidden_takeDown hidden))
    · exact upheld.frames.trans returned.frames

/-- The last handle is gone, so that deleting the interpreter and releasing it are due. -/
theorem cares_tearDown_own (attends : Attends interp dispatch) (sound : world.Sound)
    (present : world.Present interp) (unheld : world.holds interp = false)
    (known : world.phase? interp = some (.alive 0)) :
    (tearDown engine.audited dispatch interp).Cares interp
      (fun _ later => ∃ next, world.Upheld interp (.alive 0) later next ∧
        (next = .astray ∨ ¬ later.Present interp)) world := by
  have asked : interp < world.created := by
    obtain ⟨state, there⟩ := present
    exact sound.known interp state there
  have gone : ¬ (world.takeDown interp).Present interp :=
    fun there => (present_takeDown.mp there).1 rfl
  have due : ∀ visit, (world.takeDown interp).Due interp visit → visit = .delete := by
    rintro visit ⟨phase, same, due⟩
    rw [World.phase?, show (world.takeDown interp).visits = world.visits from rfl] at same
    cases known.symm.trans same
    rw [holds_takeDown, unheld] at due
    simpa [Phase.due?] using due.symm
  have waiting : ∀ {earlier : World (Audited σ) H N}, earlier.visits = world.visits →
      earlier.Heeds interp (world.takeDown interp) := by
    intro earlier same
    exact ⟨⟨.alive 0, known, fun there => absurd there gone⟩, fun visit _ => .inl same.symm⟩
  unfold tearDown
  refine cares_modify_bind (waiting rfl) fun soundDown => cares_store_bind (waiting rfl) ?_
  have deleting : Audited.phase? interp (world.visits ++ [(interp, .delete)]) = some .deleting :=
    (Audited.phase?_concat known _).trans (Phase.follow_self ..)
  refine cares_bind (cares_discard (cares_follow attends soundDown deleting ⟨gone, asked⟩
    (fun _ => .inr (.inl ⟨rfl, rfl⟩)) fun visit next => ⟨[], by rw [due visit next]; rfl⟩))
    soundDown ?_
  rintro _ left ⟨next, returned⟩ soundLeft
  have hidden : world.Hidden interp → left.Hidden interp :=
    fun hidden => returned.hidden (hidden_takeDown hidden)
  rcases returned.yields with rfl | same
  · have attendedLeft : left.Attended interp .astray :=
      ⟨returned.known.trans (Phase.follow_self ..), returned.suits⟩
    refine (cares_call (Call.visits_of_one fun _ => rfl) attendedLeft fun _ => rfl).weaken
      soundLeft ?_
    intro _ later upheld _
    exact ⟨.astray, ⟨⟨.inl rfl, upheld.attended, upheld.hidden ∘ hidden⟩,
      upheld.frames.trans returned.frames⟩, .inl rfl⟩
  · obtain rfl := same (.inl trivial)
    have deleted : left.phase? interp = some .deleted :=
      returned.known.trans (Phase.follow_self ..)
    have released := (Audited.phase?_concat deleted (interp, .release)).trans
      (Phase.follow_self ..)
    intro _
    refine ⟨⟨⟨.released, released, fun there => absurd there returned.suits.1⟩, ?_⟩,
      .released, ⟨⟨.inr ?_, ⟨released, returned.suits⟩, ?_⟩, returned.frames⟩,
      .inr returned.suits.1⟩
    · rintro visit ⟨phase, same, next⟩
      cases deleted.symm.trans same
      cases next
      exact .inr ⟨[], rfl⟩
    · rintro (busy | busy) <;> cases busy
    · intro before
      exact (hidden before).aside (Nat.le_refl _) rfl fun state there => ⟨state, there, rfl⟩

theorem cares_sweep (attends : Attends interp dispatch) (sound : world.Sound)
    (loose : world.Loose interp session phase) :
    (sweep engine.audited dispatch session).Cares interp
      (fun _ later => ∃ next, world.Upheld interp phase later next ∧
        (session = interp → world.holds interp = false →
          next = .astray ∨ ¬ later.Present interp)) world := by
  have still : world.Heeds interp world :=
    ⟨⟨phase, loose.known, loose.suits.isOpen⟩, fun _ _ => .inl rfl⟩
  unfold sweep
  refine cares_get_bind still ?_
  split
  · rename_i unused
    simp only [Bool.and_eq_true, Bool.not_eq_true', Std.TreeMap.contains_eq_isSome_getElem?,
      Option.isSome_iff_exists] at unused
    obtain ⟨present, unheld⟩ := unused
    by_cases own : session = interp ∧ phase ≠ .astray
    · obtain ⟨rfl, known⟩ := own
      obtain ⟨calls, rfl⟩ := (loose.suits.opens present).resolve_right known
      -- A call under way would be one of a program that holds the session.
      have idle : calls = 0 := by
        refine Nat.eq_zero_of_not_pos fun busy => ?_
        have held : world.holds session = true := by simp [holds, loose.suits.2 busy]
        simp [held] at unheld
      subst idle
      refine (cares_tearDown_own attends sound present unheld loose.known).weaken sound ?_
      rintro _ later ⟨next, upheld, gone⟩ _
      exact ⟨next, upheld, fun _ _ => gone⟩
    · have aloof : session = interp → phase = .astray :=
        fun same => not_not.mp fun known => own ⟨same, known⟩
      have attended : world.Attended interp phase := by
        by_cases same : session = interp
        · obtain rfl := aloof same
          exact ⟨loose.known, trivial⟩
        · exact loose.attended fun own => absurd own same
      refine (cares_tearDown_aloof attends attended aloof).weaken sound ?_
      rintro _ later ⟨next, upheld, lost⟩ _
      exact ⟨next, upheld, fun same _ => .inl (lost same)⟩
  · rename_i used
    have kept : session = interp → world.Present interp → world.holds interp = true := by
      rintro rfl ⟨state, there⟩
      by_contra unheld
      exact used (by simp [unheld, Std.TreeMap.contains_eq_isSome_getElem?, there])
    refine ⟨phase, (loose.attended kept).refl, fun own unheld => .inr fun there => ?_⟩
    simp [kept own there] at unheld

theorem cares_letGo (attends : Attends interp dispatch) (sound : world.Sound)
    {caller : Option SessionId} {kept : List SessionId} {rest : List Frame}
    (frames : world.frames = ⟨caller, session :: kept⟩ :: rest)
    (attended : world.Attended interp phase)
    (outer : ∀ calls, phase = .alive (calls + 1) → rest.any (·.holds interp) = true) :
    (letGo engine.audited dispatch).Cares interp
      (fun _ later => ∃ next, world.Spared interp phase later next ∧
        later.frames = ⟨caller, kept⟩ :: rest ∧
        (session = interp → world.desk.holds interp = false →
          (⟨caller, kept⟩ :: rest).any (·.holds interp) = false →
            next = .astray ∨ ¬ later.Present interp)) world := by
  obtain ⟨heeds, loose⟩ := attended.loose session
    { world with frames := ⟨caller, kept⟩ :: rest } sound rfl rfl rfl
    (fun held => by
      simp only [holds, frames, List.any_cons, Frame.holds, Bool.or_eq_true,
        List.contains_cons, beq_iff_eq] at held ⊢
      grind)
    (fun calls busy _ => by simp [outer calls busy])
  unfold letGo
  refine cares_get_bind attended.still ?_
  simp only [frames]
  refine cares_set_bind heeds fun soundGiven => ?_
  refine (cares_sweep attends soundGiven loose).weaken soundGiven ?_
  rintro _ later ⟨next, upheld, gone⟩ _
  refine ⟨next, ⟨upheld.yields, upheld.attended, fun hidden => upheld.hidden ?_⟩, upheld.frames,
    fun own offDesk outside => gone own (by simp [holds, offDesk, outside])⟩
  exact hidden.aside (Nat.le_refl _) rfl fun state present => ⟨state, present, rfl⟩

theorem cares_dropKept (attends : Attends interp dispatch) (sound : world.Sound)
    {caller : Option SessionId} {kept : List SessionId} {rest : List Frame}
    (frames : world.frames = ⟨caller, kept⟩ :: rest) (attended : world.Attended interp phase)
    (outer : ∀ calls, phase = .alive (calls + 1) → rest.any (·.holds interp) = true) :
    (dropKept engine.audited dispatch).Cares interp
      (fun _ later => ∃ next, world.Spared interp phase later next ∧
        later.frames = ⟨caller, []⟩ :: rest) world := by
  unfold dropKept
  refine cares_get_bind attended.still ?_
  simp only [frames]
  induction kept generalizing world phase with
  | nil => exact ⟨phase, attended.refl.toSpared, frames⟩
  | cons session kept ih =>
      refine cares_bind (cares_letGo attends sound frames attended outer) sound ?_
      rintro _ later ⟨next, spared, framesLater, _⟩ soundLater
      have outerLater : ∀ calls, next = .alive (calls + 1) →
          rest.any (·.holds interp) = true :=
        fun calls busy => outer calls (spared.yields.eq_of_alive busy)
      refine (ih soundLater framesLater spared.attended outerLater).weaken soundLater ?_
      rintro _ last ⟨final, sparedLast, framesLast⟩ _
      exact ⟨final, spared.trans sparedLast, framesLast⟩

theorem cares_endFrame (attends : Attends interp dispatch) (sound : world.Sound)
    {rest : List Frame} (frames : world.frames = ⟨some session, []⟩ :: rest)
    (attended : world.Attended interp phase)
    (outer : ∀ calls, phase = .alive (calls + 1) → rest.any (·.holds interp) = true) :
    (endFrame engine.audited dispatch session).Cares interp
      (fun _ later => ∃ next, world.Spared interp phase later next ∧ later.frames = rest)
      world := by
  obtain ⟨heeds, loose⟩ := attended.loose session
    { world with frames := world.frames.tail } sound rfl rfl rfl
    (fun held => by
      simp only [holds, frames, List.tail_cons, List.any_cons, Frame.holds, Bool.or_eq_true,
        beq_iff_eq] at held ⊢
      grind)
    (fun calls busy _ => by simp [frames, outer calls busy])
  unfold endFrame
  refine cares_modify_bind heeds fun soundGiven => ?_
  refine (cares_sweep attends soundGiven loose).weaken soundGiven ?_
  rintro _ later ⟨next, upheld, _⟩ _
  refine ⟨next, ⟨upheld.yields, upheld.attended, fun hidden => upheld.hidden ?_⟩, ?_⟩
  · exact hidden.aside (Nat.le_refl _) rfl fun state present => ⟨state, present, rfl⟩
  · rw [upheld.frames, frames, List.tail_cons]

end Run

end TclHost
