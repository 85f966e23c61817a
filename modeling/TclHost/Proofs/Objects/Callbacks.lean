import TclHost.Proofs.Objects.Balance

/-!
The parts of a run keep the objects in order, each provided that callbacks do.
-/

namespace TclHost

variable {σ H N α β : Type}

namespace Run

open World

/-- The objects stay in order throughout, and what is returned satisfies `post`. That every world
agrees with its record is known already. -/
abbrev Balances (shows : σ → Heap → Prop) (post : α → World σ H N → Prop) (run : Run σ H N α)
    (world : World σ H N) : Prop :=
  run.Maintains World.Sound (World.InBalance shows) post world

section Rules

variable {shows : σ → Heap → Prop} {outside : Multiset Obj} {interps : Finset InterpId}
  {pending : List InterpId} {frames : List Frame} {world : World σ H N}
  {post : α → World σ H N → Prop}

theorem balances_bind {run : Run σ H N α} {next : α → Run σ H N β}
    {middle : α → World σ H N → Prop} {post : β → World σ H N → Prop}
    (first : run.Balances shows middle world) (sound : world.Sound)
    (rest : ∀ answer later, middle answer later → later.Sound →
      (next answer).Balances shows post later) : (run >>= next).Balances shows post world :=
  Process.maintains_bind.mpr (first.weaken sound rest)

theorem balances_discard {run : Run σ H N α} {post : World σ H N → Prop}
    (balances : run.Balances shows (fun _ => post) world) :
    (discard run).Balances shows (fun _ => post) world :=
  Process.maintains_bind.mpr balances

theorem balances_get_bind {next : World σ H N → Run σ H N α}
    (balanced : world.Balanced shows outside pending frames)
    (rest : (next world).Balances shows post world) : (get >>= next).Balances shows post world :=
  fun _ => ⟨balanced.inBalance, rest⟩

theorem balances_store_bind {next : σ → Run σ H N α}
    (balanced : world.Balanced shows outside pending frames)
    (rest : (next world.scene.store).Balances shows post world) :
    (store >>= next).Balances shows post world :=
  fun _ => ⟨balanced.inBalance, rest⟩

theorem balances_modify_bind {change : World σ H N → World σ H N} {next : PUnit → Run σ H N α}
    (balanced : (change world).Balanced shows outside pending frames)
    (rest : (change world).Sound → (next ⟨⟩).Balances shows post (change world)) :
    (modify change >>= next).Balances shows post world :=
  fun sound => ⟨balanced.inBalance, rest sound⟩

theorem balances_set_bind {given : World σ H N} {next : PUnit → Run σ H N α}
    (balanced : given.Balanced shows outside pending frames)
    (rest : given.Sound → (next ⟨⟩).Balances shows post given) :
    (set given >>= next).Balances shows post world :=
  fun sound => ⟨balanced.inBalance, rest sound⟩

theorem balances_call {call : Call σ N α} {middle : α → World σ H N → Prop}
    (meets : call.Meets (fun answer scene => middle answer { world with scene } ∧
      World.InBalance shows ({ world with scene } : World σ H N)) world.scene) :
    (Run.call call).Balances shows middle world :=
  fun _ => ⟨meets.2, meets.1⟩

theorem balances_call_on {call : Call σ N α} {interp : InterpId}
    (balanced : world.Balanced shows outside pending frames)
    (there : world.Present interp ∨ interp ∈ pending)
    (meets : ∀ interps, Tidy shows outside interps world.scene.store → interp ∈ interps →
      call.Meets (fun _ later => Tidy shows outside interps later.store) world.scene) :
    (Run.call call).Balances shows (fun _ later => later.Balanced shows outside pending frames)
      world := by
  obtain ⟨interps, tidy, accounted⟩ := balanced
  refine balances_call ((meets interps tidy ((accounted.exist interp).mpr there)).mono ?_)
  intro answer scene tidyLater
  have after : ({ world with scene } : World σ H N).Balanced shows outside pending frames :=
    ⟨interps, tidyLater, accounted.scene scene⟩
  exact ⟨after, after.inBalance⟩

theorem balances_emit (balanced : world.Balanced shows outside pending frames) (event : Event N) :
    (emit event).Balances shows (fun _ later => later.Balanced shows outside pending frames)
      world := by
  have after := balanced.push event
  exact balances_call ⟨after, after.inBalance⟩

end Rules

def AnswersInBalance (shows : σ → Heap → Prop) (dispatch : Dispatch σ H N) : Prop :=
  ∀ (world : World σ H N) (session : SessionId) (words : List Obj) (outside : Multiset Obj)
    (interps : Finset InterpId) (pending : List InterpId) (frames : List Frame), world.Sound →
      world.Accounted interps pending frames → Lent shows outside interps words world.scene.store →
        session ∈ interps →
          (dispatch session words).Balances shows
            (fun _ later => later.Balanced shows outside pending frames) world

variable {shows : σ → Heap → Prop} {outside : Multiset Obj} {interps : Finset InterpId}
  {pending : List InterpId} {frames : List Frame} {world : World σ H N}
  {dispatch : Dispatch σ H N} {engine : Engine σ} {session : SessionId}

/-- The interpreter that was entered stays: it is being opened or taken down, or a program that
waits holds its session. -/
theorem balances_follow (answers : AnswersInBalance shows dispatch) {reaction : Reaction σ}
    {interp : InterpId} (tidy : reaction.Tidy shows interp outside interps)
    (accounted : world.Accounted interps pending frames) (sound : world.Sound)
    (stays : interp ∈ pending ∨ frames.any (·.holds interp) = true) :
    (follow dispatch reaction).Balances shows
      (fun _ later => later.Balanced shows outside pending frames) world := by
  induction reaction generalizing world interps with
  | finished code store =>
      have after : ({ world with scene := { world.scene with store } } : World σ H N).Balanced
          shows outside pending frames :=
        ⟨interps, tidy, accounted.scene _⟩
      exact balances_modify_bind after fun _ => after
  | callback caller words store resume ih =>
      obtain ⟨own, lent, known, resumes⟩ := tidy
      have entered : ({ world with scene := { world.scene with store } } : World σ H N).Accounted
          interps pending frames := accounted.scene _
      refine balances_modify_bind ⟨interps, lent.tidy, entered⟩ fun soundEntered => ?_
      -- Noting the call changes neither the store nor the interpreters that there are.
      have called : (({ world with scene := { world.scene with store } } : World σ H N).push
          (.called caller)).Accounted interps pending frames := entered.scene _
      refine balances_modify_bind ⟨interps, lent.tidy, called⟩ fun soundCalled => ?_
      refine balances_bind (answers _ caller words (own + outside) interps pending frames
        soundCalled called lent known) soundCalled fun reply replied balanced soundReplied => ?_
      refine balances_bind (balances_emit balanced (.sent caller reply)) soundReplied ?_
      intro _ sent balancedSent soundSent
      obtain ⟨others, tidySent, accountedSent⟩ := balancedSent
      have still : interp ∈ others := by
        apply (accountedSent.exist interp).mpr
        rcases stays with waiting | held
        · exact Or.inr waiting
        · exact Or.inl (accountedSent.present soundSent held)
      refine balances_store_bind ⟨others, tidySent, accountedSent⟩ ?_
      exact ih reply.code _ (resumes reply.code _ others tidySent still) accountedSent soundSent

variable (laws : engine.KeepsBooks shows) (answers : AnswersInBalance shows dispatch)
include laws answers

theorem balances_tearDown (balanced : world.Balanced shows outside pending frames)
    (sound : world.Sound) (present : world.Present session) :
    (tearDown engine dispatch session).Balances shows
      (fun _ later => later.Balanced shows outside pending frames) world := by
  have new : session ∉ pending := by
    obtain ⟨_, _, accounted⟩ := balanced
    exact fun member => accounted.apart session member present
  have down := balanced.takeDown sound present
  unfold tearDown
  refine balances_modify_bind down fun soundDown => balances_store_bind down ?_
  obtain ⟨interps, tidy, accounted⟩ := down
  have known : session ∈ interps := (accounted.exist session).mpr (Or.inr (by simp))
  refine balances_bind (balances_discard (balances_follow answers (laws.delete tidy known)
    accounted soundDown (Or.inl (by simp)))) soundDown ?_
  rintro _ left ⟨others, tidyLeft, accountedLeft⟩ _
  have there : session ∈ others := (accountedLeft.exist session).mpr (Or.inr (by simp))
  have gone := accountedLeft.apart session (by simp)
  refine balances_call ?_
  have released : ({ left with scene :=
      { (left.push (.release session)).scene with
        store := engine.release session left.scene.store } } : World σ H N).Balanced shows outside
        pending frames := by
    refine ⟨others.erase session, laws.release tidyLeft there, accountedLeft.frames, ?_, ?_, ?_⟩
    · intro interp
      change interp ∈ others.erase session ↔ left.Present interp ∨ interp ∈ pending
      rw [Finset.mem_erase, accountedLeft.exist, List.mem_cons]
      by_cases same : interp = session
      · simp [same, gone, new]
      · simp [same]
    · exact fun interp member => accountedLeft.apart interp (List.mem_cons_of_mem _ member)
    · exact fun interp member => accountedLeft.asked interp (List.mem_cons_of_mem _ member)
  exact ⟨released, released.inBalance⟩

theorem balances_sweep (balanced : world.Balanced shows outside pending frames)
    (sound : world.Sound) (session : SessionId) :
    (sweep engine dispatch session).Balances shows
      (fun _ later => later.Balanced shows outside pending frames) world := by
  unfold sweep
  refine balances_get_bind balanced ?_
  split
  · rename_i unused
    simp only [Bool.and_eq_true, Std.TreeMap.contains_eq_isSome_getElem?,
      Option.isSome_iff_exists] at unused
    exact balances_tearDown laws answers balanced sound unused.1
  · exact balanced

theorem balances_letGo {caller : Option SessionId} {kept : List SessionId} {rest : List Frame}
    (balanced : world.Balanced shows outside pending (⟨caller, session :: kept⟩ :: rest)) :
    (letGo engine dispatch).Balances shows
      (fun _ later => later.Balanced shows outside pending (⟨caller, kept⟩ :: rest)) world := by
  unfold letGo
  refine balances_get_bind balanced ?_
  have fewer : ({ world with frames := ⟨caller, kept⟩ :: rest } : World σ H N).Balanced shows
      outside pending (⟨caller, kept⟩ :: rest) :=
    balanced.handled rfl (fun _ => Iff.rfl) (Nat.le_refl _)
  simp only [balanced.frames_eq]
  refine balances_set_bind fewer fun sound => ?_
  exact balances_sweep laws answers fewer sound session

theorem balances_dropKept {caller : Option SessionId} {kept : List SessionId} {rest : List Frame}
    (balanced : world.Balanced shows outside pending (⟨caller, kept⟩ :: rest))
    (sound : world.Sound) :
    (dropKept engine dispatch).Balances shows
      (fun _ later => later.Balanced shows outside pending (⟨caller, []⟩ :: rest)) world := by
  unfold dropKept
  refine balances_get_bind balanced ?_
  simp only [balanced.frames_eq]
  induction kept generalizing world with
  | nil => exact balanced
  | cons session kept ih =>
      refine balances_bind (balances_letGo laws answers balanced) sound ?_
      exact fun _ later balancedLater soundLater => ih balancedLater soundLater

theorem balances_endFrame (balanced : world.Balanced shows outside pending frames)
    (caller : SessionId) : (endFrame engine dispatch caller).Balances shows
      (fun _ later => later.Balanced shows outside pending frames.tail) world := by
  obtain rfl := balanced.frames_eq
  unfold endFrame
  have fewer : ({ world with frames := world.frames.tail } : World σ H N).Balanced shows
      outside pending world.frames.tail :=
    balanced.handled rfl (fun _ => Iff.rfl) (Nat.le_refl _)
  refine balances_modify_bind fewer fun sound => ?_
  exact balances_sweep laws answers fewer sound caller

omit laws answers in
theorem balances_complete (balanced : world.Balanced shows outside pending frames)
    (session : SessionId) (depth : Nat) (code : Int) :
    (complete session depth code).Balances shows
      (fun _ later => later.Balanced shows outside pending frames) world := by
  unfold complete
  refine balances_get_bind balanced ?_
  split
  · trivial
  · have after : (world.complete session depth code).Balanced shows outside pending frames :=
      (balanced.update session _).push _
    exact balances_modify_bind after fun _ => after

omit answers in
theorem balances_result (balanced : world.Balanced shows outside pending frames)
    (present : world.Present session) :
    (Run.call (Call.result engine session)).Balances shows
      (fun _ later => later.Balanced shows outside pending frames) world :=
  balances_call_on balanced (Or.inl present) fun _ tidy known => Call.tidy_result laws tidy known

omit answers in
theorem balances_evaluationResult (balanced : world.Balanced shows outside pending frames)
    (present : world.Present session) (completion : Completion) :
    (evaluationResult engine session completion).Balances shows
      (fun _ later => later.Balanced shows outside pending frames) world := by
  have asked := balances_result laws balanced present
  cases completion with
  | success | error => exact Process.maintains_bind.mpr asked
  | other code => exact balanced

variable (held : frames.any (·.holds session) = true)
include held

theorem balances_evaluate (balanced : world.Balanced shows outside pending frames)
    (script : String) : (evaluate engine dispatch session script).Balances shows
      (fun _ later => later.Balanced shows outside pending frames) world := by
  unfold evaluate
  generalize Text.encode script = bytes
  have begun : (world.begin session bytes).Balanced shows outside pending frames :=
    (balanced.update session Session.enter).push _
  refine balances_modify_bind begun fun soundBegun => ?_
  refine balances_get_bind begun (balances_store_bind begun ?_)
  obtain ⟨interps, tidy, accounted⟩ := begun
  have known := (accounted.exist session).mpr (Or.inl (accounted.present soundBegun held))
  refine balances_bind (balances_follow answers (laws.evaluate bytes tidy known) accounted
    soundBegun (Or.inr held)) soundBegun ?_
  intro code later balancedLater soundLater
  refine balances_bind (balances_complete balancedLater session _ code) soundLater ?_
  intro _ completed balancedCompleted soundCompleted
  have present := balancedCompleted.present soundCompleted held
  refine balances_bind (balances_evaluationResult laws balancedCompleted present _)
    soundCompleted ?_
  intro answer last balancedLast _
  have left : (last.leave session).Balanced shows outside pending frames :=
    (balancedLast.update session Session.leave).push _
  exact balances_modify_bind left fun _ => left

theorem balances_makeSafe (balanced : world.Balanced shows outside pending frames) :
    (makeSafe engine dispatch session).Balances shows
      (fun _ later => later.Balanced shows outside pending frames) world := by
  unfold makeSafe
  refine balances_get_bind balanced ?_
  split
  · exact balanced
  · have asked := balanced.push (.makeSafe session)
    refine balances_modify_bind asked fun soundAsked => balances_store_bind asked ?_
    obtain ⟨interps, tidy, accounted⟩ := asked
    have known := (accounted.exist session).mpr (Or.inl (accounted.present soundAsked held))
    refine balances_bind (balances_follow answers (laws.makeSafe tidy known) accounted soundAsked
      (Or.inr held)) soundAsked ?_
    intro code later balancedLater _
    have restricted : (later.restrict session code).Balanced shows outside pending frames :=
      (balancedLater.update session _).push _
    refine balances_modify_bind restricted fun soundRestricted => ?_
    split
    · have present := restricted.present soundRestricted held
      exact Process.maintains_bind.mpr (balances_result laws restricted present)
    · exact restricted

end Run

end TclHost
