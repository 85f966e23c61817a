import TclHost.Proofs.Objects.Residue
import TclHost.Proofs.Run.Orderly

/-!
The library's objects are in order at every moment of a run. Its interpreters are those of the
sessions, and one more for each session that is only just being opened or taken down.
-/

namespace TclHost

variable {σ H N α β : Type}

namespace Call

variable {engine : Engine σ} {shows : σ → Heap → Prop} {scene : Scene σ N}
  {outside : Multiset Obj} {interps : Finset InterpId} {interp : InterpId}

theorem tidy_texts (laws : engine.KeepsObjects shows) {words : List Obj}
    (lent : Lent shows outside interps words scene.store) :
    (words.mapM fun word => text engine (some word)).Meets
      (fun _ later => Tidy shows outside interps later.store) scene := by
  obtain ⟨heap, shown, order, same, live⟩ := lent
  have read : (words.mapM fun word => text engine (some word)).Meets
      (fun _ later => shows later.store heap) scene := by
    refine meets_mapM shown fun word member between shownBetween => ?_
    have known : ∀ given ∈ some word, given ∈ heap.live := by
      rintro _ ⟨⟩
      exact live word member
    exact (meets_text laws shownBetween known).mono fun _ _ => And.left
  exact read.mono fun _ later shownLater => ⟨heap, shownLater, order, same⟩

variable (laws : engine.KeepsBooks shows) (tidy : Tidy shows outside interps scene.store)
  (known : interp ∈ interps)
include laws tidy known

theorem tidy_quoteList (words : List String) : (quoteList engine interp words).Meets
    (fun _ later => Tidy shows outside interps later.store) scene := by
  obtain ⟨heap, shown, order, rfl⟩ := tidy
  refine (meets_quoteList_onlyResult laws order known shown words).mono ?_
  rintro _ later ⟨left, shownLeft, only⟩
  exact ⟨left, shownLeft, only.keeps order known⟩

theorem tidy_splitList (list : String) : (splitList engine interp list).Meets
    (fun _ later => Tidy shows outside interps later.store) scene := by
  obtain ⟨heap, shown, order, rfl⟩ := tidy
  refine (meets_splitList_onlyResult laws order known shown list).mono ?_
  rintro _ later ⟨left, shownLeft, only⟩
  exact ⟨left, shownLeft, only.keeps order known⟩

theorem tidy_result : (result engine interp).Meets
    (fun _ later => Tidy shows outside interps later.store) scene := by
  obtain ⟨heap, shown, order, rfl⟩ := tidy
  obtain ⟨left, shownLeft, orderLeft, same, live⟩ := laws.result shown order known
  have asked : (act (engine.result interp)).Meets (fun object later =>
      object = (engine.result interp scene.store).1 ∧ shows later.store left) scene :=
    ⟨rfl, shownLeft⟩
  refine asked.bind ?_
  rintro object between ⟨rfl, shownBetween⟩
  have noted : (emit (.result (engine.result interp scene.store).1)).Meets
      (fun _ later => shows later.store left) between := shownBetween
  refine noted.bind fun _ entered shownEntered => ?_
  cases given : (engine.result interp scene.store).1 with
  | none => exact meets_pure ⟨left, shownEntered, orderLeft, same⟩
  | some object =>
      rw [given] at live
      refine (meets_text laws.toKeepsObjects shownEntered live).mono ?_
      rintro _ later ⟨shownLater, _⟩
      exact ⟨left, shownLater, orderLeft, same⟩

theorem tidy_setResult (text : String) : (setResult engine interp text).Meets
    (fun _ later => Tidy shows outside interps later.store) scene := by
  obtain ⟨heap, shown, order, rfl⟩ := tidy
  refine (meets_newText laws.toKeepsObjects shown text).bind ?_
  rintro object between ⟨absent, shownBetween, _⟩
  -- The host holds no reference on the text, so the interpreter takes it over whole.
  have replaced : heap.Replaces interp ((heap.set object { text := some (Text.encode text) }).setResult
      interp object) := ⟨object, _, absent, rfl⟩
  exact ⟨_, laws.setResult shownBetween known Heap.mem_live_set_self,
    replaced.inOrder order known, replaced.interps⟩

end Call

namespace World

variable {shows : σ → Heap → Prop} {outside : Multiset Obj} {interps : Finset InterpId}
  {pending : List InterpId} {frames : List Frame} {world later : World σ H N}
  {session interp : InterpId}

def Present (world : World σ H N) (session : SessionId) : Prop :=
  ∃ state, world.sessions[session]? = some state

/-- The interpreters are those of the sessions and those that are only just being opened or taken
down. -/
structure Accounted (interps : Finset InterpId) (pending : List InterpId) (frames : List Frame)
    (world : World σ H N) : Prop where
  frames : world.frames = frames
  exist : ∀ interp, interp ∈ interps ↔ world.Present interp ∨ interp ∈ pending
  apart : ∀ interp ∈ pending, ¬ world.Present interp
  asked : ∀ interp ∈ pending, interp < world.created

/-- The objects are in order when the references that the library itself holds for the moment are
counted in. -/
def Balanced (shows : σ → Heap → Prop) (outside : Multiset Obj) (pending : List InterpId)
    (frames : List Frame) (world : World σ H N) : Prop :=
  ∃ interps, Tidy shows outside interps world.scene.store ∧
    world.Accounted interps pending frames

def InBalance (shows : σ → Heap → Prop) (world : World σ H N) : Prop :=
  ∃ outside pending frames, world.Balanced shows outside pending frames

theorem Balanced.inBalance (balanced : world.Balanced shows outside pending frames) :
    world.InBalance shows :=
  ⟨outside, pending, frames, balanced⟩

theorem Balanced.frames_eq (balanced : world.Balanced shows outside pending frames) :
    world.frames = frames := by
  obtain ⟨_, _, accounted⟩ := balanced
  exact accounted.frames

theorem present_update (change : Session H → Session H) :
    (world.update session change).Present interp ↔ world.Present interp := by
  rw [Present, sessions_update, Present]
  split
  · cases world.sessions[interp]? <;> simp
  · rfl

theorem Accounted.present (accounted : world.Accounted interps pending frames)
    (sound : world.Sound) (held : frames.any (·.holds session) = true) : world.Present session := by
  apply sound.held session
  rw [holds, accounted.frames, held, Bool.or_true]

theorem Balanced.present (balanced : world.Balanced shows outside pending frames)
    (sound : world.Sound) (held : frames.any (·.holds session) = true) :
    world.Present session := by
  obtain ⟨_, _, accounted⟩ := balanced
  exact accounted.present sound held

theorem Accounted.handled (accounted : world.Accounted interps pending frames)
    (sessions : ∀ interp, later.Present interp ↔ world.Present interp)
    (growing : world.created ≤ later.created) : later.Accounted interps pending later.frames := by
  constructor
  · rfl
  · intro interp
    rw [accounted.exist, sessions]
  · intro interp member present
    exact accounted.apart interp member ((sessions interp).mp present)
  · intro interp member
    exact Nat.lt_of_lt_of_le (accounted.asked interp member) growing

theorem Accounted.scene (accounted : world.Accounted interps pending frames) (scene : Scene σ N) :
    ({ world with scene } : World σ H N).Accounted interps pending frames :=
  ⟨accounted.frames, accounted.exist, accounted.apart, accounted.asked⟩

theorem Balanced.handled (balanced : world.Balanced shows outside pending frames)
    (store : later.scene.store = world.scene.store)
    (sessions : ∀ interp, later.Present interp ↔ world.Present interp)
    (growing : world.created ≤ later.created) :
    later.Balanced shows outside pending later.frames := by
  obtain ⟨interps, tidy, accounted⟩ := balanced
  exact ⟨interps, store ▸ tidy, accounted.handled sessions growing⟩

theorem Balanced.push (balanced : world.Balanced shows outside pending frames) (event : Event N) :
    (world.push event).Balanced shows outside pending frames := by
  obtain ⟨interps, tidy, accounted⟩ := balanced
  exact ⟨interps, tidy, accounted.scene _⟩

theorem Balanced.update (balanced : world.Balanced shows outside pending frames)
    (session : SessionId) (change : Session H → Session H) :
    (world.update session change).Balanced shows outside pending frames := by
  have unchanged : (world.update session change).scene = world.scene ∧
      (world.update session change).created = world.created := by
    unfold World.update
    split <;> exact ⟨rfl, rfl⟩
  have changed := balanced.handled (congrArg Scene.store unchanged.1)
    (fun interp => present_update change) (Nat.le_of_eq unchanged.2.symm)
  rwa [frames_update, balanced.frames_eq] at changed

theorem Accounted.await (accounted : world.Accounted interps pending frames)
    (unknown : ¬ world.Present session) (asked : session < world.created) :
    world.Accounted (insert session interps) (session :: pending) frames := by
  constructor
  · exact accounted.frames
  · intro interp
    rw [Finset.mem_insert, accounted.exist, List.mem_cons]
    exact or_left_comm
  · intro interp member
    rcases List.mem_cons.mp member with rfl | earlier
    · exact unknown
    · exact accounted.apart interp earlier
  · intro interp member
    rcases List.mem_cons.mp member with rfl | earlier
    · exact asked
    · exact accounted.asked interp earlier

theorem present_enrol (world : World σ H N) :
    (world.enrol session).Present interp ↔ session = interp ∨ world.Present interp := by
  rw [Present, sessions_enrol, Present]
  by_cases same : session = interp
  · simp [same]
  · simp [same]

theorem Balanced.enrol (balanced : world.Balanced shows outside (session :: pending) frames)
    (new : session ∉ pending) :
    (world.enrol session).Balanced shows outside pending (world.enrol session).frames := by
  obtain ⟨interps, tidy, accounted⟩ := balanced
  have unchanged : (world.enrol session).scene = world.scene ∧
      (world.enrol session).created = world.created := by
    rw [World.enrol, keep_eq]
    exact ⟨rfl, rfl⟩
  refine ⟨interps, unchanged.1 ▸ tidy, rfl, ?_, ?_, ?_⟩
  · intro interp
    rw [accounted.exist, present_enrol, List.mem_cons, eq_comm]
    tauto
  · intro interp member present
    rcases (present_enrol world).mp present with same | before
    · exact new (same ▸ member)
    · exact accounted.apart interp (List.mem_cons_of_mem _ member) before
  · intro interp member
    rw [unchanged.2]
    exact accounted.asked interp (List.mem_cons_of_mem _ member)

theorem Balanced.takeDown (balanced : world.Balanced shows outside pending frames)
    (sound : world.Sound) (present : world.Present session) :
    (world.takeDown session).Balanced shows outside (session :: pending) frames := by
  obtain ⟨interps, tidy, accounted⟩ := balanced
  have remaining : ∀ interp, (world.takeDown session).Present interp ↔
      session ≠ interp ∧ world.Present interp := by
    intro interp
    simp only [Present, sessions_takeDown, Option.ite_none_left_eq_some, exists_and_left]
  refine ⟨interps, tidy, accounted.frames, ?_, ?_, ?_⟩
  · intro interp
    rw [accounted.exist, remaining, List.mem_cons]
    by_cases same : session = interp
    · simp [← same, present]
    · simp [same, Ne.symm same]
  · intro interp member there
    obtain ⟨different, before⟩ := (remaining interp).mp there
    rcases List.mem_cons.mp member with same | earlier
    · exact different same.symm
    · exact accounted.apart interp earlier before
  · intro interp member
    rcases List.mem_cons.mp member with rfl | earlier
    · obtain ⟨state, known⟩ := present
      exact sound.known interp state known
    · exact accounted.asked interp earlier

end World

end TclHost
