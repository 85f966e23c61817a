import TclHost.Proofs.Objects.Laws
import TclHost.Scene

/-!
What calls come to in terms of the heap: each is followed through the heaps that the library's
store shows after it.
-/

namespace TclHost.Call

variable {σ N α β : Type}

def Meets (call : Call σ N α) (post : α → Scene σ N → Prop) (scene : Scene σ N) : Prop :=
  post (call.run scene).1 (call.run scene).2

theorem Meets.mono {call : Call σ N α} {post other : α → Scene σ N → Prop} {scene : Scene σ N}
    (meets : call.Meets post scene)
    (implies : ∀ answer later, post answer later → other answer later) : call.Meets other scene :=
  implies _ _ meets

theorem Meets.bind {first : Call σ N α} {next : α → Call σ N β} {middle : α → Scene σ N → Prop}
    {post : β → Scene σ N → Prop} {scene : Scene σ N} (meets : first.Meets middle scene)
    (rest : ∀ answer later, middle answer later → (next answer).Meets post later) :
    (first >>= next).Meets post scene :=
  rest _ _ meets

theorem meets_pure {answer : α} {post : α → Scene σ N → Prop} {scene : Scene σ N}
    (holds : post answer scene) : (pure answer : Call σ N α).Meets post scene :=
  holds

section Loops

variable {invariant : Scene σ N → Prop} {items : List α} {scene : Scene σ N}

theorem meets_forM {body : α → Call σ N PUnit} (initially : invariant scene)
    (each : ∀ item ∈ items, ∀ between, invariant between →
      (body item).Meets (fun _ => invariant) between) :
    (items.forM body).Meets (fun _ => invariant) scene := by
  induction items generalizing scene with
  | nil => exact initially
  | cons item rest ih =>
      refine (each item (by simp) scene initially).bind fun _ between holds => ?_
      exact ih holds fun other member => each other (by simp [member])

theorem meets_mapM {body : α → Call σ N β} (initially : invariant scene)
    (each : ∀ item ∈ items, ∀ between, invariant between →
      (body item).Meets (fun _ => invariant) between) :
    (items.mapM body).Meets (fun _ => invariant) scene := by
  induction items generalizing scene with
  | nil => exact meets_pure initially
  | cons item rest ih =>
      rw [List.mapM_cons]
      refine (each item (by simp) scene initially).bind fun _ between holds => ?_
      refine (ih holds fun other member => each other (by simp [member])).bind ?_
      exact fun _ _ still => still

end Loops

variable {engine : Engine σ} {scene : Scene σ N}

theorem meets_append (engine : Engine σ) (interp : InterpId) (list : Option Obj) (element : Obj)
    (scene : Scene σ N) :
    (discard (append engine interp list element)).Meets (fun _ later =>
      later.store = (engine.append interp list element scene.store).2 ∧
      later.events = scene.events.push
        (.append list element (engine.append interp list element scene.store).1)) scene :=
  ⟨rfl, rfl⟩

variable {shows : σ → Heap → Prop} (laws : engine.KeepsObjects shows) {heap : Heap} {object : Obj}
include laws

theorem meets_newText (shown : shows scene.store heap) (text : String) :
    (newText engine text).Meets (fun object later => object ∉ heap.live ∧
      shows later.store (heap.set object { text := some (Text.encode text) }) ∧
      later.events = scene.events.push (.newString object (Text.encode text))) scene := by
  obtain ⟨absent, made⟩ := laws.newString (Text.encode text) shown
  exact ⟨absent, made, rfl⟩

theorem meets_text (shown : shows scene.store heap) {object : Option Obj}
    (known : ∀ given ∈ object, given ∈ heap.live) :
    (text engine object).Meets (fun answer later => shows later.store heap ∧
      answer = Text.decode (engine.bytes object scene.store).1 ∧
      later.events = scene.events.push (.bytes object)) scene :=
  ⟨laws.bytes shown known, rfl, rfl⟩

/-- The reference that is held during the body is given back in whatever heap the body leaves. -/
theorem meets_withReference {body : Call σ N α} {post : α → Scene σ N → Prop}
    (shown : shows scene.store heap) (live : object ∈ heap.live)
    (inner : ∀ entered : Scene σ N, shows entered.store (heap.retain object) →
      entered.events = scene.events.push (.increment object) →
        body.Meets (fun answer left => ∃ after, shows left.store after ∧ object ∈ after.live ∧
          ∀ later : Scene σ N, shows later.store (after.release [object]) →
            later.events = left.events.push (.decrement object) → post answer later) entered) :
    (withReference engine (some object) body).Meets post scene := by
  obtain ⟨after, left, still, finish⟩ :=
    inner ⟨engine.increment object scene.store, scene.events.push (.increment object)⟩
      (laws.increment shown live) rfl
  exact finish _ (laws.decrement left still) rfl

theorem meets_readItem {cell : Cell} (shown : shows scene.store heap)
    (found : heap.cells object = some cell) (counted : 0 < cell.count) :
    (withReference engine (some object) (text engine (some object))).Meets (fun answer later =>
      shows later.store heap ∧ ∃ store, shows store (heap.retain object) ∧
        answer = Text.decode (engine.bytes (some object) store).1) scene := by
  have live := Heap.mem_live_iff.mpr ⟨cell, found⟩
  refine meets_withReference laws shown live fun entered held _ => ?_
  have still : object ∈ (heap.retain object).live := Heap.mem_live_retain live
  refine (meets_text laws held (by simpa using still)).mono ?_
  rintro answer left ⟨shownLeft, read, _⟩
  refine ⟨_, shownLeft, still, fun later shownLater _ => ⟨?_, entered.store, held, read⟩⟩
  rwa [Heap.release_retain found counted] at shownLater

end TclHost.Call
