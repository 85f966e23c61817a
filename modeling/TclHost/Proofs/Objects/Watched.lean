import TclHost.Proofs.Objects.Throughout
import TclHost.Proofs.Run.Alike
import TclHost.Proofs.Run.Request

/-!
No object is given to the library once it is freed, and none is left when the sessions are gone. To
say so of every call, the library is watched: each object that it is given is noted, with the store
that it had at that moment.
-/

namespace TclHost

variable {σ H N α : Type}

structure Watched (σ : Type) where
  store : σ
  /-- What the library was given, latest first. -/
  uses : List (σ × Obj) := []

namespace Watched

def change (objects : List Obj) (call : σ → σ) (watched : Watched σ) : Watched σ where
  store := call watched.store
  uses := objects.map (watched.store, ·) ++ watched.uses

def act (objects : List Obj) (call : σ → α × σ) (watched : Watched σ) : α × Watched σ :=
  ((call watched.store).1, watched.change objects fun store => (call store).2)

end Watched

def Reaction.watched : Reaction σ → List (σ × Obj) → Reaction (Watched σ)
  | .finished code store, uses => .finished code ⟨store, uses⟩
  | .callback interp words store resume, uses =>
      .callback interp words ⟨store, uses⟩ fun code later =>
        (resume code later.store).watched later.uses

def Engine.watched (engine : Engine σ) : Engine (Watched σ) where
  create interp := Watched.act [] (engine.create interp)
  init interp := Watched.act [] (engine.init interp)
  preserve interp := Watched.change [] (engine.preserve interp)
  release interp := Watched.change [] (engine.release interp)
  createCommand interp name := Watched.change [] (engine.createCommand interp name)
  evaluate interp script watched :=
    (engine.evaluate interp script watched.store).watched watched.uses
  makeSafe interp watched := (engine.makeSafe interp watched.store).watched watched.uses
  delete interp watched := (engine.delete interp watched.store).watched watched.uses
  newObj := Watched.act [] engine.newObj
  newString text := Watched.act [] (engine.newString text)
  increment object := Watched.change [object] (engine.increment object)
  decrement object := Watched.change [object] (engine.decrement object)
  append interp list element :=
    Watched.act (list.toList ++ [element]) (engine.append interp list element)
  elements interp object := Watched.act [object] (engine.elements interp object)
  bytes object := Watched.act object.toList (engine.bytes object)
  result interp := Watched.act [] (engine.result interp)
  setResult interp object := Watched.change [object] (engine.setResult interp object)

def Setup.watched (setup : Setup σ H N) : Setup (Watched σ) H N :=
  setup.withEngine setup.engine.watched

/-! Watching changes nothing. -/

theorem Reaction.mirrors_watched (reaction : Reaction σ) (uses : List (σ × Obj)) :
    (reaction.watched uses).Mirrors Watched.store reaction := by
  induction reaction generalizing uses with
  | finished code store => exact ⟨rfl, rfl⟩
  | callback interp words store resume ih =>
      exact ⟨rfl, rfl, rfl, fun code later => ih code later.store later.uses⟩

theorem Engine.mirrors_watched (engine : Engine σ) :
    engine.watched.Mirrors Watched.store engine := by
  constructor <;> intros <;> first | rfl | exact Reaction.mirrors_watched _ _

/-! A library that keeps its books keeps them while it is watched. -/

namespace Watched

variable {heap : σ → Heap} {watched : Watched σ} {before : Heap} {outside : Multiset Obj}
  {interps : Finset InterpId} {interp : InterpId}

def Safe (heap : σ → Heap) (uses : List (σ × Obj)) : Prop :=
  ∀ use ∈ uses, use.2 ∈ (heap use.1).live

def Shows (heap : σ → Heap) (watched : Watched σ) (shown : Heap) : Prop :=
  heap watched.store = shown ∧ Safe heap watched.uses

theorem Safe.change {objects : List Obj} (safe : Safe heap watched.uses) (call : σ → σ)
    (live : ∀ object ∈ objects, object ∈ (heap watched.store).live) :
    Safe heap (watched.change objects call).uses := by
  intro use member
  rcases List.mem_append.mp member with new | old
  · obtain ⟨object, given, rfl⟩ := List.mem_map.mp new
    exact live object given
  · exact safe use old

theorem tidy_iff : Tidy (Shows heap) outside interps watched ↔
    Tidy (heap · = ·) outside interps watched.store ∧ Safe heap watched.uses := by
  constructor
  · rintro ⟨shown, ⟨same, safe⟩, order, rest⟩
    exact ⟨⟨shown, same, order, rest⟩, safe⟩
  · rintro ⟨⟨shown, same, order, rest⟩, safe⟩
    exact ⟨shown, ⟨same, safe⟩, order, rest⟩

theorem tidy_reaction {reaction : Reaction σ} {uses : List (σ × Obj)}
    (tidy : reaction.Tidy (heap · = ·) interp outside interps) (safe : Safe heap uses) :
    (reaction.watched uses).Tidy (Shows heap) interp outside interps := by
  induction reaction generalizing uses interps with
  | finished code store => exact tidy_iff.mpr ⟨tidy, safe⟩
  | callback caller words store resume ih =>
      obtain ⟨own, ⟨shown, same, rest⟩, known, resumes⟩ := tidy
      refine ⟨own, ⟨shown, ⟨same, safe⟩, rest⟩, known, ?_⟩
      intro code later others tidyLater still
      obtain ⟨tidyBelow, safeLater⟩ := tidy_iff.mp tidyLater
      exact ih code later.store (resumes code later.store others tidyBelow still) safeLater

end Watched

open Watched

theorem Engine.KeepsObjects.watched {engine : Engine σ} {heap : σ → Heap}
    (laws : engine.KeepsObjects (heap · = ·)) : engine.watched.KeepsObjects (Shows heap) where
  newObj := by
    rintro watched _ list ⟨rfl, safe⟩ given
    obtain ⟨absent, made⟩ := laws.newObj rfl given
    exact ⟨absent, made, safe.change _ (by simp)⟩
  newString := by
    rintro watched _ text ⟨rfl, safe⟩
    obtain ⟨absent, made⟩ := laws.newString text rfl
    exact ⟨absent, made, safe.change _ (by simp)⟩
  increment := by
    rintro watched _ object ⟨rfl, safe⟩ live
    exact ⟨laws.increment rfl live, safe.change _ (by simpa using live)⟩
  decrement := by
    rintro watched _ object ⟨rfl, safe⟩ live
    exact ⟨laws.decrement rfl live, safe.change _ (by simpa using live)⟩
  append := by
    rintro watched _ list element cell interp ⟨rfl, safe⟩ found textless live appended
    refine ⟨laws.append interp rfl found textless live appended, safe.change _ ?_⟩
    have known := Heap.mem_live_iff.mpr ⟨cell, found⟩
    simp [known, live]
  bytes := by
    rintro watched _ object ⟨rfl, safe⟩ live
    exact ⟨laws.bytes rfl live, safe.change _ (by simpa using live)⟩

theorem Engine.KeepsBooks.watched {engine : Engine σ} {heap : σ → Heap}
    (laws : engine.KeepsBooks (heap · = ·)) : engine.watched.KeepsBooks (Shows heap) where
  toKeepsObjects := laws.toKeepsObjects.watched
  noList := by
    rintro watched _ ⟨rfl, safe⟩ none
    exact ⟨laws.noList rfl none, safe.change _ (by simp)⟩
  refused := by
    rintro watched _ list element interp ⟨rfl, safe⟩ there lists live failed
    have known : ∀ object ∈ list.toList ++ [element], object ∈ (heap watched.store).live := by
      intro object member
      rcases List.mem_append.mp member with listed | last
      · exact lists object (Option.mem_toList.mp listed)
      · exact List.mem_singleton.mp last ▸ live
    have given := safe.change (fun store => (engine.append interp list element store).2) known
    rcases laws.refused rfl there lists live failed with same | ⟨later, replaced, shown⟩
    · exact Or.inl ⟨same, given⟩
    · exact Or.inr ⟨later, replaced, shown, given⟩
  malformed := by
    rintro watched _ object interp ⟨rfl, safe⟩ there live failed
    have known : ∀ given ∈ [object], given ∈ (heap watched.store).live := by simpa using live
    have given := safe.change (fun store => (engine.elements interp object store).2) known
    rcases laws.malformed rfl there live failed with same | ⟨later, replaced, shown⟩
    · exact Or.inl ⟨same, given⟩
    · exact Or.inr ⟨later, replaced, shown, given⟩
  elements := by
    rintro watched _ object cell elements interp ⟨rfl, safe⟩ found unowned answered
    obtain ⟨made, fresh, among, shown⟩ := laws.elements interp rfl found unowned answered
    have live := Heap.mem_live_iff.mpr ⟨cell, found⟩
    exact ⟨made, fresh, among, shown, safe.change _ (by simpa using live)⟩
  setResult := by
    rintro watched _ object interp ⟨rfl, safe⟩ known live
    exact ⟨laws.setResult rfl known live, safe.change _ (by simpa using live)⟩
  result := by
    rintro watched _ outside interp ⟨rfl, safe⟩ order known
    obtain ⟨later, shown, rest⟩ := laws.result rfl order known
    exact ⟨later, ⟨shown, safe.change _ (by simp)⟩, rest⟩
  create := by
    intro watched outside interps interp tidy absent
    obtain ⟨tidyBelow, safe⟩ := tidy_iff.mp tidy
    exact tidy_iff.mpr ⟨laws.create tidyBelow absent, safe.change _ (by simp)⟩
  init := by
    intro watched outside interps interp tidy known
    obtain ⟨tidyBelow, safe⟩ := tidy_iff.mp tidy
    exact tidy_iff.mpr ⟨laws.init tidyBelow known, safe.change _ (by simp)⟩
  preserve := by
    intro watched outside interps interp tidy known
    obtain ⟨tidyBelow, safe⟩ := tidy_iff.mp tidy
    exact tidy_iff.mpr ⟨laws.preserve tidyBelow known, safe.change _ (by simp)⟩
  createCommand := by
    intro watched outside interps interp name tidy known
    obtain ⟨tidyBelow, safe⟩ := tidy_iff.mp tidy
    exact tidy_iff.mpr ⟨laws.createCommand name tidyBelow known, safe.change _ (by simp)⟩
  release := by
    intro watched outside interps interp tidy known
    obtain ⟨tidyBelow, safe⟩ := tidy_iff.mp tidy
    exact tidy_iff.mpr ⟨laws.release tidyBelow known, safe.change _ (by simp)⟩
  evaluate := by
    intro watched outside interps interp script tidy known
    obtain ⟨tidyBelow, safe⟩ := tidy_iff.mp tidy
    exact tidy_reaction (laws.evaluate script tidyBelow known) safe
  makeSafe := by
    intro watched outside interps interp tidy known
    obtain ⟨tidyBelow, safe⟩ := tidy_iff.mp tidy
    exact tidy_reaction (laws.makeSafe tidyBelow known) safe
  delete := by
    intro watched outside interps interp tidy known
    obtain ⟨tidyBelow, safe⟩ := tidy_iff.mp tidy
    exact tidy_reaction (laws.delete tidyBelow known) safe

namespace Host

open World

/-- In a run that begins without objects and interpreters every object that the library is given is
alive just then, calls on lists leave the objects as they were, and once all sessions are gone there
are no objects left. -/
theorem objects_accounted_for {heap : σ → Heap} {setup : Setup σ H N}
    (laws : setup.engine.KeepsBooks (heap · = ·)) (fuel : Nat) (program : Host H N α)
    (library : Library) {store : σ} (empty : (heap store).live = ∅)
    (nobody : (heap store).interps = ∅) :
    (∀ count, (Host.run setup fuel program).after count (start store library) =
        ((Host.run setup.watched fuel program).after count
          (start ⟨store, []⟩ library)).through Watched.store ∧
      ∀ use ∈ ((Host.run setup.watched fuel program).after count
        (start ⟨store, []⟩ library)).scene.store.uses, use.2 ∈ (heap use.1).live) ∧
    (∀ count world session, world = (Host.run setup fuel program).after count
        (start store library) → world.Present session →
      (∀ words : List Word, (heap world.scene.store).OnlyResult session (heap
        ((Call.quoteList setup.engine session (words.map Word.render)).run
          world.scene).2.store)) ∧
      ∀ list, (heap world.scene.store).OnlyResult session
        (heap ((Call.splitList setup.engine session list).run world.scene).2.store)) ∧
    ∀ result final, (Host.run setup fuel program).exec (start store library) =
      .ok result final → (∀ session, ¬ final.Present session) →
        (heap final.scene.store).live = ∅ := by
  refine ⟨fun count => ⟨?_, ?_⟩, ?_, ?_⟩
  · have alike := Host.mirrors_run (Setup.mirrors_withEngine setup.engine.mirrors_watched) fuel
      program
    exact (alike (start ⟨store, []⟩ library)).after (fun _ => trivial) count
  · have shown : Watched.Shows heap ⟨store, []⟩ (heap store) := ⟨rfl, fun _ member => nomatch member⟩
    have watched : setup.watched.engine.KeepsBooks (Watched.Shows heap) := laws.watched
    obtain ⟨_, _, _, interps, tidy, _⟩ :=
      inBalance_after watched fuel program library shown empty nobody count
    exact (Watched.tidy_iff.mp tidy).2
  · rintro count world session rfl present
    obtain ⟨_, _, _, interps, ⟨_, rfl, order, rfl⟩, accounted⟩ :=
      inBalance_after laws fuel program library rfl empty nobody count
    have known := (accounted.exist session).mpr (Or.inl present)
    constructor
    · intro words
      obtain ⟨_, rfl, only⟩ :=
        Call.meets_quoteList_onlyResult laws order known rfl (words.map Word.render)
      exact only
    · intro list
      obtain ⟨_, rfl, only⟩ := Call.meets_splitList_onlyResult laws order known rfl list
      exact only
  · intro result final returned gone
    have obeys := obeys_inBalance laws fuel program library rfl empty nobody
    obtain ⟨kept, interps, ⟨_, rfl, order, rfl⟩, accounted⟩ := (obeys.exec_ok returned).1
    refine order.live_eq_empty (Finset.eq_empty_of_forall_notMem fun interp member => ?_)
    rcases (accounted.exist interp).mp member with present | waiting
    · exact gone interp present
    · cases waiting

end Host

namespace Ideal

/-- Quotes a list of which one word is refused, splits one that is malformed, has the host called,
and lets go of its session. -/
def visit : Host Unit Empty Unit := do
  match ← Host.openSession {} with
  | .error _ => return
  | .ok session =>
      Host.setReceiver session (some ())
      discard (Host.quoteList session ["a", "b"])
      discard (Host.splitList session "\\")
      discard (Program.question (.evaluate session "interp_send a b"))
      Host.letGo

def visited : EStateM.Result Halt (World Heap Unit Empty) Unit :=
  (Host.run (setup (· == Text.encode "b")) 2 visit).exec
    (World.start .empty { outcome := some (.ok "") })

theorem visit_leaves_nothing :
    ∃ final, visited = .ok () final ∧ final.scene.store.live = ∅ := by
  have ended : Process.result? visited = some () := by decide +kernel
  have gone : (Process.finalState visited).sessions.isEmpty = true := by decide +kernel
  obtain ⟨final, returned⟩ := Process.result?_eq_some_iff.mp ended
  rw [returned] at gone
  refine ⟨final, returned, (Host.objects_accounted_for (keepsBooks _) 2 visit _ rfl rfl).2.2 ()
    final returned ?_⟩
  rintro session ⟨state, present⟩
  have empty := Std.TreeMap.isEmpty_iff_forall_not_mem.mp gone session
  rw [Std.TreeMap.mem_iff_isSome_getElem?, Process.finalState] at empty
  exact empty (present ▸ rfl)

end Ideal

end TclHost
