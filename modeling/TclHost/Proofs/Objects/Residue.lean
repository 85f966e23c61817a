import Mathlib.Logic.Relation
import TclHost.Proofs.Objects.Lists

/-!
What the calls on lists leave behind. Whether or not appending succeeds and lists are well formed,
the objects are as before, except that the library may have replaced the interpreter's result.
-/

namespace TclHost

namespace Heap

variable {heap base current later : Heap} {outside : Multiset Obj} {interp : InterpId}
  {object list : Obj} {made : List (Obj × List UInt8)} {own : Option (List UInt8)}

def OnlyResult (interp : InterpId) : Heap → Heap → Prop :=
  Relation.ReflTransGen (Replaces interp)

theorem OnlyResult.keeps (only : heap.OnlyResult interp later) (order : heap.InOrder outside)
    (known : interp ∈ heap.interps) : later.InOrder outside ∧ later.interps = heap.interps := by
  induction only with
  | refl => exact ⟨order, rfl⟩
  | tail _ replaced ih => exact ⟨replaced.inOrder ih.1 (ih.2 ▸ known), replaced.interps.trans ih.2⟩

theorem InOrder.owning (order : heap.InOrder outside)
    (fresh : heap.Fresh (object :: made.map Prod.fst)) :
    (heap.owning object own made).InOrder (object ::ₘ outside) :=
  (order.place fresh.tail).add (fresh.not_mem_place rfl) rfl

theorem Replaces.of_owning (replaced : (heap.owning object own made).Replaces interp later)
    (order : heap.InOrder outside) (fresh : heap.Fresh (object :: made.map Prod.fst))
    (known : interp ∈ heap.interps) :
    ∃ between, heap.Replaces interp between ∧ between.Fresh (object :: made.map Prod.fst) ∧
      later = between.owning object own made := by
  have knownStill : interp ∈ (heap.place made).interps := by
    rwa [(place_others heap made).1]
  obtain ⟨_, replacedBelow, absent, rfl⟩ :=
    replaced.of_set (order.place fresh.tail) (fresh.not_mem_place rfl) knownStill
  obtain ⟨between, replacedFirst, freshBelow, rfl⟩ := replacedBelow.of_place order fresh.tail known
  rw [mem_live_place, not_or] at absent
  refine ⟨between, replacedFirst, ⟨fresh.distinct, ?_⟩, rfl⟩
  intro other member
  rcases List.mem_cons.mp member with rfl | later
  · exact absent.2
  · exact freshBelow.absent other later

inductive Drafts (interp : InterpId) (heap : Heap) : Option Obj → Heap → Prop
  | nothing {base : Heap} (only : heap.OnlyResult interp base) : Drafts interp heap none base
  | list {base : Heap} (object : Obj) (made : List (Obj × List UInt8))
      (only : heap.OnlyResult interp base) (fresh : base.Fresh (object :: made.map Prod.fst)) :
      Drafts interp heap (some object) (base.owning object none made)

section Drafts

variable {draft : Option Obj} (drafts : heap.Drafts interp draft current)
include drafts

theorem Drafts.cells (given : draft = some list) :
    ∃ cell, current.cells list = some cell ∧ cell.text = none := by
  cases drafts with
  | nothing only => cases given
  | list object made only fresh =>
      cases given
      exact ⟨_, cells_owning, rfl⟩

theorem Drafts.finish (given : draft = some list) :
    heap.OnlyResult interp (current.release [list]) := by
  cases drafts with
  | nothing only => cases given
  | list object made only fresh =>
      cases given
      rwa [release_owning fresh]

theorem Drafts.append {text : List UInt8} (given : draft = some list)
    (absent : object ∉ current.live) :
    heap.Drafts interp draft
      (((current.set object { count := 1, text := some text }).append list object).release
        [object]) := by
  cases drafts with
  | nothing only => cases given
  | list owner made only fresh =>
      cases given
      rw [append_owning absent]
      exact Drafts.list list _ only (fresh.concat absent)

variable (order : heap.InOrder outside) (known : interp ∈ heap.interps)
include order known

theorem Drafts.inOrder : current.InOrder (draft.toList + outside) ∧ interp ∈ current.interps := by
  cases drafts with
  | nothing only =>
      obtain ⟨orderBase, same⟩ := only.keeps order known
      exact ⟨by simpa using orderBase, same ▸ known⟩
  | list owner made only fresh =>
      obtain ⟨orderBase, same⟩ := only.keeps order known
      refine ⟨by simpa using orderBase.owning fresh, ?_⟩
      change interp ∈ (Heap.place _ made).interps
      rw [(place_others _ made).1, same]
      exact known

theorem Drafts.replaced (replaced : current.Replaces interp later) :
    heap.Drafts interp draft later := by
  cases drafts with
  | nothing only => exact Drafts.nothing (only.tail replaced)
  | list owner made only fresh =>
      obtain ⟨orderBase, same⟩ := only.keeps order known
      obtain ⟨between, replacedBase, freshBetween, rfl⟩ :=
        replaced.of_owning orderBase fresh (same ▸ known)
      exact Drafts.list owner made (only.tail replacedBase) freshBetween

end Drafts

end Heap

namespace Call

open Heap

variable {σ N : Type} {engine : Engine σ} {shows : σ → Heap → Prop} {scene : Scene σ N}
  {heap : Heap} {outside : Multiset Obj} {interp : InterpId}

theorem meets_offerWord (laws : engine.KeepsBooks shows) (order : heap.InOrder outside)
    (known : interp ∈ heap.interps) {draft : Option Obj} (word : String)
    (drafting : ∃ current, heap.Drafts interp draft current ∧ shows scene.store current) :
    (appendWord engine interp draft word).Meets (fun _ later =>
      ∃ current, heap.Drafts interp draft current ∧ shows later.store current) scene := by
  have keeps := laws.toKeepsObjects
  obtain ⟨current, drafts, shown⟩ := drafting
  obtain ⟨orderCurrent, knownCurrent⟩ := drafts.inOrder order known
  refine (meets_newText keeps shown word).bind ?_
  rintro element between ⟨absent, shownBetween, _⟩
  refine meets_withReference keeps shownBetween mem_live_set_self fun entered held _ => ?_
  rw [retain_set] at held
  refine (meets_append engine interp draft element entered).mono ?_
  rintro _ left ⟨stored, _⟩
  rw [stored]
  by_cases refused : draft = none ∨ (engine.append interp draft element entered.store).1 ≠ 0
  · have listed : ∀ list ∈ draft, list ∈ (current.set element
        { count := 1, text := some (Text.encode word) }).live := by
      intro list given
      obtain ⟨cell, found, _⟩ := drafts.cells given
      exact mem_live_set.mpr (Or.inr (mem_live_iff.mpr ⟨cell, found⟩))
    rcases laws.refused held knownCurrent listed mem_live_set_self refused with
      same | ⟨_, replaced, shownLeft⟩
    · refine ⟨_, same, mem_live_set_self, fun later shownLater _ => ⟨current, drafts, ?_⟩⟩
      rwa [release_string absent] at shownLater
    · obtain ⟨base, replacedBase, new, rfl⟩ := replaced.of_set orderCurrent absent knownCurrent
      refine ⟨_, shownLeft, mem_live_set_self, fun later shownLater _ => ⟨base, ?_, ?_⟩⟩
      · exact drafts.replaced order known replacedBase
      · rwa [release_string new] at shownLater
  · rw [not_or, not_not] at refused
    obtain ⟨list, rfl⟩ := Option.ne_none_iff_exists'.mp refused.1
    obtain ⟨cell, found, textless⟩ := drafts.cells rfl
    have different : list ≠ element := by
      rintro rfl
      exact absent (mem_live_iff.mpr ⟨cell, found⟩)
    have foundStill : (current.set element
        { count := 1, text := some (Text.encode word) }).cells list = some cell := by
      rw [cells_set, if_neg different, found]
    refine ⟨_, keeps.append interp held foundStill textless mem_live_set_self refused.2,
      mem_live_append mem_live_set_self, fun later shownLater _ => ⟨_, ?_, shownLater⟩⟩
    exact drafts.append rfl absent

theorem meets_quoteList_onlyResult (laws : engine.KeepsBooks shows) (order : heap.InOrder outside)
    (known : interp ∈ heap.interps) (shown : shows scene.store heap) (words : List String) :
    (quoteList engine interp words).Meets (fun _ later =>
      ∃ left, shows later.store left ∧ heap.OnlyResult interp left) scene := by
  have keeps := laws.toKeepsObjects
  have offered : ∀ (draft : Option Obj) (entered : Scene σ N),
      (∃ current, heap.Drafts interp draft current ∧ shows entered.store current) →
        (words.forM (appendWord engine interp draft)).Meets (fun _ later =>
          ∃ current, heap.Drafts interp draft current ∧ shows later.store current) entered :=
    fun draft entered drafting => meets_forM drafting fun word _ between =>
      meets_offerWord laws order known word
  rw [quoteList_eq]
  have asked : (newObj engine).Meets (fun draft later =>
      draft = (engine.newObj scene.store).1 ∧ later.store = (engine.newObj scene.store).2) scene :=
    ⟨rfl, rfl⟩
  refine asked.bind ?_
  rintro draft between ⟨given, stored⟩
  cases draft with
  | none =>
      have shownBetween : shows between.store heap := stored ▸ laws.noList shown given.symm
      refine (offered none between ⟨heap, .nothing .refl, shownBetween⟩).bind ?_
      rintro _ filled ⟨current, drafts, shownFilled⟩
      refine (meets_text keeps shownFilled (by simp)).mono ?_
      rintro _ later ⟨shownLater, _⟩
      cases drafts with
      | nothing only => exact ⟨_, shownLater, only⟩
  | some list =>
      obtain ⟨absent, opened⟩ := keeps.newObj shown given.symm
      rw [← stored] at opened
      refine meets_withReference keeps opened mem_live_set_self fun entered held _ => ?_
      rw [retain_set] at held
      have empty : heap.Drafts interp (some list) (heap.owning list none []) :=
        .list list [] .refl (fresh_singleton absent)
      refine (offered (some list) entered ⟨_, empty, held⟩).bind ?_
      rintro _ filled ⟨current, drafts, shownFilled⟩
      obtain ⟨cell, found, _⟩ := drafts.cells rfl
      have live := mem_live_iff.mpr ⟨cell, found⟩
      refine (meets_text keeps shownFilled (by simpa using live)).mono ?_
      rintro _ left ⟨shownLeft, _⟩
      exact ⟨_, shownLeft, live, fun later shownLater _ => ⟨_, shownLater, drafts.finish rfl⟩⟩

theorem meets_splitList_onlyResult (laws : engine.KeepsBooks shows) (order : heap.InOrder outside)
    (known : interp ∈ heap.interps) (shown : shows scene.store heap) (given : String) :
    (splitList engine interp given).Meets (fun _ later =>
      ∃ left, shows later.store left ∧ heap.OnlyResult interp left) scene := by
  have keeps := laws.toKeepsObjects
  refine (meets_newText keeps shown given).bind ?_
  rintro object between ⟨absent, shownBetween, _⟩
  refine meets_withReference keeps shownBetween mem_live_set_self fun entered held _ => ?_
  rw [retain_set] at held
  have found : (heap.set object { count := 1, text := some (Text.encode given) }).cells object =
      some { count := 1, text := some (Text.encode given) } := by simp
  have asked : (elements engine interp object).Meets (fun items later =>
      items = (engine.elements interp object entered.store).1.map Elements.items ∧
        later.store = (engine.elements interp object entered.store).2) entered :=
    ⟨rfl, rfl⟩
  refine asked.bind ?_
  rintro items listed ⟨answered, stored⟩
  cases split : (engine.elements interp object entered.store).1 with
  | none =>
      rw [split, Option.map_none] at answered
      subst answered
      rcases laws.malformed held known mem_live_set_self split with same | ⟨_, replaced, shownLeft⟩
      · refine meets_pure ⟨_, stored ▸ same, mem_live_set_self, fun later shownLater _ => ?_⟩
        rw [release_string absent] at shownLater
        exact ⟨heap, shownLater, .refl⟩
      · obtain ⟨base, replacedBase, new, rfl⟩ := replaced.of_set order absent known
        refine meets_pure ⟨_, stored ▸ shownLeft, mem_live_set_self, fun later shownLater _ => ?_⟩
        rw [release_string new] at shownLater
        exact ⟨base, shownLater, .single replacedBase⟩
  | some elements =>
      rw [split, Option.map_some] at answered
      subst answered
      obtain ⟨made, freshBelow, among, shownSplit⟩ := laws.elements interp held found rfl split
      have fresh := Fresh.of_set absent freshBelow
      have new := (List.nodup_cons.mp fresh.distinct).1
      rw [place_set new, set_set, ← stored] at shownSplit
      have read : (elements.items.mapM fun item => withReference engine (some item)
          (text engine (some item))).Meets (fun _ later => shows later.store
            (heap.owning object (some (Text.encode given)) made)) listed := by
        refine meets_mapM shownSplit fun item member between shownItem => ?_
        obtain ⟨⟨item, bytes⟩, entry, rfl⟩ := List.mem_map.mp (among item member)
        refine (meets_readItem keeps shownItem (cells_owning_of_mem fresh entry) ?_).mono ?_
        · exact Nat.lt_succ_self 0
        · exact fun _ _ => And.left
      refine read.bind fun answers left shownLeft => ?_
      refine meets_pure ⟨_, shownLeft, mem_live_set_self, fun later shownLater _ => ?_⟩
      rw [release_owning fresh] at shownLater
      exact ⟨heap, shownLater, .refl⟩

end Call

end TclHost
