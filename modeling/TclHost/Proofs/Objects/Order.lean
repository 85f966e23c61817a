import Mathlib.Algebra.Order.BigOperators.Group.List
import Mathlib.Algebra.Order.Group.Nat
import Mathlib.Data.Finset.Max
import Mathlib.Tactic.Abel
import TclHost.Proofs.Objects.Heap

/-!
A heap is in order while each count is the number of references that lists, interpreters and
others outside the heap hold.
-/

namespace TclHost.Heap

def countOf (heap : Heap) (object : Obj) : Nat :=
  ((heap.cells object).map Cell.count).getD 0

def elementsOf (heap : Heap) (object : Obj) : List Obj :=
  ((heap.cells object).map Cell.elements).getD []

@[simp] theorem countOf_set (heap : Heap) (object other : Obj) (cell : Cell) :
    (heap.set object cell).countOf other =
      if other = object then cell.count else heap.countOf other := by
  by_cases same : other = object <;> simp [countOf, same]

@[simp] theorem countOf_erase (heap : Heap) (object other : Obj) :
    (heap.erase object).countOf other = if other = object then 0 else heap.countOf other := by
  by_cases same : other = object <;> simp [countOf, same]

theorem countOf_eq {heap : Heap} {object : Obj} {cell : Cell}
    (found : heap.cells object = some cell) : heap.countOf object = cell.count := by
  simp [countOf, found]

theorem elementsOf_eq {heap : Heap} {object : Obj} {cell : Cell}
    (found : heap.cells object = some cell) : heap.elementsOf object = cell.elements := by
  simp [elementsOf, found]

/-! References. -/

def ownedBy (cell : Option Cell) : Multiset Obj :=
  (cell.map Cell.elements).getD []

def heldBy (heap : Heap) (interp : InterpId) : Multiset Obj :=
  (heap.result interp).toList + (heap.held interp : Multiset Obj)

def references (heap : Heap) : Multiset Obj :=
  heap.total ownedBy +
    ∑ interp ∈ heap.interps, heap.heldBy interp

theorem references_erase (heap : Heap) (object : Obj) :
    (heap.elementsOf object : Multiset Obj) + (heap.erase object).references = heap.references := by
  have erased := heap.total_erase ownedBy object rfl
  rw [references, references, ← erased, add_assoc]
  rfl

theorem references_set (heap : Heap) (object : Obj) (cell : Cell) :
    (heap.elementsOf object : Multiset Obj) + (heap.set object cell).references =
      cell.elements + heap.references := by
  have replaced := heap.total_set ownedBy object rfl cell
  rw [references, references, ← add_assoc, ← add_assoc]
  exact congrArg₂ _ replaced rfl

theorem references_set_of_elements {heap : Heap} {object : Obj} {cell : Cell}
    (same : heap.elementsOf object = cell.elements) :
    (heap.set object cell).references = heap.references := by
  have replaced := heap.references_set object cell
  rw [same] at replaced
  exact add_left_cancel replaced

structure InOrder (heap : Heap) (outside : Multiset Obj) : Prop where
  counted : ∀ object, heap.countOf object = (heap.references + outside).count object
  owned : ∀ object ∈ heap.live, 0 < heap.countOf object
  /-- No object contains itself, however deep down. -/
  ranked : ∃ rank : Obj → Nat, ∀ object cell, heap.cells object = some cell →
    ∀ element ∈ cell.elements, rank element < rank object

variable {heap : Heap} {object : Obj} {cell : Cell} {outside : Multiset Obj}

theorem InOrder.found (order : heap.InOrder outside)
    (referred : object ∈ heap.references + outside) : ∃ cell, heap.cells object = some cell := by
  have counted := order.counted object
  have positive := Multiset.count_pos.mpr referred
  cases found : heap.cells object with
  | some cell => exact ⟨cell, rfl⟩
  | none =>
      simp only [countOf, found, Option.map_none, Option.getD_none] at counted
      omega

theorem InOrder.mem_live (order : heap.InOrder outside)
    (referred : object ∈ heap.references + outside) : object ∈ heap.live :=
  mem_live_iff.mpr (order.found referred)

theorem InOrder.count_without (order : heap.InOrder (object ::ₘ outside)) (other : Obj) :
    (heap.references + outside).count other =
      if other = object then heap.countOf object - 1 else heap.countOf other := by
  have counted := order.counted other
  split
  · rename_i same
    subst same
    simp only [Multiset.count_add, Multiset.count_cons_self] at counted ⊢
    omega
  · rename_i different
    simpa [Multiset.count_cons_of_ne different] using counted.symm

theorem InOrder.owned_set (order : heap.InOrder outside) (owned : 0 < cell.count) {other : Obj}
    (live : other ∈ (heap.set object cell).live) : 0 < (heap.set object cell).countOf other := by
  rw [countOf_set]
  split
  · exact owned
  · rename_i different
    refine order.owned other ?_
    simpa [set, different] using live

theorem InOrder.lower (order : heap.InOrder (object ::ₘ outside))
    (found : heap.cells object = some cell) (shared : 1 < cell.count) :
    (heap.set object { cell with count := cell.count - 1 }).InOrder outside := by
  have references : (heap.set object { cell with count := cell.count - 1 }).references =
      heap.references := references_set_of_elements (by rw [elementsOf_eq found])
  have owned : 0 < cell.count - 1 := by omega
  refine ⟨fun other => ?_, fun other => order.owned_set owned, ?_⟩
  · rw [references, countOf_set, order.count_without, countOf_eq found]
  · obtain ⟨rank, ranked⟩ := order.ranked
    refine ⟨rank, fun other known foundOther element member => ?_⟩
    rw [cells_set] at foundOther
    split at foundOther
    · rename_i same
      cases foundOther
      exact same ▸ ranked object cell found element member
    · exact ranked other known foundOther element member

theorem InOrder.free (order : heap.InOrder (object ::ₘ outside))
    (found : heap.cells object = some cell) (last : cell.count ≤ 1) :
    (heap.erase object).InOrder (cell.elements + outside) := by
  have references := heap.references_erase object
  rw [elementsOf_eq found] at references
  refine ⟨fun other => ?_, fun other live => ?_, ?_⟩
  · -- Its one reference was the one from outside, so nothing refers to it now.
    have without := order.count_without other
    rw [countOf_eq found, Nat.sub_eq_zero_of_le last] at without
    rw [countOf_erase, ← without, ← references, add_comm (cell.elements : Multiset Obj), add_assoc]
  · have different : other ≠ object := fun same => by simp [erase, same] at live
    rw [countOf_erase, if_neg different]
    exact order.owned other (Finset.mem_of_mem_erase live)
  · obtain ⟨rank, ranked⟩ := order.ranked
    refine ⟨rank, fun other known foundOther => ?_⟩
    rw [cells_erase, Option.ite_none_left_eq_some] at foundOther
    exact ranked other known foundOther.2

theorem InOrder.release {pending : List Obj} (order : heap.InOrder (pending + outside)) :
    (heap.release pending).InOrder outside := by
  fun_induction Heap.release heap pending with
  | case1 => simpa using order
  | case2 heap object rest missing ih =>
      have referred : object ∈ heap.references + ((object :: rest : List Obj) + outside) := by simp
      obtain ⟨cell, found⟩ := order.found referred
      simp [missing] at found
  | case3 heap object rest cell found last ih =>
      refine ih ?_
      rw [← Multiset.cons_coe, Multiset.cons_add] at order
      have freed := order.free found last
      rwa [← add_assoc, Multiset.coe_add] at freed
  | case4 heap object rest cell found shared ih =>
      refine ih ?_
      rw [← Multiset.cons_coe, Multiset.cons_add] at order
      exact order.lower found (Nat.lt_of_not_le shared)

theorem mem_references_of_element {other element : Obj} (found : heap.cells other = some cell)
    (member : element ∈ cell.elements) : element ∈ heap.references := by
  rw [← heap.references_erase other, elementsOf_eq found]
  exact Multiset.mem_add.mpr (Or.inl member)

theorem mem_references_of_result {interp : InterpId} (known : interp ∈ heap.interps)
    (result : heap.result interp = some object) : object ∈ heap.references := by
  refine Multiset.mem_add.mpr (Or.inr ?_)
  refine Multiset.mem_sum.mpr ⟨interp, known, ?_⟩
  simp [heldBy, result]

theorem InOrder.live_of_reference (order : heap.InOrder outside)
    (referred : object ∈ heap.references) : object ∈ heap.live :=
  order.mem_live (Multiset.mem_add.mpr (Or.inl referred))

/-- A new object that is referred to once from outside takes over the references on its elements. -/
theorem InOrder.add (order : heap.InOrder (cell.elements + outside)) (absent : object ∉ heap.live)
    (once : cell.count = 1) : (heap.set object cell).InOrder (object ::ₘ outside) := by
  have missing := not_mem_live_iff.mp absent
  have references := heap.references_set object cell
  have unowned : heap.elementsOf object = [] := by simp [elementsOf, missing]
  rw [unowned, Multiset.coe_nil, zero_add] at references
  have unreferred : (heap.references + (cell.elements + outside)).count object = 0 := by
    rw [← order.counted object, countOf, missing]
    rfl
  refine ⟨fun other => ?_, fun other => order.owned_set (by omega), ?_⟩
  · have counted := order.counted other
    rw [references, countOf_set]
    simp only [Multiset.count_add] at counted unreferred ⊢
    by_cases same : other = object
    · subst same
      simp only [if_true, once, Multiset.count_cons_self]
      omega
    · rw [if_neg same, Multiset.count_cons_of_ne same]
      omega
  · obtain ⟨rank, ranked⟩ := order.ranked
    refine ⟨fun other => if other = object then 1 + (cell.elements.map rank).sum else rank other,
      fun other known foundOther element member => ?_⟩
    have apart : element ≠ object := by
      rintro rfl
      refine absurd unreferred (Nat.pos_iff_ne_zero.mp (Multiset.count_pos.mpr ?_))
      rw [cells_set] at foundOther
      split at foundOther
      · cases foundOther
        exact Multiset.mem_add.mpr (Or.inr (Multiset.mem_add.mpr (Or.inl member)))
      · exact Multiset.mem_add.mpr (Or.inl (mem_references_of_element foundOther member))
    rw [cells_set] at foundOther
    simp only [if_neg apart]
    split at foundOther
    · rename_i same
      cases foundOther
      have bound := List.le_sum_of_mem (List.mem_map_of_mem (f := rank) member)
      rw [if_pos same]
      omega
    · rename_i different
      rw [if_neg different]
      exact ranked other known foundOther element member

theorem InOrder.add_text (order : heap.InOrder outside) (absent : object ∉ heap.live)
    (text : List UInt8) :
    (heap.set object { count := 1, text := some text }).InOrder (object ::ₘ outside) := by
  refine InOrder.add ?_ absent rfl
  simpa using order

theorem references_assign {interp : InterpId} (known : interp ∈ heap.interps) (object : Obj) :
    (heap.result interp).toList + (heap.assign interp object).references =
      object ::ₘ heap.references := by
  have others : ∑ other ∈ heap.interps.erase interp, (heap.assign interp object).heldBy other =
      ∑ other ∈ heap.interps.erase interp, heap.heldBy other := by
    refine Finset.sum_congr rfl fun other member => ?_
    simp [heldBy, Heap.assign, Finset.ne_of_mem_erase member]
  have taken : (heap.assign interp object).heldBy interp = object ::ₘ (heap.held interp) := by
    simp [heldBy, Heap.assign]
  have before := Finset.add_sum_erase heap.interps heap.heldBy known
  have after := Finset.add_sum_erase heap.interps (heap.assign interp object).heldBy known
  rw [others, taken] at after
  rw [heldBy] at before
  have same : (heap.assign interp object).total = heap.total (M := Multiset Obj) := rfl
  have interps : (heap.assign interp object).interps = heap.interps := rfl
  rw [references, references, same, interps, ← before, ← after]
  simp only [← Multiset.singleton_add]
  abel

/-- The interpreter gives up its old result for the object, which somebody outside held. -/
theorem InOrder.assign {interp : InterpId} (order : heap.InOrder (object ::ₘ outside))
    (known : interp ∈ heap.interps) :
    (heap.assign interp object).InOrder ((heap.result interp).toList + outside) := by
  have references := references_assign known object
  refine ⟨fun other => ?_, order.owned, order.ranked⟩
  have same : (heap.assign interp object).references + ((heap.result interp).toList + outside) =
      heap.references + object ::ₘ outside := by
    rw [add_left_comm, ← add_assoc, references, Multiset.cons_add, Multiset.add_cons]
  rw [same]
  exact order.counted other

variable {interp : InterpId} {later : Heap} {made : List (Obj × List UInt8)}

theorem InOrder.setResult (order : heap.InOrder outside) (absent : object ∉ heap.live)
    (known : interp ∈ heap.interps) (text : List UInt8) :
    ((heap.set object { text := some text }).setResult interp object).InOrder outside := by
  rw [setResult_text]
  exact ((order.add_text absent text).assign known).release

theorem Replaces.inOrder (replaced : heap.Replaces interp later) (order : heap.InOrder outside)
    (known : interp ∈ heap.interps) : later.InOrder outside := by
  obtain ⟨object, text, absent, rfl⟩ := replaced
  exact order.setResult absent known text

theorem Replaces.interps (replaced : heap.Replaces interp later) :
    later.interps = heap.interps := by
  obtain ⟨object, text, _, rfl⟩ := replaced
  rw [setResult_text]
  exact (release_others _ _).1

theorem InOrder.place (order : heap.InOrder outside) (fresh : heap.Fresh (made.map Prod.fst)) :
    (heap.place made).InOrder (made.map Prod.fst + outside) := by
  induction made with
  | nil => simpa [Heap.place] using order
  | cons first rest ih =>
      have added := (ih fresh.tail).add_text (fresh.not_mem_place rfl) first.2
      rwa [← Multiset.cons_add] at added

theorem Replaces.of_set (replaced : (heap.set object cell).Replaces interp later)
    (order : heap.InOrder outside) (absent : object ∉ heap.live) (known : interp ∈ heap.interps) :
    ∃ between, heap.Replaces interp between ∧ object ∉ between.live ∧
      later = between.set object cell := by
  obtain ⟨result, text, new, rfl⟩ := replaced
  rw [mem_live_set, not_or] at new
  refine ⟨_, ⟨result, text, new.2, rfl⟩, ?_, ?_⟩
  · intro live
    rcases live_of_setResult live with same | before
    · exact new.1 same.symm
    · exact absent before
  · rw [setResult_text, setResult_text, set_comm cell _ (Ne.symm new.1), assign_set _ object]
    refine release_set ?_ ?_
    · intro member
      refine absent (order.live_of_reference (mem_references_of_result known ?_))
      exact Option.mem_toList.mp member
    · intro other found foundOther member
      change ((heap.set result _).cells other) = some found at foundOther
      rw [cells_set] at foundOther
      split at foundOther
      · cases foundOther
        cases member
      · exact absent (order.live_of_reference (mem_references_of_element foundOther member))

theorem Replaces.of_place (replaced : (heap.place made).Replaces interp later)
    (order : heap.InOrder outside) (fresh : heap.Fresh (made.map Prod.fst))
    (known : interp ∈ heap.interps) :
    ∃ between, heap.Replaces interp between ∧ between.Fresh (made.map Prod.fst) ∧
      later = between.place made := by
  induction made generalizing later with
  | nil => exact ⟨later, replaced, ⟨fresh.distinct, by simp⟩, rfl⟩
  | cons first rest ih =>
      have knownStill : interp ∈ (heap.place rest).interps := by
        rwa [(place_others heap rest).1]
      obtain ⟨between, replacedBelow, absent, rfl⟩ := Replaces.of_set replaced
        (order.place fresh.tail) (fresh.not_mem_place rfl) knownStill
      obtain ⟨before, replacedFirst, freshRest, rfl⟩ := ih replacedBelow fresh.tail
      rw [mem_live_place, not_or] at absent
      refine ⟨before, replacedFirst, ⟨fresh.distinct, ?_⟩, rfl⟩
      intro object member
      rcases List.mem_cons.mp member with rfl | later
      · exact absent.2
      · exact freshRest.absent object later

theorem InOrder.live_eq_empty (order : heap.InOrder 0) (gone : heap.interps = ∅) :
    heap.live = ∅ := by
  obtain ⟨rank, ranked⟩ := order.ranked
  -- An object of the highest rank is owned, but by no interpreter and by no list below it.
  by_contra some
  obtain ⟨object, live, highest⟩ :=
    heap.live.exists_max_image rank (Finset.nonempty_iff_ne_empty.mpr some)
  have referred : object ∈ heap.references := by
    have counted := order.counted object
    have positive := order.owned object live
    rw [add_zero] at counted
    exact Multiset.count_pos.mp (counted ▸ positive)
  rw [references, gone, Finset.sum_empty, add_zero, total, Multiset.mem_sum] at referred
  obtain ⟨owner, liveOwner, member⟩ := referred
  obtain ⟨cell, found⟩ := mem_live_iff.mp liveOwner
  rw [found] at member
  have higher := ranked owner cell found object (Multiset.mem_coe.mp member)
  have bound := highest owner liveOwner
  omega

end TclHost.Heap
