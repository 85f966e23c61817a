import Mathlib.Algebra.BigOperators.Group.Finset.Basic
import TclHost.Engine

/-!
The objects of an interpreter library, as a host may imagine them. An object is freed when its last
reference is given back, and then gives back the references on its own elements.
-/

namespace TclHost

structure Cell where
  count : Nat := 0
  /-- The bytes of a string; a list has none of its own. -/
  text : Option (List UInt8)
  elements : List Obj := []
  deriving DecidableEq

structure Heap where
  cells : Obj → Option Cell
  live : Finset Obj
  mem_live : ∀ object, object ∈ live ↔ (cells object).isSome
  interps : Finset InterpId
  result : InterpId → Option Obj
  /-- What an interpreter refers to besides its result. -/
  held : InterpId → List Obj

namespace Heap

@[ext] theorem ext_cells {heap other : Heap} (cells : heap.cells = other.cells)
    (interps : heap.interps = other.interps) (result : heap.result = other.result)
    (held : heap.held = other.held) : heap = other := by
  obtain ⟨_, live, mem_live, _, _, _⟩ := heap
  obtain ⟨_, otherLive, mem_otherLive, _, _, _⟩ := other
  cases cells
  cases interps
  cases result
  cases held
  have same : live = otherLive := by
    ext object
    rw [mem_live, mem_otherLive]
  cases same
  rfl

def empty : Heap where
  cells _ := none
  live := ∅
  mem_live := by simp
  interps := ∅
  result _ := none
  held _ := []

def set (heap : Heap) (object : Obj) (cell : Cell) : Heap :=
  { heap with
    cells := Function.update heap.cells object (some cell)
    live := insert object heap.live
    mem_live := by
      intro other
      by_cases same : other = object
      · simp [same]
      · simp [same, heap.mem_live] }

def erase (heap : Heap) (object : Obj) : Heap :=
  { heap with
    cells := Function.update heap.cells object none
    live := heap.live.erase object
    mem_live := by
      intro other
      by_cases same : other = object
      · simp [same]
      · simp [same, heap.mem_live] }

@[simp] theorem cells_set (heap : Heap) (object other : Obj) (cell : Cell) :
    (heap.set object cell).cells other = if other = object then some cell else heap.cells other := by
  by_cases same : other = object <;> simp [set, same]

@[simp] theorem cells_erase (heap : Heap) (object other : Obj) :
    (heap.erase object).cells other = if other = object then none else heap.cells other := by
  by_cases same : other = object <;> simp [erase, same]

theorem set_set (heap : Heap) (object : Obj) (cell other : Cell) :
    (heap.set object cell).set object other = heap.set object other := by
  refine ext_cells (funext fun another => ?_) rfl rfl rfl
  by_cases same : another = object <;> simp [same]

theorem set_comm {heap : Heap} {object other : Obj} (cell another : Cell)
    (different : object ≠ other) :
    (heap.set object cell).set other another = (heap.set other another).set object cell := by
  refine ext_cells (funext fun third => ?_) rfl rfl rfl
  rw [cells_set, cells_set, cells_set, cells_set]
  by_cases first : third = object
  · rw [if_pos first, if_pos first, if_neg (first ▸ different)]
  · rw [if_neg first, if_neg first]

theorem set_of_found {heap : Heap} {object : Obj} {cell : Cell}
    (found : heap.cells object = some cell) : heap.set object cell = heap := by
  refine ext_cells (funext fun other => ?_) rfl rfl rfl
  by_cases same : other = object <;> simp [same, found]

theorem erase_set_of_ne {heap : Heap} {object other : Obj} (cell : Cell)
    (different : object ≠ other) :
    (heap.set object cell).erase other = (heap.erase other).set object cell := by
  refine ext_cells (funext fun third => ?_) rfl rfl rfl
  rw [cells_erase, cells_set, cells_set, cells_erase]
  by_cases first : third = object
  · rw [if_pos first, if_pos first, if_neg (first ▸ different)]
  · rw [if_neg first, if_neg first]

theorem mem_live_iff {heap : Heap} {object : Obj} :
    object ∈ heap.live ↔ ∃ cell, heap.cells object = some cell := by
  rw [heap.mem_live, Option.isSome_iff_exists]

theorem not_mem_live_iff {heap : Heap} {object : Obj} :
    object ∉ heap.live ↔ heap.cells object = none := by
  rw [heap.mem_live, Option.not_isSome_iff_eq_none]

theorem erase_set_of_not_mem {heap : Heap} {object : Obj} (cell : Cell)
    (absent : object ∉ heap.live) : (heap.set object cell).erase object = heap := by
  refine ext_cells (funext fun other => ?_) rfl rfl rfl
  by_cases same : other = object <;> simp [same, not_mem_live_iff.mp absent]

@[simp] theorem mem_live_set {heap : Heap} {object other : Obj} {cell : Cell} :
    other ∈ (heap.set object cell).live ↔ other = object ∨ other ∈ heap.live :=
  Finset.mem_insert

theorem mem_live_set_self {heap : Heap} {object : Obj} {cell : Cell} :
    object ∈ (heap.set object cell).live :=
  mem_live_set.mpr (Or.inl rfl)

/-! What a heap holds in all. -/

def total {M : Type} [AddCommMonoid M] (heap : Heap) (measure : Option Cell → M) : M :=
  ∑ object ∈ heap.live, measure (heap.cells object)

section Total

variable {M : Type} [AddCommMonoid M] (heap : Heap) (measure : Option Cell → M) (object : Obj)

theorem total_erase (nothing : measure none = 0) :
    measure (heap.cells object) + (heap.erase object).total measure = heap.total measure := by
  have elsewhere : (heap.erase object).total measure =
      ∑ other ∈ heap.live.erase object, measure (heap.cells other) := by
    refine Finset.sum_congr rfl fun other member => ?_
    rw [cells_erase, if_neg (Finset.ne_of_mem_erase member)]
  rw [elsewhere]
  by_cases live : object ∈ heap.live
  · exact Finset.add_sum_erase heap.live (fun other => measure (heap.cells other)) live
  · rw [Finset.erase_eq_of_notMem live, not_mem_live_iff.mp live, nothing, zero_add]
    rfl

theorem total_set (nothing : measure none = 0) (cell : Cell) :
    measure (heap.cells object) + (heap.set object cell).total measure =
      measure (some cell) + heap.total measure := by
  have erased : (heap.set object cell).erase object = heap.erase object := by
    ext other <;> simp [set, erase]
  have first := (heap.set object cell).total_erase measure object nothing
  have second := heap.total_erase measure object nothing
  rw [erased, cells_set, if_pos rfl] at first
  rw [← first, ← second, add_left_comm]

end Total

def weightOf (cell : Option Cell) : Nat :=
  (cell.map fun cell => 1 + cell.count + cell.elements.length).getD 0

def weight (heap : Heap) : Nat :=
  heap.total weightOf

theorem weight_erase {heap : Heap} {object : Obj} {cell : Cell}
    (found : heap.cells object = some cell) :
    1 + cell.count + cell.elements.length + (heap.erase object).weight = heap.weight := by
  have erased := heap.total_erase weightOf object rfl
  simpa [found, weight, weightOf] using erased

theorem weight_set {heap : Heap} {object : Obj} {cell : Cell} (other : Cell)
    (found : heap.cells object = some cell) :
    1 + cell.count + cell.elements.length + (heap.set object other).weight =
      1 + other.count + other.elements.length + heap.weight := by
  have replaced := heap.total_set weightOf object rfl other
  simpa [found, weight, weightOf] using replaced

def release (heap : Heap) : List Obj → Heap
  | [] => heap
  | object :: rest =>
      match _found : heap.cells object with
      | none => heap.release rest
      | some cell =>
          if cell.count ≤ 1 then (heap.erase object).release (cell.elements ++ rest)
          else (heap.set object { cell with count := cell.count - 1 }).release rest
termination_by pending => heap.weight + pending.length
decreasing_by
  · simp
  · have lighter := weight_erase _found
    simp only [List.length_append, List.length_cons]
    omega
  · have lighter := weight_set { cell with count := cell.count - 1 } _found
    simp only [List.length_cons] at lighter ⊢
    omega

theorem release_nil (heap : Heap) : heap.release [] = heap := by
  rw [release]

theorem release_missing {heap : Heap} {object : Obj} {rest : List Obj}
    (missing : heap.cells object = none) : heap.release (object :: rest) = heap.release rest := by
  rw [release]
  split
  · rfl
  · simp_all

theorem release_free {heap : Heap} {object : Obj} {rest : List Obj} {cell : Cell}
    (found : heap.cells object = some cell) (last : cell.count ≤ 1) :
    heap.release (object :: rest) = (heap.erase object).release (cell.elements ++ rest) := by
  rw [release]
  split
  · simp_all
  · simp_all

theorem release_lower {heap : Heap} {object : Obj} {rest : List Obj} {cell : Cell}
    (found : heap.cells object = some cell) (shared : 1 < cell.count) :
    heap.release (object :: rest) =
      (heap.set object { cell with count := cell.count - 1 }).release rest := by
  rw [release]
  split
  · simp_all
  · rename_i other same
    cases found.symm.trans same
    rw [if_neg (Nat.not_le.mpr shared)]

theorem release_others (heap : Heap) (pending : List Obj) :
    (heap.release pending).interps = heap.interps ∧
      (heap.release pending).result = heap.result ∧ (heap.release pending).held = heap.held := by
  fun_induction release heap pending with
  | case1 => exact ⟨rfl, rfl, rfl⟩
  | case2 _ _ _ _ ih => exact ih
  | case3 _ _ _ _ _ _ ih => exact ih
  | case4 _ _ _ _ _ _ ih => exact ih

theorem live_release_subset (heap : Heap) (pending : List Obj) :
    (heap.release pending).live ⊆ heap.live := by
  fun_induction release heap pending with
  | case1 => exact Finset.Subset.refl _
  | case2 _ _ _ _ ih => exact ih
  | case3 heap first rest freed found last ih =>
      exact fun object member => Finset.mem_of_mem_erase (ih member)
  | case4 heap first rest lowered found shared ih =>
      intro object member
      rcases mem_live_set.mp (ih member) with rfl | still
      · exact mem_live_iff.mpr ⟨lowered, found⟩
      · exact still

/-- What nothing in the heap refers to is not touched. -/
theorem release_set {heap : Heap} {object : Obj} {cell : Cell} {pending : List Obj}
    (apart : object ∉ pending)
    (unowned : ∀ other found, heap.cells other = some found → object ∉ found.elements) :
    (heap.set object cell).release pending = (heap.release pending).set object cell := by
  fun_induction release heap pending with
  | case1 => exact release_nil _
  | case2 heap first rest missing ih =>
      rw [List.mem_cons, not_or] at apart
      have still : (heap.set object cell).cells first = none := by
        rw [cells_set, if_neg (Ne.symm apart.1), missing]
      rw [release_missing still, ih apart.2 unowned]
  | case3 heap first rest freed found last ih =>
      rw [List.mem_cons, not_or] at apart
      have still : (heap.set object cell).cells first = some freed := by
        rw [cells_set, if_neg (Ne.symm apart.1), found]
      rw [release_free still last, erase_set_of_ne cell apart.1]
      refine ih ?_ fun other known foundOther => ?_
      · rw [List.mem_append, not_or]
        exact ⟨unowned first freed found, apart.2⟩
      · rw [cells_erase, Option.ite_none_left_eq_some] at foundOther
        exact unowned other known foundOther.2
  | case4 heap first rest lowered found shared ih =>
      rw [List.mem_cons, not_or] at apart
      have still : (heap.set object cell).cells first = some lowered := by
        rw [cells_set, if_neg (Ne.symm apart.1), found]
      rw [release_lower still (Nat.lt_of_not_le shared), set_comm cell _ apart.1]
      refine ih apart.2 fun other known foundOther => ?_
      rw [cells_set] at foundOther
      split at foundOther
      · cases foundOther
        exact unowned first lowered found
      · exact unowned other known foundOther

/-! References that are taken. -/

def retain (heap : Heap) (object : Obj) : Heap :=
  match heap.cells object with
  | none => heap
  | some cell => heap.set object { cell with count := cell.count + 1 }

theorem retain_of_found {heap : Heap} {object : Obj} {cell : Cell}
    (found : heap.cells object = some cell) :
    heap.retain object = heap.set object { cell with count := cell.count + 1 } := by
  simp [retain, found]

theorem retain_set (heap : Heap) (object : Obj) (cell : Cell) :
    (heap.set object cell).retain object =
      heap.set object { cell with count := cell.count + 1 } := by
  have found : (heap.set object cell).cells object = some cell := by simp
  rw [retain_of_found found, set_set]

theorem mem_live_retain {heap : Heap} {object other : Obj} (known : other ∈ heap.live) :
    other ∈ (heap.retain object).live := by
  unfold retain
  split
  · exact known
  · exact mem_live_set.mpr (Or.inr known)

theorem release_retain {heap : Heap} {object : Obj} {cell : Cell}
    (found : heap.cells object = some cell) (counted : 0 < cell.count) :
    (heap.retain object).release [object] = heap := by
  have raised : (heap.set object { cell with count := cell.count + 1 }).cells object =
      some { cell with count := cell.count + 1 } := by simp
  rw [retain_of_found found, release_lower raised (Nat.succ_lt_succ counted), release_nil, set_set]
  exact set_of_found found

def append (heap : Heap) (list element : Obj) : Heap :=
  match heap.cells list with
  | none => heap
  | some cell =>
      (heap.set list { cell with elements := cell.elements ++ [element] }).retain element

theorem mem_live_append {heap : Heap} {list element other : Obj} (known : other ∈ heap.live) :
    other ∈ (heap.append list element).live := by
  unfold append
  split
  · exact known
  · exact mem_live_retain (mem_live_set.mpr (Or.inr known))

def assign (heap : Heap) (interp : InterpId) (object : Obj) : Heap :=
  { heap with result := Function.update heap.result interp (some object) }

def setResult (heap : Heap) (interp : InterpId) (object : Obj) : Heap :=
  ((heap.retain object).assign interp object).release (heap.result interp).toList

theorem assign_set (heap : Heap) (object other : Obj) (cell : Cell) (interp : InterpId) :
    (heap.set object cell).assign interp other = (heap.assign interp other).set object cell := rfl

theorem setResult_text (heap : Heap) (interp : InterpId) (object : Obj) (text : List UInt8) :
    (heap.set object { text := some text }).setResult interp object =
      ((heap.set object { count := 1, text := some text }).assign interp object).release
        (heap.result interp).toList := by
  rw [setResult, retain_set]
  rfl

theorem live_of_setResult {heap : Heap} {interp : InterpId} {object other : Obj}
    {text : List UInt8}
    (member : other ∈ ((heap.set object { text := some text }).setResult interp object).live) :
    other = object ∨ other ∈ heap.live := by
  rw [setResult_text, assign_set] at member
  rcases mem_live_set.mp (live_release_subset _ _ member) with same | before
  · exact Or.inl same
  · exact Or.inr before

def Replaces (interp : InterpId) (heap later : Heap) : Prop :=
  ∃ object text, object ∉ heap.live ∧
    later = (heap.set object { text := some text }).setResult interp object

/-! New strings, each referred to once. -/

structure Fresh (heap : Heap) (objects : List Obj) : Prop where
  distinct : objects.Nodup
  absent : ∀ object ∈ objects, object ∉ heap.live

def place (heap : Heap) : List (Obj × List UInt8) → Heap
  | [] => heap
  | (object, text) :: rest => (heap.place rest).set object { count := 1, text := some text }

variable {heap : Heap} {made : List (Obj × List UInt8)} {object : Obj} {text : List UInt8}

theorem Fresh.tail {rest : List Obj} (fresh : heap.Fresh (object :: rest)) : heap.Fresh rest :=
  ⟨fresh.distinct.of_cons, fun other member => fresh.absent other (List.mem_cons_of_mem _ member)⟩

theorem mem_live_place :
    object ∈ (heap.place made).live ↔ object ∈ made.map Prod.fst ∨ object ∈ heap.live := by
  induction made with
  | nil => simp [place]
  | cons first rest ih => rw [place, mem_live_set, ih, List.map_cons, List.mem_cons, or_assoc]

theorem Fresh.not_mem_place {rest : List Obj} (fresh : heap.Fresh (object :: rest))
    (same : made.map Prod.fst = rest) : object ∉ (heap.place made).live := by
  rw [mem_live_place, same, not_or]
  exact ⟨(List.nodup_cons.mp fresh.distinct).1, fresh.absent object (by simp)⟩

theorem place_others (heap : Heap) (made : List (Obj × List UInt8)) :
    (heap.place made).interps = heap.interps ∧ (heap.place made).result = heap.result := by
  induction made with
  | nil => exact ⟨rfl, rfl⟩
  | cons first rest ih => exact ih

theorem place_concat (new : object ∉ made.map Prod.fst) :
    heap.place (made ++ [(object, text)]) =
      (heap.place made).set object { count := 1, text := some text } := by
  induction made with
  | nil => rfl
  | cons first rest ih =>
      rw [List.map_cons, List.mem_cons, not_or] at new
      rw [List.cons_append, place, ih new.2, set_comm _ _ new.1]
      rfl

theorem cells_place (fresh : heap.Fresh (made.map Prod.fst)) (member : (object, text) ∈ made) :
    (heap.place made).cells object = some { count := 1, text := some text } := by
  induction made with
  | nil => cases member
  | cons first rest ih =>
      rw [place, cells_set]
      rcases List.mem_cons.mp member with rfl | later
      · rw [if_pos rfl]
      · have different : object ≠ first.1 := by
          rintro rfl
          exact (List.nodup_cons.mp fresh.distinct).1 (List.mem_map.mpr ⟨_, later, rfl⟩)
        rw [if_neg different, ih fresh.tail later]

theorem release_place (fresh : heap.Fresh (made.map Prod.fst)) :
    (heap.place made).release (made.map Prod.fst) = heap := by
  induction made with
  | nil => exact release_nil heap
  | cons first rest ih =>
      have found := cells_place fresh (List.mem_cons_self : first ∈ first :: rest)
      rw [List.map_cons, release_free found (Nat.le_refl 1), List.nil_append]
      rw [place, erase_set_of_not_mem _ (fresh.not_mem_place rfl)]
      exact ih fresh.tail

/-! An object that owns new strings. -/

def owning (heap : Heap) (owner : Obj) (text : Option (List UInt8))
    (made : List (Obj × List UInt8)) : Heap :=
  (heap.place made).set owner { count := 1, text, elements := made.map Prod.fst }

variable {owner : Obj} {own : Option (List UInt8)}

@[simp] theorem cells_owning :
    (heap.owning owner own made).cells owner =
      some { count := 1, text := own, elements := made.map Prod.fst } := by
  rw [owning, cells_set, if_pos rfl]

theorem cells_owning_of_mem (fresh : heap.Fresh (owner :: made.map Prod.fst))
    (member : (object, text) ∈ made) :
    (heap.owning owner own made).cells object = some { count := 1, text := some text } := by
  have different : object ≠ owner := by
    rintro rfl
    exact (List.nodup_cons.mp fresh.distinct).1 (List.mem_map.mpr ⟨_, member, rfl⟩)
  rw [owning, cells_set, if_neg different, cells_place fresh.tail member]

/-- The owner is freed with its elements, which nobody else refers to. -/
theorem release_owning (fresh : heap.Fresh (owner :: made.map Prod.fst)) :
    (heap.owning owner own made).release [owner] = heap := by
  rw [release_free cells_owning (Nat.le_refl 1), owning,
    erase_set_of_not_mem _ (fresh.not_mem_place rfl), List.append_nil]
  exact release_place fresh.tail

theorem fresh_singleton (absent : object ∉ heap.live) : heap.Fresh [object] :=
  ⟨List.nodup_singleton object, by simpa using absent⟩

theorem release_string (absent : object ∉ heap.live) :
    (heap.set object { count := 1, text := own }).release [object] = heap := by
  have freed : (heap.owning object own []).release [object] = heap :=
    release_owning (fresh_singleton absent)
  exact freed

theorem Fresh.of_set {cell : Cell} {objects : List Obj} (absent : object ∉ heap.live)
    (fresh : (heap.set object cell).Fresh objects) : heap.Fresh (object :: objects) := by
  constructor
  · refine List.nodup_cons.mpr ⟨fun member => ?_, fresh.distinct⟩
    exact fresh.absent object member mem_live_set_self
  · intro other member
    rcases List.mem_cons.mp member with rfl | made
    · exact absent
    · exact fun live => fresh.absent other made (mem_live_set.mpr (Or.inr live))

theorem place_set {cell : Cell} (new : object ∉ made.map Prod.fst) :
    (heap.set object cell).place made = (heap.place made).set object cell := by
  induction made with
  | nil => rfl
  | cons first rest ih =>
      rw [List.map_cons, List.mem_cons, not_or] at new
      rw [place, ih new.2, set_comm _ _ new.1]
      rfl

section Concat

variable (absent : object ∉ (heap.owning owner own made).live)
include absent

theorem ne_of_not_mem_owning : owner ≠ object := by
  rintro rfl
  exact absent mem_live_set_self

theorem not_mem_of_not_mem_owning : object ∉ made.map Prod.fst ∧ object ∉ heap.live := by
  rw [owning, mem_live_set, mem_live_place, not_or, not_or] at absent
  exact absent.2

theorem Fresh.concat (fresh : heap.Fresh (owner :: made.map Prod.fst)) :
    heap.Fresh (owner :: (made ++ [(object, text)]).map Prod.fst) := by
  have other := ne_of_not_mem_owning absent
  obtain ⟨unmade, new⟩ := not_mem_of_not_mem_owning absent
  have same : owner :: (made ++ [(object, text)]).map Prod.fst =
      (owner :: made.map Prod.fst) ++ [object] := by simp
  rw [same]
  constructor
  · refine List.Nodup.append fresh.distinct (List.nodup_singleton object) ?_
    rw [List.disjoint_singleton, List.mem_cons, not_or]
    exact ⟨other.symm, unmade⟩
  · intro known member
    rcases List.mem_append.mp member with before | last
    · exact fresh.absent known before
    · exact List.mem_singleton.mp last ▸ new

/-- Appending takes a reference on the new element, so the one that was held can be given back. -/
theorem append_owning :
    (((heap.owning owner own made).set object { count := 1, text := some text }).append owner
        object).release [object] = heap.owning owner own (made ++ [(object, text)]) := by
  have other := ne_of_not_mem_owning absent
  have unmade := (not_mem_of_not_mem_owning absent).1
  have found : ((heap.owning owner own made).set object { count := 1, text := some text }).cells
      owner = some { count := 1, text := own, elements := made.map Prod.fst } := by
    rw [cells_set, if_neg other, cells_owning]
  have entry : (((heap.owning owner own made).set object { count := 1, text := some text }).set
      owner { count := 1, text := own, elements := made.map Prod.fst ++ [object] }).cells object =
      some { count := 1, text := some text } := by
    rw [cells_set, if_neg other.symm, cells_set, if_pos rfl]
  rw [append, found]
  rw [release_retain entry (Nat.lt_succ_self 0), owning, set_comm _ _ other, set_set, owning,
    place_concat unmade, List.map_append]
  rfl

end Concat

end Heap

end TclHost
