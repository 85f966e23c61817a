import TclHost.Proofs.Objects.Order
import TclHost.Text.Modified

/-!
What a host relies on when it hands objects to the library: each call does to the heap that the
library's store shows what it is documented to do.
-/

namespace TclHost

variable {σ : Type}

def Heap.textOf (heap : Heap) (object : Obj) : Option (List UInt8) :=
  (heap.cells object).bind Cell.text

structure Engine.KeepsObjects (engine : Engine σ) (shows : σ → Heap → Prop) : Prop where
  newObj : ∀ {store heap list}, shows store heap → (engine.newObj store).1 = some list →
    list ∉ heap.live ∧ shows (engine.newObj store).2 (heap.set list { text := none })
  newString : ∀ {store heap} text, shows store heap →
    (engine.newString text store).1 ∉ heap.live ∧ shows (engine.newString text store).2
      (heap.set (engine.newString text store).1 { text := some text })
  increment : ∀ {store heap object}, shows store heap → object ∈ heap.live →
    shows (engine.increment object store) (heap.retain object)
  decrement : ∀ {store heap object}, shows store heap → object ∈ heap.live →
    shows (engine.decrement object store) (heap.release [object])
  append : ∀ {store heap list element cell} interp, shows store heap →
    heap.cells list = some cell → cell.text = none → element ∈ heap.live →
      (engine.append interp (some list) element store).1 = 0 →
        shows (engine.append interp (some list) element store).2 (heap.append list element)
  bytes : ∀ {store heap object}, shows store heap → (∀ known ∈ object, known ∈ heap.live) →
    shows (engine.bytes object store).2 heap

/-- How the library writes a list of byte strings as one string. What it writes for encoded text
is encoded text. -/
structure ListFormat where
  render : List (List UInt8) → List UInt8
  split : List UInt8 → Option (List (List UInt8))
  split_render : ∀ elements, split (render elements) = some elements
  spelled : ∀ words : List String,
    ∃ list, render (words.map Text.encode) = Text.encode list

structure Engine.QuotesLists (engine : Engine σ) (shows : σ → Heap → Prop) (format : ListFormat) :
    Prop extends engine.KeepsObjects shows where
  newList : ∀ {store heap}, shows store heap → ∃ list, (engine.newObj store).1 = some list
  appends : ∀ {store heap list element cell} interp, shows store heap →
    heap.cells list = some cell → cell.text = none → cell.count = 1 → element ∈ heap.live →
      (engine.append interp (some list) element store).1 = 0
  string : ∀ {store heap object text}, shows store heap → heap.textOf object = some text →
    (engine.bytes (some object) store).1 = text
  list : ∀ {store heap list cell texts}, shows store heap → heap.cells list = some cell →
    cell.text = none → cell.elements.map heap.textOf = texts.map some →
      (engine.bytes (some list) store).1 = format.render texts
  /-- The elements that a string is split into are new, and it owns them. -/
  splits : ∀ {store heap object cell text texts} interp, shows store heap →
    heap.cells object = some cell → cell.text = some text → cell.elements = [] →
      format.split text = some texts →
        ∃ made : List (Obj × List UInt8), made.map Prod.snd = texts ∧
          heap.Fresh (made.map Prod.fst) ∧
          (engine.elements interp object store).1 = some ⟨texts.length, made.map Prod.fst⟩ ∧
          shows (engine.elements interp object store).2
            ((heap.place made).set object { cell with elements := made.map Prod.fst })

def Tidy (shows : σ → Heap → Prop) (outside : Multiset Obj) (interps : Finset InterpId)
    (store : σ) : Prop :=
  ∃ heap, shows store heap ∧ heap.InOrder outside ∧ heap.interps = interps

def Lent (shows : σ → Heap → Prop) (outside : Multiset Obj) (interps : Finset InterpId)
    (objects : List Obj) (store : σ) : Prop :=
  ∃ heap, shows store heap ∧ heap.InOrder outside ∧ heap.interps = interps ∧
    ∀ object ∈ objects, object ∈ heap.live

theorem Lent.tidy {shows : σ → Heap → Prop} {outside : Multiset Obj} {interps : Finset InterpId}
    {objects : List Obj} {store : σ} (lent : Lent shows outside interps objects store) :
    Tidy shows outside interps store := by
  obtain ⟨heap, shown, order, same, _⟩ := lent
  exact ⟨heap, shown, order, same⟩

/-- Whatever the library was entered for, it lends out words that are alive and keeps the objects
in order, provided that the host does so meanwhile and the interpreter stays. -/
def Reaction.Tidy (shows : σ → Heap → Prop) (interp : InterpId) (outside : Multiset Obj) :
    Finset InterpId → Reaction σ → Prop
  | interps, .finished _ store => TclHost.Tidy shows outside interps store
  | interps, .callback caller words store resume =>
      ∃ own : Multiset Obj, Lent shows (own + outside) interps words store ∧ caller ∈ interps ∧
        ∀ code later others, TclHost.Tidy shows (own + outside) others later → interp ∈ others →
          (resume code later).Tidy shows interp outside others

/-- The library follows its protocol of references. It may refuse to append, find a list malformed,
and put a message of its own in place of the interpreter's result. -/
structure Engine.KeepsBooks (engine : Engine σ) (shows : σ → Heap → Prop) :
    Prop extends engine.KeepsObjects shows where
  noList : ∀ {store heap}, shows store heap → (engine.newObj store).1 = none →
    shows (engine.newObj store).2 heap
  refused : ∀ {store heap list element interp}, shows store heap → interp ∈ heap.interps →
    (∀ known ∈ list, known ∈ heap.live) → element ∈ heap.live →
      (list = none ∨ (engine.append interp list element store).1 ≠ 0) →
        shows (engine.append interp list element store).2 heap ∨
          ∃ later, heap.Replaces interp later ∧
            shows (engine.append interp list element store).2 later
  malformed : ∀ {store heap object interp}, shows store heap → interp ∈ heap.interps →
    object ∈ heap.live → (engine.elements interp object store).1 = none →
      shows (engine.elements interp object store).2 heap ∨
        ∃ later, heap.Replaces interp later ∧
          shows (engine.elements interp object store).2 later
  elements : ∀ {store heap object cell elements} interp, shows store heap →
    heap.cells object = some cell → cell.elements = [] →
      (engine.elements interp object store).1 = some elements →
        ∃ made : List (Obj × List UInt8), heap.Fresh (made.map Prod.fst) ∧
          (∀ item ∈ elements.items, item ∈ made.map Prod.fst) ∧
          shows (engine.elements interp object store).2
            ((heap.place made).set object { cell with elements := made.map Prod.fst })
  setResult : ∀ {store heap object interp}, shows store heap → interp ∈ heap.interps →
    object ∈ heap.live → shows (engine.setResult interp object store) (heap.setResult interp object)
  result : ∀ {store heap outside interp}, shows store heap → heap.InOrder outside →
    interp ∈ heap.interps → ∃ later, shows (engine.result interp store).2 later ∧
      later.InOrder outside ∧ later.interps = heap.interps ∧
      ∀ object ∈ (engine.result interp store).1, object ∈ later.live
  create : ∀ {store outside interps interp}, Tidy shows outside interps store →
    interp ∉ interps → Tidy shows outside
      (if (engine.create interp store).1 then insert interp interps else interps)
      (engine.create interp store).2
  init : ∀ {store outside interps interp}, Tidy shows outside interps store →
    interp ∈ interps → Tidy shows outside interps (engine.init interp store).2
  preserve : ∀ {store outside interps interp}, Tidy shows outside interps store →
    interp ∈ interps → Tidy shows outside interps (engine.preserve interp store)
  createCommand : ∀ {store outside interps interp} name, Tidy shows outside interps store →
    interp ∈ interps → Tidy shows outside interps (engine.createCommand interp name store)
  release : ∀ {store outside interps interp}, Tidy shows outside interps store →
    interp ∈ interps → Tidy shows outside (interps.erase interp) (engine.release interp store)
  evaluate : ∀ {store outside interps interp} script, Tidy shows outside interps store →
    interp ∈ interps → (engine.evaluate interp script store).Tidy shows interp outside interps
  makeSafe : ∀ {store outside interps interp}, Tidy shows outside interps store →
    interp ∈ interps → (engine.makeSafe interp store).Tidy shows interp outside interps
  delete : ∀ {store outside interps interp}, Tidy shows outside interps store →
    interp ∈ interps → (engine.delete interp store).Tidy shows interp outside interps

end TclHost
