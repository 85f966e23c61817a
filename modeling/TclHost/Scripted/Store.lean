import Std.Data.TreeMap
import TclHost.Engine
import TclHost.Scripted.ListFormat

/-!
The objects of the scripted library. A new object has no reference; one whose last reference is
given back is freed, and gives back its references on the objects it owns.
-/

namespace TclHost.Scripted

structure Cell where
  count : Int := 0
  /-- The bytes of a string; a list has none of its own. -/
  text : Option (List UInt8)
  /-- The objects that this one owns a reference on: the elements of a list, or what a string was
  last split into. -/
  owned : List Obj := []
  deriving Repr, Inhabited

structure Store where
  cells : Std.TreeMap Nat Cell := ∅
  next : Nat := 0
  deriving Inhabited

namespace Store

def insert (store : Store) (object : Obj) (cell : Cell) : Store :=
  { store with cells := store.cells.insert object.id cell }

def allocate (store : Store) (cell : Cell) : Obj × Store :=
  (⟨store.next⟩, { cells := store.cells.insert store.next cell, next := store.next + 1 })

def increment (store : Store) (object : Obj) : Store :=
  match store.cells[object.id]? with
  | none => store
  | some cell => store.insert object { cell with count := cell.count + 1 }

/-- Gives back one reference. Ownership is nested less deeply than there are objects, so the bound
on the nesting is never met. -/
def decrementWithin : Nat → Store → Obj → Store
  | 0, store, _ => store
  | bound + 1, store, object =>
      match store.cells[object.id]? with
      | none => store
      | some cell =>
          if cell.count ≤ 1 then
            cell.owned.foldl (decrementWithin bound)
              { store with cells := store.cells.erase object.id }
          else store.insert object { cell with count := cell.count - 1 }

def decrement (store : Store) (object : Obj) : Store :=
  decrementWithin (store.cells.size + 1) store object

def decrementAll (store : Store) (objects : List Obj) : Store :=
  objects.foldl decrement store

def textOf (store : Store) (object : Obj) : List UInt8 :=
  match store.cells[object.id]? with
  | some { text := some bytes, .. } => bytes
  | _ => []

def bytes (store : Store) (object : Obj) : List UInt8 :=
  match store.cells[object.id]? with
  | none => []
  | some { text := some bytes, .. } => bytes
  | some { text := none, owned, .. } => joinElements (owned.map store.textOf)

def append (store : Store) (list element : Obj) : Store :=
  match store.cells[list.id]? with
  | none => store
  | some cell => (store.insert list { cell with owned := cell.owned ++ [element] }).increment element

def allocateAll (store : Store) : List (List UInt8) → List Obj × Store
  | [] => ([], store)
  | text :: rest =>
      let (object, store) := store.allocate { count := 1, text := some text }
      let (others, store) := store.allocateAll rest
      (object :: others, store)

def split? (store : Store) (object : Obj) : Option (List Obj × Store) :=
  match store.cells[object.id]? with
  | none => none
  | some cell =>
      match cell.text with
      | none => some (cell.owned, store)
      | some bytes =>
          match splitElements? bytes with
          | none => none
          | some texts =>
              let (elements, store) := store.allocateAll texts
              some (elements,
                (store.insert object { cell with owned := elements }).decrementAll cell.owned)

end Store

end TclHost.Scripted
