import Std.Data.TreeMap
import TclHost.Error

/-!
Named host commands with an optional receiver for all other names, and how one invocation is routed.
-/

namespace TclHost

def sendCommand : String := "interp_send"

structure CommandTable (H : Type) where
  handlers : Std.TreeMap String H := ∅
  receiver : Option H := none
  deriving Inhabited

namespace CommandTable

variable {H : Type}

def get? (table : CommandTable H) (name : String) : Option H :=
  table.handlers[name]?

def contains (table : CommandTable H) (name : String) : Bool :=
  table.handlers.contains name

def insert (table : CommandTable H) (name : String) (handler : H) : CommandTable H :=
  { table with handlers := table.handlers.insert name handler }

def erase (table : CommandTable H) (name : String) : CommandTable H :=
  { table with handlers := table.handlers.erase name }

def names (table : CommandTable H) : List String :=
  table.handlers.keys

def withReceiver (table : CommandTable H) (receiver : Option H) : CommandTable H :=
  { table with receiver }

def missingName : String :=
  "wrong # args: should be \"" ++ sendCommand ++ " name ?arg ...?\""

def unknownName (name : String) : String :=
  "invalid command name \"" ++ name ++ "\""

inductive Route (H : Type) where
  | handler (handler : H) (arguments : List String)
  | nowhere (message : String)

/-- A named handler gets the words after its name, the receiver gets all of them. -/
def route (table : CommandTable H) : List String → Route H
  | [] => .nowhere missingName
  | name :: arguments =>
      match table.get? name with
      | some handler => .handler handler arguments
      | none =>
          match table.receiver with
          | some handler => .handler handler (name :: arguments)
          | none => .nowhere (unknownName name)

@[simp] theorem get?_insert (table : CommandTable H) (name other : String) (handler : H) :
    (table.insert name handler).get? other =
      if name = other then some handler else table.get? other := by
  simp [insert, get?, Std.TreeMap.getElem?_insert]

@[simp] theorem get?_erase (table : CommandTable H) (name other : String) :
    (table.erase name).get? other = if name = other then none else table.get? other := by
  simp [erase, get?, Std.TreeMap.getElem?_erase]

theorem route_empty_ne_handler (words : List String) (handler : H) (arguments : List String) :
    ({} : CommandTable H).route words ≠ .handler handler arguments := by
  cases words <;> simp [route, get?]

theorem contains_eq_isSome (table : CommandTable H) (name : String) :
    table.contains name = (table.get? name).isSome := by
  simp [contains, get?]

theorem mem_names (table : CommandTable H) (name : String) :
    name ∈ table.names ↔ (table.get? name).isSome := by
  simp [names, get?]

end CommandTable

end TclHost
