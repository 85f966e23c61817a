import TclHost.Engine
import TclHost.Error

/-!
The record of a run: every call into the library, every answer the host gave it, and whatever
programs note down themselves.
-/

namespace TclHost

inductive Reply where
  | outcome (outcome : Outcome)
  /-- The session is being taken down, so no handler ran. -/
  | gone
  deriving DecidableEq, Repr

def Reply.code : Reply → Int
  | .outcome (.value _) => 0
  | _ => 1

def Reply.text : Reply → String
  | .outcome (.value text) => text
  | .outcome (.error cause) => cause.message
  | .outcome (.panic message) => "host command panicked: " ++ panicText message
  | .gone => "interpreter is being deleted"

inductive Event (N : Type) where
  | create (interp : InterpId)
  | init (interp : InterpId)
  | preserve (interp : InterpId)
  | command (interp : InterpId) (name : String)
  | makeSafe (interp : InterpId)
  /-- The library answered whether the unsafe commands are hidden. -/
  | restricted (interp : InterpId) (code : Int)
  | ready (interp : InterpId)
  | evaluate (interp : InterpId) (script : List UInt8)
  /-- The library is done with the script. -/
  | completed (interp : InterpId) (code : Int)
  /-- The evaluation returns to the program that asked for it. -/
  | returned (interp : InterpId)
  | called (interp : InterpId)
  /-- The outcome of that command is settled. -/
  | answered (interp : InterpId) (outcome : Outcome)
  /-- The library has the host's answer. -/
  | sent (interp : InterpId) (reply : Reply)
  | delete (interp : InterpId)
  | release (interp : InterpId)
  | newObj (object : Option Obj)
  | newString (object : Obj) (bytes : List UInt8)
  | increment (object : Obj)
  | decrement (object : Obj)
  | append (list : Option Obj) (element : Obj) (code : Int)
  /-- How many elements the library found; absent where the list is malformed. -/
  | elements (list : Obj) (count : Option Nat)
  | bytes (object : Option Obj)
  | result (object : Option Obj)
  | setResult (object : Obj)
  | note (entry : N)
  deriving DecidableEq

def Event.objects {N : Type} : Event N → List Obj
  | .newObj object | .bytes object | .result object => object.toList
  | .newString object _ | .increment object | .decrement object | .elements object _
  | .setResult object => [object]
  | .append list element _ => list.toList ++ [element]
  | _ => []

end TclHost
