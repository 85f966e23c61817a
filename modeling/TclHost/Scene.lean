import TclHost.Event
import TclHost.Text.Modified

/-!
Calls into the library that cannot call back. Each is recorded as it is made.
-/

namespace TclHost

structure Scene (σ N : Type) where
  store : σ
  events : Array (Event N) := #[]

abbrev Call (σ N α : Type) : Type := StateM (Scene σ N) α

namespace Call

variable {σ N α : Type}

def emit (event : Event N) : Call σ N Unit :=
  modify fun scene => { scene with events := scene.events.push event }

def act (call : σ → α × σ) : Call σ N α :=
  modifyGet fun scene =>
    let (answer, store) := call scene.store
    (answer, { scene with store })

def change (call : σ → σ) : Call σ N Unit :=
  modify fun scene => { scene with store := call scene.store }

/-! The interpreter's own calls. -/

def create (engine : Engine σ) (interp : InterpId) : Call σ N Bool := do
  emit (.create interp)
  act (engine.create interp)

def init (engine : Engine σ) (interp : InterpId) : Call σ N Int := do
  emit (.init interp)
  act (engine.init interp)

def preserve (engine : Engine σ) (interp : InterpId) : Call σ N Unit := do
  emit (.preserve interp)
  change (engine.preserve interp)

def release (engine : Engine σ) (interp : InterpId) : Call σ N Unit := do
  emit (.release interp)
  change (engine.release interp)

def createCommand (engine : Engine σ) (interp : InterpId) (name : String) : Call σ N Unit := do
  emit (.command interp name)
  change (engine.createCommand interp name)

/-! Calls on objects. -/

def newObj (engine : Engine σ) : Call σ N (Option Obj) := do
  let object ← act engine.newObj
  emit (.newObj object)
  return object

def newText (engine : Engine σ) (text : String) : Call σ N Obj := do
  let bytes := Text.encode text
  let object ← act (engine.newString bytes)
  emit (.newString object bytes)
  return object

def increment (engine : Engine σ) (object : Obj) : Call σ N Unit := do
  change (engine.increment object)
  emit (.increment object)

def decrement (engine : Engine σ) (object : Obj) : Call σ N Unit := do
  change (engine.decrement object)
  emit (.decrement object)

def append (engine : Engine σ) (interp : InterpId) (list : Option Obj) (element : Obj) :
    Call σ N Int := do
  let code ← act (engine.append interp list element)
  emit (.append list element code)
  return code

def elements (engine : Engine σ) (interp : InterpId) (list : Obj) :
    Call σ N (Option (List Obj)) := do
  let elements ← act (engine.elements interp list)
  emit (.elements list (elements.map Elements.found))
  return elements.map Elements.items

def text (engine : Engine σ) (object : Option Obj) : Call σ N String := do
  let bytes ← act (engine.bytes object)
  emit (.bytes object)
  return Text.decode bytes

def result (engine : Engine σ) (interp : InterpId) : Call σ N String := do
  let object ← act (engine.result interp)
  emit (.result object)
  match object with
  | none => return ""
  | some object => text engine (some object)

/-- Makes the text the interpreter's result. The library takes over the object, which has no
reference yet. -/
def setResult (engine : Engine σ) (interp : InterpId) (text : String) : Call σ N Unit := do
  let object ← newText engine text
  change (engine.setResult interp object)
  emit (.setResult object)

def withReference (engine : Engine σ) (object : Option Obj) (body : Call σ N α) : Call σ N α := do
  match object with
  | none => body
  | some object =>
      increment engine object
      let answer ← body
      decrement engine object
      return answer

/-! Lists. Quoting is left to the library, so a list reads back as its own parser expects. -/

def quoteList (engine : Engine σ) (interp : InterpId) (words : List String) : Call σ N String := do
  let list ← newObj engine
  withReference engine list do
    words.forM fun word => do
      let element ← newText engine word
      withReference engine (some element) (discard (append engine interp list element))
    text engine list

def splitList (engine : Engine σ) (interp : InterpId) (list : String) :
    Call σ N (Option (List String)) := do
  let object ← newText engine list
  withReference engine (some object) do
    match ← elements engine interp object with
    | none => return none
    | some items =>
        return some (← items.mapM fun item =>
          withReference engine (some item) (text engine (some item)))

end Call

end TclHost
