import TclHost.Scripted.Store
import TclHost.Text.Modified

/-!
A library whose every reply is written down beforehand. It evaluates nothing: a script is looked up
among the rules, the calls of the reply that is due are made, and its result and code are returned.
-/

namespace TclHost.Scripted

/-- A call of the host's command: the words after the command itself, or no words at all. A failed
call ends the evaluation unless it is caught. -/
structure Action where
  words : Option (List (List UInt8))
  caught : Bool := false
  deriving Repr

structure Response where
  actions : List Action := []
  result : Option (List UInt8) := none
  code : Int := 0
  deriving Repr, Inhabited

structure Role where
  granted : Bool := true
  init : Response := {}
  makeSafe : Response := {}
  /-- The responses to a script in turn, the last one being repeated. -/
  rules : List (String × List Response) := []
  other : Response := {}
  /-- Which appends are refused, counted from zero. -/
  refused : List Nat := []
  hidesResult : Bool := false
  /-- Whether the elements of a list are counted but not handed out. -/
  hidesElements : Bool := false
  onDelete : List Action := []
  deriving Inhabited

structure Interp where
  result : Option Obj := none
  registered : Bool := false
  appends : Nat := 0
  evaluations : List (String × Nat) := []
  deriving Inhabited

structure State where
  objects : Store := {}
  interps : Std.TreeMap InterpId Interp := ∅
  deriving Inhabited

namespace State

def interp (state : State) (id : InterpId) : Interp :=
  state.interps[id]?.getD {}

def setInterp (state : State) (id : InterpId) (interp : Interp) : State :=
  { state with interps := state.interps.insert id interp }

def setResult (state : State) (id : InterpId) (object : Obj) : State :=
  let interp := state.interp id
  let objects := (state.objects.increment object).decrementAll interp.result.toList
  { state with objects }.setInterp id { interp with result := some object }

def setResultText (state : State) (id : InterpId) (bytes : List UInt8) : State :=
  let (object, objects) := state.objects.allocate { text := some bytes }
  { state with objects }.setResult id object

def setResultText? (state : State) (id : InterpId) (bytes : Option (List UInt8)) : State :=
  match bytes with
  | none => state
  | some bytes => state.setResultText id bytes

end State

def countEvaluation (script : String) : List (String × Nat) → Nat × List (String × Nat)
  | [] => (0, [(script, 1)])
  | (other, count) :: rest =>
      if other = script then (count, (other, count + 1) :: rest)
      else
        let (earlier, rest) := countEvaluation script rest
        (earlier, (other, count) :: rest)

def responseAt (responses : List Response) (number : Nat) : Option Response :=
  responses[number]? <|> responses.getLast?

def Role.response (role : Role) (script : String) (number : Nat) : Response :=
  match role.rules.lookup script with
  | none => role.other
  | some responses => (responseAt responses number).getD role.other

def perform (id : InterpId) (finish : Bool → State → Reaction State) :
    List Action → State → Reaction State
  | [], state => finish true state
  | action :: rest, state =>
      if !(state.interp id).registered then perform id finish rest state
      else
        let words := match action.words with
          | none => []
          | some words => "interp_send".toUTF8.toList :: words
        let (objects, store) := state.objects.allocateAll words
        .callback id objects { state with objects := store } fun code state =>
          let state := { state with objects := state.objects.decrementAll objects }
          if code ≠ 0 && !action.caught then finish false state
          else perform id finish rest state

def evaluate (role : Role) (id : InterpId) (bytes : List UInt8) (state : State) :
    Reaction State :=
  let script := (Text.readable? bytes).getD ""
  let state := state.setResultText id []
  let interp := state.interp id
  let (number, evaluations) := countEvaluation script interp.evaluations
  let response := role.response script number
  perform id
    (fun succeeded state =>
      if succeeded then .finished response.code (state.setResultText? id response.result)
      else .finished 1 state)
    response.actions (state.setInterp id { interp with evaluations })

def append (role : Role) (id : InterpId) (list : Option Obj) (element : Obj) (state : State) :
    Int × State :=
  let interp := state.interp id
  let counted := state.setInterp id { interp with appends := interp.appends + 1 }
  match list with
  | none => (1, counted)
  | some list =>
      if role.refused.contains interp.appends then (1, counted)
      else (0, { counted with objects := counted.objects.append list element })

def elements (role : Role) (id : InterpId) (list : Obj) (state : State) :
    Option Elements × State :=
  match state.objects.split? list with
  | some (items, objects) =>
      let handedOut := if role.hidesElements then [] else items
      (some ⟨items.length, handedOut⟩, { state with objects })
  | none => (none, state.setResultText id "malformed list".toUTF8.toList)

def release (id : InterpId) (state : State) : State :=
  { objects := state.objects.decrementAll (state.interp id).result.toList,
    interps := state.interps.erase id }

/-- The library in which each interpreter plays the role of its number. `noLists` makes it hand out
null instead of new objects. -/
def engine (roles : InterpId → Role) (noLists : Bool) : Engine State where
  create id state :=
    if (roles id).granted then (true, (state.setInterp id {}).setResultText id [])
    else (false, state)
  init id state := ((roles id).init.code, state.setResultText? id (roles id).init.result)
  preserve _ state := state
  release := release
  createCommand id _ state := state.setInterp id { state.interp id with registered := true }
  evaluate id := evaluate (roles id) id
  makeSafe id state :=
    .finished (roles id).makeSafe.code (state.setResultText? id (roles id).makeSafe.result)
  delete id := perform id (fun _ state => .finished 0 state) (roles id).onDelete
  newObj state :=
    if noLists then (none, state)
    else
      let (object, objects) := state.objects.allocate { text := none }
      (some object, { state with objects })
  newString bytes state :=
    let (object, objects) := state.objects.allocate { text := some bytes }
    (object, { state with objects })
  increment object state := { state with objects := state.objects.increment object }
  decrement object state := { state with objects := state.objects.decrement object }
  append id := append (roles id) id
  elements id := elements (roles id) id
  bytes object state := ((object.map state.objects.bytes).getD [], state)
  result id state := (if (roles id).hidesResult then none else (state.interp id).result, state)
  setResult id object state := state.setResult id object

def State.live (state : State) : Nat :=
  state.objects.cells.size

end TclHost.Scripted
