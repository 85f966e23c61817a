/-!
The foreign interpreter library, as the host sees it: a record of functions over a state of its
own. Three of them may call back into the host before they return.
-/

namespace TclHost

/-- An interpreter, by its place among all that were ever asked for. -/
abbrev InterpId := Nat

structure Obj where
  id : Nat
  deriving DecidableEq, Repr, Inhabited

/-- What the library does once it is entered: it returns with a code, or it first runs the host's
command with some words and goes on with the code that the host answers. -/
inductive Reaction (σ : Type) where
  | finished (code : Int) (store : σ)
  | callback (interp : InterpId) (words : List Obj) (store : σ) (resume : Int → σ → Reaction σ)

structure Elements where
  found : Nat
  items : List Obj
  deriving DecidableEq, Repr, Inhabited

/-- The functions of the library. `none` stands for null among the objects. -/
structure Engine (σ : Type) where
  create : InterpId → σ → Bool × σ
  init : InterpId → σ → Int × σ
  preserve : InterpId → σ → σ
  release : InterpId → σ → σ
  createCommand : InterpId → String → σ → σ
  evaluate : InterpId → List UInt8 → σ → Reaction σ
  makeSafe : InterpId → σ → Reaction σ
  delete : InterpId → σ → Reaction σ
  newObj : σ → Option Obj × σ
  newString : List UInt8 → σ → Obj × σ
  increment : Obj → σ → σ
  decrement : Obj → σ → σ
  append : InterpId → Option Obj → Obj → σ → Int × σ
  elements : InterpId → Obj → σ → Option Elements × σ
  bytes : Option Obj → σ → List UInt8 × σ
  result : InterpId → σ → Option Obj × σ
  setResult : InterpId → Obj → σ → σ

end TclHost
