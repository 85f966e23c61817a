/-!
Reference guards. A guard counts one reference on an object while its body runs and gives it back
however the body is left. Null is never counted.
-/

namespace TclHost.Reference

/-- The address of a foreign object; zero is null. -/
abbrev Address := Nat

inductive Ending where
  | finish
  | fail
  | panic
  deriving DecidableEq, Repr

/-- Nested guards. A refusing guard runs no body on null, a tolerant one runs it unguarded. The
errors of a part count only if the part is strict; a panic always does. -/
inductive Plan where
  | node (address : Address) (refusing : Bool) (body : List Plan) (ending : Ending) (strict : Bool)

instance : Inhabited Plan := ⟨.node 0 false [] .finish false⟩

def Plan.isStrict : Plan → Bool
  | .node _ _ _ _ strict => strict

inductive Event where
  | increment (address : Address)
  | decrement (address : Address)
  | enter (address : Address)
  | refuse
  deriving DecidableEq, Repr

inductive Result where
  | finished
  | failed (address : Address)
  | panicked (address : Address)
  deriving DecidableEq, Repr

def Ending.result (address : Address) : Ending → Result
  | .finish => .finished
  | .fail => .failed address
  | .panic => .panicked address

def Result.message : Result → String
  | .finished => "ok"
  | .failed address => "err " ++ toString address
  | .panicked address => "panic " ++ toString address

def guarded (address : Address) (inner : List Event) : List Event :=
  if address = 0 then inner else .increment address :: inner ++ [.decrement address]

mutual

def Plan.run : Plan → List Event × Result
  | .node address refusing body ending _ =>
      if refusing && address = 0 then ([.refuse], .finished)
      else
        let (events, result) := runParts address ending body
        (guarded address (.enter address :: events), result)

def Plan.runParts (address : Address) (ending : Ending) : List Plan → List Event × Result
  | [] => ([], ending.result address)
  | part :: rest =>
      match part.run with
      | (events, .panicked origin) => (events, .panicked origin)
      | (events, .failed origin) =>
          if part.isStrict then (events, .failed origin)
          else
            let (later, result) := runParts address ending rest
            (events ++ later, result)
      | (events, .finished) =>
          let (later, result) := runParts address ending rest
          (events ++ later, result)

end

end TclHost.Reference
