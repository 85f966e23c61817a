/-!
Processes that act on a state one step at a time. A process is kept as the tree of its steps, so
that the states on the way can be spoken of and not the last one only.
-/

namespace TclHost

inductive Process (S E α : Type) where
  | done (result : α)
  /-- Ends for good; `last` is the final change of the state. -/
  | halt (cause : E) (last : S → S)
  | step {β : Type} (act : S → β × S) (next : β → Process S E α)

namespace Process

variable {S E α β : Type}

def andThen (process : Process S E α) (next : α → Process S E β) : Process S E β :=
  match process with
  | done result => next result
  | halt cause last => halt cause last
  | step act rest => step act fun answer => (rest answer).andThen next

instance : Monad (Process S E) where
  pure := done
  bind := andThen

instance : MonadStateOf S (Process S E) where
  get := step (fun state => (state, state)) done
  set state := step (fun _ => (⟨⟩, state)) done
  modifyGet act := step act done

def exec : Process S E α → S → EStateM.Result E S α
  | done result, state => .ok result state
  | halt cause last, state => .error cause (last state)
  | step act next, state => (next (act state).1).exec (act state).2

/-- The state after so many steps. A process that has ended makes no further step. -/
def after : Nat → Process S E α → S → S
  | count + 1, step act next, state => after count (next (act state).1) (act state).2
  | _, _, state => state

def finalState : EStateM.Result E S α → S
  | .ok _ state | .error _ state => state

def cause? : EStateM.Result E S α → Option E
  | .ok _ _ => none
  | .error cause _ => some cause

theorem cause?_eq_some_iff {outcome : EStateM.Result E S α} {cause : E} :
    cause? outcome = some cause ↔ ∃ final, outcome = .error cause final := by
  cases outcome <;> simp [cause?]

@[simp] theorem pure_eq_done (result : α) : (pure result : Process S E α) = done result := rfl

@[simp] theorem done_bind (result : α) (next : α → Process S E β) :
    done result >>= next = next result := rfl

instance : LawfulMonad (Process S E) := LawfulMonad.mk' _
  (fun process => by
    induction process with
    | done result => rfl
    | halt cause last => rfl
    | step act next ih => exact congrArg (step act) (funext ih))
  (fun _ _ => rfl)
  (fun process first second => by
    induction process with
    | done result => rfl
    | halt cause last => rfl
    | step act next ih => exact congrArg (step act) (funext ih))

end Process

end TclHost
