import TclHost.Proofs.Run.Alike

/-!
Where calls go. A handler is run for the session whose interpreter called, if the commands of that
session name it; what it does anywhere else, or would do, is of no account.
-/

namespace TclHost

open World

variable {σ H N α : Type}

theorem Reaction.mirrors_self (reaction : Reaction σ) : reaction.Mirrors id reaction := by
  induction reaction with
  | finished code store => exact ⟨rfl, rfl⟩
  | callback interp words store resume ih => exact ⟨rfl, rfl, rfl, ih⟩

theorem Engine.mirrors_self (engine : Engine σ) : engine.Mirrors id engine := by
  constructor <;> intros <;> first | rfl | exact Reaction.mirrors_self _

def Setup.withHandlers (setup : Setup σ H N) (behave : H → SessionId → List String → Host H N Outcome) :
    Setup σ H N :=
  { setup with behave }

namespace Host

variable (setup : Setup σ H N) (fuel : Nat) (program : Host H N α) (store : σ) (library : Library)
  {behave : H → SessionId → List String → Host H N Outcome}

/-- Handlers may be replaced by others that do the same for the calls that are routed to them. -/
theorem run_withHandlers
    (same : ∀ count session handler arguments,
      ((Host.run setup fuel program).after count (start store library)).Routes session handler
        arguments → behave handler session arguments = setup.behave handler session arguments) :
    (∀ count, (Host.run (setup.withHandlers behave) fuel program).after count (start store library) =
      (Host.run setup fuel program).after count (start store library)) ∧
    (Host.run (setup.withHandlers behave) fuel program).exec (start store library) =
      (Host.run setup fuel program).exec (start store library) := by
  have mirrors : setup.Mirrors (fun world => ∀ session handler arguments,
      world.Routes session handler arguments →
        behave handler session arguments = setup.behave handler session arguments) id
      (setup.withHandlers behave) :=
    ⟨setup.engine.mirrors_self, fun _ session handler arguments granted => granted session handler
      arguments, rfl, rfl, rfl⟩
  have alike := Host.mirrors_run mirrors fuel program (start store library)
  constructor
  · exact alike.after same
  · have ends := alike.exec same
    rw [show (start store library : World σ H N).through id = start store library from rfl] at ends
    rw [ends]
    cases (Host.run setup fuel program).exec (start store library) <;> rfl

end Host

end TclHost
