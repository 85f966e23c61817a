import TclHost.Scenario.Shown

/-!
Handlers written down as data: the steps they take and how they end.
-/

namespace TclHost.Scenario

inductive Ending where
  /-- The arguments, quoted as a list by the session. -/
  | quoteArguments
  | value (text : String)
  | join (separator : String)
  | fail (message : String)
  | exit (status : Int)
  | panic (message : Option String)
  | last
  deriving DecidableEq, Repr

structure Handler (Step : Type) where
  label : Option String
  steps : List Step
  ending : Ending

instance {Step : Type} : Inhabited (Handler Step) := ⟨⟨none, [], .last⟩⟩

inductive Fault where
  | error (cause : Error)
  | command (cause : CommandError)
  | noHandle
  | badStep
  deriving DecidableEq, Repr

def Fault.toCommandError : Fault → CommandError
  | .error cause => .ofError cause
  | .command cause => cause
  | .noHandle => .failed "NoHandle"
  | .badStep => .failed "BadStep"

def lastOutcome : Option (Except Fault Shown) → Outcome
  | none => .value ""
  | some (.ok value) => .value value.compact
  | some (.error fault) => .error fault.toCommandError

end TclHost.Scenario
