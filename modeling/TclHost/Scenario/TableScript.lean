import TclHost.CommandTable.Task
import TclHost.Scenario.Handler

/-!
Scripted work on a command table.
-/

namespace TclHost.Scenario

inductive TableAction (Step : Type) where
  | insert (name : String) (handler : Handler Step)
  | erase (name : String)
  | contains (name : String)
  | names
  | setReceiver (receiver : Option (Handler Step))
  /-- Routes the words, and after them the handler's own arguments from an index on. -/
  | receive (words : List String) (pass : Option Nat)
  | unknown

inductive TableStep where
  | step (strict : Bool) (action : TableAction TableStep)

instance : Inhabited TableStep := ⟨.step false .unknown⟩

abbrev TableHandler := Handler TableStep

def TableStep.isStrict : TableStep → Bool
  | .step strict _ => strict

inductive TableNote where
  | called (label : Option String) (arguments : List String)
  | took (result : Except Fault Shown)

abbrev TableWork (α : Type) := TableTask TableHandler TableNote α

def TableStep.take (arguments : List String) : TableStep → TableWork (Except Fault Shown)
  | .step _ (.insert name handler) => do
      let existed : Bool ← TableTask.ask (.insert name handler)
      return .ok (.truth existed)
  | .step _ (.erase name) => do
      let existed : Bool ← TableTask.ask (.erase name)
      return .ok (.truth existed)
  | .step _ (.contains name) => do
      let present : Bool ← TableTask.ask (.contains name)
      return .ok (.truth present)
  | .step _ .names => do
      let names : List String ← TableTask.ask .names
      return .ok (.texts names)
  | .step _ (.setReceiver receiver) => do
      TableTask.ask (.setReceiver receiver)
      return .ok .nothing
  | .step _ (.receive words pass) => do
      let passed := match pass with
        | some index => arguments.drop index
        | none => []
      let result : Except CommandError String ← TableTask.ask (.receive (words ++ passed))
      match result with
      | .ok text => return .ok (.text text)
      | .error cause => return .error (.command cause)
  | .step _ .unknown => return .error .badStep

def tableOutcome (ending : Ending) (arguments : List String)
    (last : Option (Except Fault Shown)) : Outcome :=
  match ending with
  | .value text => .value text
  | .join separator => .value (String.intercalate separator arguments)
  | .fail message => .error (.failed message)
  | .exit status => .error (.exit status)
  | .panic message => .panic message
  | .quoteArguments | .last => lastOutcome last

def tableSteps (ending : Ending) (arguments : List String) :
    Option (Except Fault Shown) → List TableStep → TableWork Outcome
  | last, [] => return tableOutcome ending arguments last
  | _, step :: rest => do
      let result ← step.take arguments
      TableTask.ask (.note (.took result))
      match result, step.isStrict with
      | .error fault, true => return .error fault.toCommandError
      | result, _ => tableSteps ending arguments (some result) rest

def tableBehaviour (handler : TableHandler) (arguments : List String) : TableWork Outcome := do
  TableTask.ask (.note (.called handler.label arguments))
  tableSteps handler.ending arguments none handler.steps

structure TableReport where
  result : Except TableHalt (Except Fault Shown)
  notes : List TableNote

def runTable (fuel : Nat) : List TableStep → TableState TableHandler TableNote → List TableReport
  | [], _ => []
  | step :: rest, state =>
      match (step.take []).run (TableTask.answer tableBehaviour fuel) state with
      | .ok result state =>
          ⟨.ok result, state.notes.toList⟩ :: runTable fuel rest { state with notes := #[] }
      | .error halt state =>
          ⟨.error halt, state.notes.toList⟩ :: runTable fuel rest { state with notes := #[] }

end TclHost.Scenario
