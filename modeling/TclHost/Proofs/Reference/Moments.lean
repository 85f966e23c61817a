import TclHost.Reference

/-!
The run of a plan moment by moment, with the bodies that are under way. What is recorded at these
moments is what the plan records when it is run.
-/

namespace TclHost.Reference

/-- What holds of a plan if it holds of its parts holds of every plan. -/
@[elab_as_elim, induction_eliminator]
theorem Plan.induct {motive : Plan → Prop}
    (node : ∀ address refusing body ending strict, (∀ part ∈ body, motive part) →
      motive (.node address refusing body ending strict)) (plan : Plan) : motive plan :=
  match plan with
  | .node address refusing body ending strict =>
      node address refusing body ending strict fun part _ => Plan.induct node part
termination_by plan
decreasing_by
  have smaller := List.sizeOf_lt_of_mem ‹part ∈ body›
  simp only [Plan.node.sizeOf_spec]
  omega

/-- Something is recorded while these bodies are under way, the innermost first, or the innermost
of them panics. -/
structure Moment where
  running : List Address
  event? : Option Event
  deriving DecidableEq, Repr

def recorded (moments : List Moment) : List Event :=
  moments.filterMap Moment.event?

@[simp] theorem recorded_nil : recorded [] = [] := rfl

@[simp] theorem recorded_append (before after : List Moment) :
    recorded (before ++ after) = recorded before ++ recorded after :=
  List.filterMap_append

@[simp] theorem recorded_event (running : List Address) (event : Event) (rest : List Moment) :
    recorded (⟨running, some event⟩ :: rest) = event :: recorded rest := rfl

def watched (running : List Address) (address : Address) (inner : List Moment) : List Moment :=
  if address = 0 then inner
  else ⟨running, some (.increment address)⟩ :: inner ++ [⟨running, some (.decrement address)⟩]

theorem recorded_watched (running : List Address) (address : Address) (inner : List Moment) :
    recorded (watched running address inner) = guarded address (recorded inner) := by
  unfold watched guarded
  split
  · rfl
  · simp

def Ending.moments (running : List Address) : Ending → List Moment
  | .panic => [⟨running, none⟩]
  | _ => []

theorem recorded_moments (running : List Address) (ending : Ending) :
    recorded (ending.moments running) = [] := by
  cases ending <;> rfl

mutual

def Plan.trace (running : List Address) : Plan → List Moment × Result
  | .node address refusing body ending _ =>
      if refusing && address = 0 then ([⟨running, some .refuse⟩], .finished)
      else
        let within := address :: running
        let (moments, result) := Plan.traceParts within address ending body
        (watched running address (⟨within, some (.enter address)⟩ :: moments), result)

def Plan.traceParts (running : List Address) (address : Address) (ending : Ending) :
    List Plan → List Moment × Result
  | [] => (ending.moments running, ending.result address)
  | part :: rest =>
      match part.trace running with
      | (moments, .panicked origin) => (moments, .panicked origin)
      | (moments, .failed origin) =>
          if part.isStrict then (moments, .failed origin)
          else
            let (later, result) := Plan.traceParts running address ending rest
            (moments ++ later, result)
      | (moments, .finished) =>
          let (later, result) := Plan.traceParts running address ending rest
          (moments ++ later, result)

end

def Plan.moments (plan : Plan) : List Moment :=
  (plan.trace []).1

/-- A part either ends the body, or the rest of the body follows and decides the result. -/
theorem Plan.traceParts_cons (running : List Address) (address : Address) (ending : Ending)
    (part : Plan) (rest : List Plan) :
    Plan.traceParts running address ending (part :: rest) = part.trace running ∨
      (∀ origin, (part.trace running).2 ≠ .panicked origin) ∧
        Plan.traceParts running address ending (part :: rest) =
          ((part.trace running).1 ++ (Plan.traceParts running address ending rest).1,
            (Plan.traceParts running address ending rest).2) := by
  rw [Plan.traceParts]
  obtain ⟨moments, result⟩ := part.trace running
  cases result with
  | panicked origin => exact .inl rfl
  | failed origin =>
      dsimp only
      split
      · exact .inl rfl
      · exact .inr ⟨by simp, rfl⟩
  | finished => exact .inr ⟨by simp, rfl⟩

def Tells (traced : List Moment × Result) (run : List Event × Result) : Prop :=
  (recorded traced.1, traced.2) = run

theorem tells_traceParts {running : List Address} {parts : List Plan}
    (each : ∀ part ∈ parts, Tells (part.trace running) part.run) (address : Address)
    (ending : Ending) :
    Tells (Plan.traceParts running address ending parts) (Plan.runParts address ending parts) := by
  induction parts with
  | nil => simp [Tells, Plan.traceParts, Plan.runParts, recorded_moments]
  | cons part rest ih =>
      have first := each part List.mem_cons_self
      have others := ih fun other member => each other (List.mem_cons_of_mem part member)
      rw [Plan.traceParts, Plan.runParts, ← first, ← others]
      obtain ⟨moments, result⟩ := part.trace running
      cases result with
      | panicked origin => rfl
      | failed origin =>
          dsimp only
          split
          · rfl
          · simp [Tells]
      | finished => simp [Tells]

theorem Plan.tells_trace (plan : Plan) (running : List Address) :
    Tells (plan.trace running) plan.run := by
  induction plan generalizing running with
  | node address refusing body ending strict ih =>
      have parts := tells_traceParts (fun part member => ih part member (address :: running))
        address ending
      rw [Plan.trace, Plan.run, ← parts]
      split
      · rfl
      · simp [Tells, recorded_watched]

end TclHost.Reference
