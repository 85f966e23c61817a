import TclHost.Proofs.Script.Handed

/-!
Two runs side by side, each on a library of its own. Programs agree if from all worlds that are
related they end alike, in worlds that are related again, and hand over the same scripts. Agreement
is put together from the agreement of the parts.
-/

namespace TclHost

variable {σ τ H N α β γ δ : Type}

structure TwoRuns (σ τ H N : Type) where
  first : Setup σ H N
  second : Setup τ H N
  firstFuel : Nat
  secondFuel : Nat
  related : World σ H N → World τ H N → Prop

namespace TwoRuns

def EndsAlike (runs : TwoRuns σ τ H N) (same : α → β → Prop) :
    EStateM.Result Halt (World σ H N) α → EStateM.Result Halt (World τ H N) β → Prop
  | .ok result world, .ok other otherWorld => same result other ∧ runs.related world otherWorld
  | .error cause _, .error otherCause _ => cause = otherCause
  | _, _ => False

def scripts (handed : List (SessionId × String)) : List String :=
  handed.map Prod.snd

def Agree (runs : TwoRuns σ τ H N) (same : α → β → Prop) (program : Host H N α)
    (other : Host H N β) : Prop :=
  ∀ world otherWorld, runs.related world otherWorld →
    runs.EndsAlike same ((Host.run runs.first runs.firstFuel program).exec world)
      ((Host.run runs.second runs.secondFuel other).exec otherWorld) ∧
    scripts (Host.handed runs.first runs.firstFuel program world) =
      scripts (Host.handed runs.second runs.secondFuel other otherWorld)

end TwoRuns

namespace Host

theorem exec_run_bind (setup : Setup σ H N) (fuel : Nat) (program : Host H N α)
    (next : α → Host H N β) (world : World σ H N) :
    (Host.run setup fuel (program >>= next)).exec world =
      match (Host.run setup fuel program).exec world with
      | .ok result later => (Host.run setup fuel (next result)).exec later
      | .error cause final => .error cause final := by
  unfold Host.run
  rw [Program.run_bind, Process.exec_bind]
  cases (Program.run (Run.perform setup (Run.dispatch setup fuel)) program).exec world <;> rfl

theorem handed_bind (setup : Setup σ H N) (fuel : Nat) (program : Host H N α)
    (next : α → Host H N β) (world : World σ H N) :
    handed setup fuel (program >>= next) world = handed setup fuel program world ++
      match (Host.run setup fuel program).exec world with
      | .ok result later => handed setup fuel (next result) later
      | .error _ _ => [] := by
  induction program generalizing world with
  | done result => rfl
  | ask request rest ih =>
      rw [Program.ask_bind, handed, handed, exec_run_ask, List.append_assoc]
      cases (Run.perform setup (Run.dispatch setup fuel) request).exec world with
      | ok answer later => exact congrArg _ (ih answer later)
      | error cause final => rfl

end Host

namespace TwoRuns

variable {runs : TwoRuns σ τ H N} {same : α → β → Prop} {after : γ → δ → Prop}

theorem agree_done {result : α} {other : β} (alike : same result other) :
    runs.Agree same (.done result) (.done other) :=
  fun _ _ related => ⟨⟨alike, related⟩, rfl⟩

theorem Agree.bind {program : Host H N α} {other : Host H N β} {next : α → Host H N γ}
    {otherNext : β → Host H N δ} (agree : runs.Agree same program other)
    (rest : ∀ result otherResult, same result otherResult →
      runs.Agree after (next result) (otherNext otherResult)) :
    runs.Agree after (program >>= next) (other >>= otherNext) := by
  intro world otherWorld related
  obtain ⟨ends, handed⟩ := agree world otherWorld related
  rw [Host.exec_run_bind, Host.exec_run_bind, Host.handed_bind, Host.handed_bind]
  generalize (Host.run runs.first runs.firstFuel program).exec world = ending at ends ⊢
  generalize (Host.run runs.second runs.secondFuel other).exec otherWorld = otherEnding at ends ⊢
  rw [scripts, scripts, List.map_append, List.map_append]
  unfold scripts at handed
  cases ending with
  | ok result later =>
      cases otherEnding with
      | ok otherResult otherLater =>
          obtain ⟨alike, relatedLater⟩ := ends
          obtain ⟨endsLater, handedLater⟩ :=
            rest result otherResult alike later otherLater relatedLater
          exact ⟨endsLater, congrArg₂ _ handed handedLater⟩
      | error => cases ends
  | error cause final =>
      cases otherEnding with
      | ok => cases ends
      | error => exact ⟨ends, congrArg₂ _ handed rfl⟩

theorem Agree.mono {other : Host H N β} {program : Host H N α} {weaker : α → β → Prop}
    (agree : runs.Agree same program other)
    (implies : ∀ result otherResult, same result otherResult → weaker result otherResult) :
    runs.Agree weaker program other := by
  intro world otherWorld related
  obtain ⟨ends, handed⟩ := agree world otherWorld related
  refine ⟨?_, handed⟩
  generalize (Host.run runs.first runs.firstFuel program).exec world = ending at ends ⊢
  generalize (Host.run runs.second runs.secondFuel other).exec otherWorld = otherEnding at ends ⊢
  cases ending <;> cases otherEnding
  · exact ⟨implies _ _ ends.1, ends.2⟩
  · exact ends
  · exact ends
  · exact ends

theorem agree_question (request otherRequest : Request H N)
    {same : request.Answer → otherRequest.Answer → Prop}
    (performed : ∀ world otherWorld, runs.related world otherWorld → runs.EndsAlike same
      ((Run.perform runs.first (Run.dispatch runs.first runs.firstFuel) request).exec world)
      ((Run.perform runs.second (Run.dispatch runs.second runs.secondFuel) otherRequest).exec
        otherWorld))
    (handed : ∀ world otherWorld, runs.related world otherWorld →
      scripts (request.script?.filter fun script => world.usable script.1).toList =
        scripts (otherRequest.script?.filter fun script => otherWorld.usable script.1).toList) :
    runs.Agree same (Program.question request) (Program.question otherRequest) := by
  intro world otherWorld related
  have asked {υ : Type} (setup : Setup υ H N) (fuel : Nat) (given : Request H N) :
      Host.run setup fuel (Program.question given) =
        Run.perform setup (Run.dispatch setup fuel) given := bind_pure _
  have once {υ : Type} (setup : Setup υ H N) (fuel : Nat) (given : Request H N)
      (before : World υ H N) : Host.handed setup fuel (Program.question given) before =
        (given.script?.filter fun script => before.usable script.1).toList := by
    rw [Program.question, Host.handed]
    split <;> simp [Host.handed]
  rw [asked, asked, once, once]
  exact ⟨performed world otherWorld related, handed world otherWorld related⟩

/-! Attempts, which may fail on both sides with the same error. -/

inductive Both (same : α → β → Prop) : Except Error α → Except Error β → Prop where
  | ok {result : α} {other : β} (alike : same result other) : Both same (.ok result) (.ok other)
  | error (cause : Error) : Both same (.error cause) (.error cause)

def AgreeTrying (runs : TwoRuns σ τ H N) (same : α → β → Prop) (attempt : Attempt H N α)
    (other : Attempt H N β) : Prop :=
  runs.Agree (Both same) attempt.run other.run

theorem trying_pure {result : α} {other : β} (alike : same result other) :
    runs.AgreeTrying same (pure result) (pure other) :=
  agree_done (.ok alike)

theorem AgreeTrying.bind {attempt : Attempt H N α} {other : Attempt H N β}
    {next : α → Attempt H N γ} {otherNext : β → Attempt H N δ}
    (agree : runs.AgreeTrying same attempt other)
    (rest : ∀ result otherResult, same result otherResult →
      runs.AgreeTrying after (next result) (otherNext otherResult)) :
    runs.AgreeTrying after (attempt >>= next) (other >>= otherNext) := by
  unfold AgreeTrying
  rw [ExceptT.run_bind, ExceptT.run_bind]
  refine Agree.bind agree fun outcome otherOutcome both => ?_
  cases both with
  | ok alike => exact rest _ _ alike
  | error cause => exact agree_done (.error cause)

theorem Agree.lift {program : Host H N α} {other : Host H N β}
    (agree : runs.Agree same program other) :
    runs.AgreeTrying same (ExceptT.lift program) (ExceptT.lift other) :=
  Agree.bind agree fun _ _ alike => agree_done (.ok alike)

end TwoRuns

end TclHost
