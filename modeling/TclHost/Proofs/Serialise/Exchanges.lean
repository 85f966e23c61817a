import TclHost.Proofs.Run.Lasting
import TclHost.Proofs.Run.Orderly
import TclHost.Proofs.Serialise.Agreement

/-!
What a program asks and what it is told. A program is a function of the answers it is given, so
whatever is shown for all answers holds in every run, whoever gives them.
-/

namespace TclHost

variable {σ H N α β : Type}

abbrev Exchange (H N : Type) : Type :=
  (request : Request H N) × request.Answer

namespace Host

/-- What the program asks and is told, one exchange after the other, when it is run in this world.
What programs that answer callbacks ask meanwhile is not among it. -/
def exchanges (setup : Setup σ H N) (fuel : Nat) :
    Host H N α → World σ H N → List (Exchange H N)
  | .done _, _ => []
  | .ask request next, world =>
      match (Run.perform setup (Run.dispatch setup fuel) request).exec world with
      | .ok answer later => ⟨request, answer⟩ :: exchanges setup fuel (next answer) later
      | .error _ _ => []

/-- Told these answers, the program asks these requests and comes to this result. -/
inductive Converses : Host H N α → List (Exchange H N) → α → Prop
  | done (result : α) : Converses (.done result) [] result
  | ask {request : Request H N} {next : request.Answer → Host H N α} {log : List (Exchange H N)}
      {result : α} (answer : request.Answer) (rest : Converses (next answer) log result) :
      Converses (.ask request next) (⟨request, answer⟩ :: log) result

theorem converses_of_exec {setup : Setup σ H N} {fuel : Nat} {program : Host H N α}
    {world final : World σ H N} {result : α}
    (returned : (Host.run setup fuel program).exec world = .ok result final) :
    Converses program (exchanges setup fuel program world) result := by
  induction program generalizing world with
  | done value =>
      cases returned
      exact .done _
  | ask request next ih =>
      obtain ⟨answer, later, performed, rest⟩ := exec_ask_ok.mp returned
      rw [exchanges, performed]
      exact .ask answer (ih answer rest)

theorem Converses.of_bind {program : Host H N α} {next : α → Host H N β}
    {log : List (Exchange H N)} {result : β} (converses : Converses (program >>= next) log result) :
    ∃ first rest middle, log = first ++ rest ∧ Converses program first middle ∧
      Converses (next middle) rest result := by
  induction program generalizing log with
  | done value => exact ⟨[], log, value, rfl, .done value, converses⟩
  | ask request others ih =>
      cases converses with
      | ask answer onward =>
          obtain ⟨first, rest, middle, rfl, before, after⟩ := ih answer onward
          exact ⟨⟨request, answer⟩ :: first, rest, middle, rfl, .ask answer before, after⟩

theorem Converses.of_question {request : Request H N} {log : List (Exchange H N)}
    {answer : request.Answer} (converses : Converses (Program.question request) log answer) :
    log = [⟨request, answer⟩] := by
  cases converses with
  | ask told rest =>
      cases rest
      rfl

end Host

/-! What a session found built in when it was made ready, it goes by from then on. -/

theorem Session.keeps_builtins (session : SessionId) (builtins : Option Builtins) :
    Session.Keeps session (fun _ : Event N => True)
      (fun state : Session H => state.builtins = builtins) := by
  intro record entries state next change settled _ same
  cases change with
  | answer outcome =>
      unfold Session.answer
      split <;> exact same
  | complete code =>
      rcases Session.settle_eq_or state state.depth (Completion.ofCode code) with kept | ⟨_, kept⟩
      · rw [kept]
        exact same
      · rw [kept]
        exact same
  | snapshot builtins fresh => exact absurd fresh settled
  | begin | leave | ready | restrict | commands => exact same

theorem World.Lasts.builtins {world later : World σ H N} {session : SessionId}
    {builtins : Option Builtins}
    (lasts : world.Lasts session fun state => state.builtins = builtins) (sound : world.Sound)
    (reached : World.rules.Reaches world later) :
    later.Lasts session fun state => state.builtins = builtins := by
  obtain ⟨entries, grown⟩ := World.record_of_reaches reached
  exact lasts.reaches (Session.keeps_builtins session builtins) sound reached grown
    fun _ _ => trivial

def Exchange.Shows (session : SessionId) (builtins : Option Builtins) : Exchange H N → Prop
  | ⟨.inspect other, state⟩ => other = session → Session.builtins state = builtins
  | _ => True

theorem Host.exchanges_show {setup : Setup σ H N} {fuel : Nat} {session : SessionId}
    {builtins : Option Builtins} {caller : Option SessionId} {rest : List Frame}
    (program : Host H N α) {world : World σ H N} (sound : world.Sound)
    (standing : World.Standing caller rest world)
    (lasts : world.Lasts session fun state => state.builtins = builtins) :
    ∀ exchange ∈ exchanges setup fuel program world, exchange.Shows session builtins := by
  induction program generalizing world with
  | done result => simp [exchanges]
  | ask request next ih =>
      rw [exchanges]
      split
      · rename_i answer later performed
        obtain ⟨onward, reached⟩ := (Run.obeys_perform (Run.answers_dispatch setup fuel) setup
          request sound standing).exec_ok performed
        have soundLater := reached.preserved (fun _ _ step => step.sound) sound
        refine List.forall_mem_cons.mpr ⟨?_,
          ih answer soundLater onward.standing (lasts.builtins sound reached)⟩
        cases request with
        | inspect other =>
            rintro rfl
            obtain ⟨_, present, _⟩ := Run.exec_held_ok.mp performed
            exact lasts.found answer present
        | _ => trivial
      · simp

end TclHost
