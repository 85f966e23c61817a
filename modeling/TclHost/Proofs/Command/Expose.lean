import TclHost.Host.Command
import TclHost.Proofs.Exit.Invariant
import TclHost.Proofs.Run.Request

/-!
Exposing a command that fails. A name that cannot be exposed changes nothing. Where the alias cannot
be created the name is left without a handler, whether or not it had one before; every other name
and the receiver are as they were.
-/

namespace TclHost

variable {σ H N α : Type}

namespace CommandTable

variable (table : CommandTable H) (name : String)

theorem route_congr {table other : CommandTable H} {words : List String}
    (receiver : table.receiver = other.receiver)
    (named : ∀ name ∈ words.head?, table.get? name = other.get? name) :
    table.route words = other.route words := by
  cases words with
  | nil => rfl
  | cons name arguments => simp [route, receiver, named name rfl]

/-- A named handler gets the words after its name, and nobody else does. -/
theorem get?_eq_of_route {table other : CommandTable H}
    (same : table.route [name] = other.route [name]) : table.get? name = other.get? name := by
  cases found : table.get? name with
  | none =>
      cases foundOther : other.get? name with
      | none => rfl
      | some handler =>
          cases receiver : table.receiver <;> simp [route, found, foundOther, receiver] at same
  | some handler =>
      cases foundOther : other.get? name with
      | none =>
          cases receiver : other.receiver <;> simp [route, found, foundOther, receiver] at same
      | some replacement => simpa [route, found, foundOther] using same

theorem route_eq_iff {table other : CommandTable H} (receiver : table.receiver = other.receiver) :
    (∀ words, table.route words = other.route words) ↔
      ∀ name, table.get? name = other.get? name := by
  constructor
  · exact fun same name => get?_eq_of_route name (same [name])
  · exact fun same words => route_congr receiver fun name _ => same name

theorem get?_erase_insert (handler : H) (other : String) :
    ((table.insert name handler).erase name).get? other =
      if name = other then none else table.get? other := by
  by_cases same : name = other <;> simp [same]

end CommandTable

namespace World

def commandsOf (world : World σ H N) (session : SessionId) : CommandTable H :=
  match world.sessions[session]? with
  | some state => state.commands
  | none => {}

theorem commandsOf_update {world : World σ H N} {session : SessionId} {state : Session H}
    (present : world.sessions[session]? = some state) (change : CommandTable H → CommandTable H) :
    (world.update session fun state => { state with commands := change state.commands }).commandsOf
        session = change (world.commandsOf session) := by
  simp [commandsOf, sessions_update, present]

end World

namespace Run

open Process

variable {setup : Setup σ H N} {dispatch : Dispatch σ H N} {world final : World σ H N}
  {session : SessionId} {name : String}

theorem exec_insertCommand_ok {handler : H} {existed : Bool}
    (returned : (perform setup dispatch (.insertCommand session name handler)).exec world =
      .ok existed final) :
    final.commandsOf session = (world.commandsOf session).insert name handler := by
  obtain ⟨state, between, found, inserted⟩ := exec_bind_ok.mp returned
  obtain ⟨rfl, present, _⟩ := exec_held_ok.mp found
  cases inserted
  exact World.commandsOf_update present (·.insert name handler)

theorem exec_eraseCommand_ok {existed : Bool}
    (returned : (perform setup dispatch (.eraseCommand session name)).exec world =
      .ok existed final) :
    final.commandsOf session = (world.commandsOf session).erase name := by
  obtain ⟨state, between, found, erased⟩ := exec_bind_ok.mp returned
  obtain ⟨rfl, present, _⟩ := exec_held_ok.mp found
  cases erased
  exact World.commandsOf_update present (·.erase name)

theorem exec_evaluate_error {engine : Engine σ} {script : String} {cause : Error}
    (returned : (evaluate engine dispatch session script).exec world = .ok (.error cause) final) :
    ∃ text, cause = .eval text := by
  unfold evaluate at returned
  obtain ⟨_, begun, _, returned⟩ := exec_bind_ok.mp returned
  obtain ⟨_, known, _, returned⟩ := exec_bind_ok.mp returned
  obtain ⟨_, entered, _, returned⟩ := exec_bind_ok.mp returned
  obtain ⟨code, left, _, returned⟩ := exec_bind_ok.mp returned
  obtain ⟨_, completed, _, returned⟩ := exec_bind_ok.mp returned
  obtain ⟨answer, told, answered, returned⟩ := exec_bind_ok.mp returned
  obtain ⟨_, last, _, returned⟩ := exec_bind_ok.mp returned
  obtain ⟨rfl, _⟩ := exec_done_ok.mp returned
  unfold evaluationResult at answered
  split at answered
  · obtain ⟨_, _, _, given⟩ := exec_bind_ok.mp answered
    cases given
  · obtain ⟨text, _, _, given⟩ := exec_bind_ok.mp answered
    cases given
    exact ⟨text, rfl⟩
  · cases answered

end Run

namespace Host

variable {setup : Setup σ H N} {fuel : Nat} {world final : World σ H N} {session : SessionId}
  {name : String} {handler : H} {cause : Error}

theorem expose_eq (session : SessionId) (name : String) (handler : H) :
    (expose session name handler : Attempt H N Unit).run =
      if name.toList.contains '\x00' then .done (.error (.invalidName name))
      else .ask (.insertCommand session name handler) fun _ =>
        .ask (.quoteList session ["interp", "alias", "", name, "", sendCommand, name]) fun script =>
        .ask (.evaluate session script) fun answer =>
          match answer with
          | .ok _ => .done (.ok ())
          | .error cause => .ask (.eraseCommand session name) fun _ => .done (.error cause) := by
  unfold expose register
  split
  · rfl
  · refine congrArg (Program.ask _) (funext fun _ => congrArg (Program.ask _) (funext fun script =>
      congrArg (Program.ask _) (funext fun answer => ?_)))
    cases answer <;> rfl

/-- The alias of a command could not be created: the library answered with an error. The table had
the new handler when the script was handed over. -/
structure AliasRefused (setup : Setup σ H N) (fuel : Nat) (session : SessionId) (name : String)
    (handler : H) (world handed returned : World σ H N) (cause : Error) : Prop where
  registered : handed.commandsOf session = (world.commandsOf session).insert name handler
  refused : ∃ script text, cause = .eval text ∧
    (Run.evaluate setup.engine (Run.dispatch setup fuel) session script).exec handed =
      .ok (.error cause) returned

theorem aliasRefused_of_failed
    (failed : (Host.run setup fuel (expose session name handler).run).exec world =
      .ok (.error cause) final) (valid : '\x00' ∉ name.toList) :
    ∃ handed returned, AliasRefused setup fuel session name handler world handed returned cause ∧
      final.commandsOf session = (returned.commandsOf session).erase name := by
  rw [expose_eq, if_neg (by simpa using valid)] at failed
  obtain ⟨existed, between, inserting, failed⟩ := exec_ask_ok.mp failed
  obtain ⟨script, handed, quoting, failed⟩ := exec_ask_ok.mp failed
  obtain ⟨answer, returned, evaluating, failed⟩ := exec_ask_ok.mp failed
  have registered : handed.commandsOf session = (world.commandsOf session).insert name handler := by
    obtain ⟨_, _, _, quoted⟩ := Run.exec_quoteList_ok.mp quoting
    have inserted := Run.exec_insertCommand_ok inserting
    rw [quoted]
    exact inserted
  cases answer with
  | ok text =>
      obtain ⟨same, _⟩ := Process.exec_done_ok.mp failed
      cases same
  | error reason =>
      obtain ⟨_, erased, erasing, failed⟩ := exec_ask_ok.mp failed
      obtain ⟨same, rfl⟩ := Process.exec_done_ok.mp failed
      cases same
      obtain ⟨_, _, evaluated⟩ := Run.exec_using_ok.mp evaluating
      obtain ⟨text, rfl⟩ := Run.exec_evaluate_error evaluated
      exact ⟨handed, returned, ⟨registered, script, text, rfl, evaluated⟩,
        Run.exec_eraseCommand_ok erasing⟩

/-- Exposing fails either with nothing changed, or with the name taken away that the alias was for.
If no handler changed the table meanwhile, every other name is routed as before and so is the
receiver, and all names are if and only if this one had no handler. -/
theorem failed_expose_forgets
    (failed : (Host.run setup fuel (expose session name handler).run).exec world =
      .ok (.error cause) final) :
    ('\x00' ∈ name.toList ∧ cause = .invalidName name ∧ final = world) ∨
      ('\x00' ∉ name.toList ∧ ∃ handed returned,
        AliasRefused setup fuel session name handler world handed returned cause ∧
        (final.commandsOf session).get? name = none ∧
        (returned.commandsOf session = handed.commandsOf session →
          (final.commandsOf session).receiver = (world.commandsOf session).receiver ∧
          (∀ words, words.head? ≠ some name →
            (final.commandsOf session).route words = (world.commandsOf session).route words) ∧
          ((∀ words,
              (final.commandsOf session).route words = (world.commandsOf session).route words) ↔
            (world.commandsOf session).get? name = none))) := by
  by_cases nul : '\x00' ∈ name.toList
  · rw [expose_eq, if_pos (by simpa using nul)] at failed
    obtain ⟨same, rfl⟩ := Process.exec_done_ok.mp failed
    cases same
    exact Or.inl ⟨nul, rfl, rfl⟩
  · obtain ⟨handed, returned, refused, left⟩ := aliasRefused_of_failed failed nul
    refine Or.inr ⟨nul, handed, returned, refused, by simp [left], fun untouched => ?_⟩
    rw [left, untouched, refused.registered]
    have receiver : (((world.commandsOf session).insert name handler).erase name).receiver =
        (world.commandsOf session).receiver := rfl
    refine ⟨receiver, fun words elsewhere => ?_, ?_⟩
    · refine CommandTable.route_congr receiver fun other first => ?_
      rw [CommandTable.get?_erase_insert, if_neg]
      rintro rfl
      exact elsewhere first
    · rw [CommandTable.route_eq_iff receiver]
      constructor
      · intro same
        rw [← same name, CommandTable.get?_erase_insert, if_pos rfl]
      · intro absent other
        rw [CommandTable.get?_erase_insert]
        split
        · rename_i same
          rw [← same, absent]
        · rfl

end Host

/-! A command that is exposed again under its own name, which the library refuses. -/

namespace Sample

def registering : Host Unit Empty Unit := do
  match ← Host.openSession {} with
  | .error _ => return
  | .ok session =>
      let _existed : Bool ← Host.insertCommand session "v" ()

def registered : World Nat Unit Empty :=
  Process.finalState ((Host.run (setup false) 3 registering).exec (World.start 0 library))

theorem expose_forgets_v :
    ∃ final, (Host.run (setup false) 3 (Host.expose 0 "v" ()).run).exec registered =
        .ok (.error (.eval "")) final ∧
      ∃ handed returned,
        Host.AliasRefused (setup false) 3 0 "v" () registered handed returned (.eval "") ∧
          (registered.commandsOf 0).get? "v" = some () ∧ (final.commandsOf 0).get? "v" = none := by
  have refused : Process.result? ((Host.run (setup false) 3 (Host.expose 0 "v" ()).run).exec
      registered) = some (.error (.eval "")) := rfl
  obtain ⟨final, failed⟩ := Process.result?_eq_some_iff.mp refused
  rcases Host.failed_expose_forgets failed with ⟨nul, _⟩ | ⟨_, handed, returned, refused, gone, _⟩
  · exact absurd nul (by decide)
  · exact ⟨final, failed, handed, returned, refused, by decide +kernel, gone⟩

end Sample

end TclHost
