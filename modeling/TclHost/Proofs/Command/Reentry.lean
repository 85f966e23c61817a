import Mathlib.Data.String.Basic
import Mathlib.Data.List.Sort
import TclHost.CommandTable.Task

/-!
A table whose handlers work on it behaves like a plain registry that is passed along from one
operation to the next. `Runs` is the registry's behaviour by rules, in which nothing is ever on
loan; running a task on the table ends exactly as the rules say, with both parts given back and no
request refused.
-/

namespace TclHost

@[ext]
structure Registry (H N : Type) where
  handler? : String → Option H
  receiver : Option H
  notes : Array N

namespace Registry

variable {H N α : Type}

structure Lists (registry : Registry H N) (names : List String) : Prop where
  increasing : names.Pairwise (· < ·)
  present : ∀ name, name ∈ names ↔ (registry.handler? name).isSome

def assign (registry : Registry H N) (name : String) (handler : Option H) : Registry H N :=
  { registry with handler? := fun other => if name = other then handler else registry.handler? other }

inductive Selects (registry : Registry H N) : List String → H → List String → Prop where
  | named {name : String} {arguments : List String} {handler : H}
      (found : registry.handler? name = some handler) :
      Selects registry (name :: arguments) handler arguments
  | received {name : String} {arguments : List String} {handler : H}
      (missing : registry.handler? name = none) (found : registry.receiver = some handler) :
      Selects registry (name :: arguments) handler (name :: arguments)

inductive Rejects (registry : Registry H N) : List String → String → Prop where
  | nameless : Rejects registry [] CommandTable.missingName
  | unknown {name : String} {arguments : List String}
      (missing : registry.handler? name = none) (nobody : registry.receiver = none) :
      Rejects registry (name :: arguments) (CommandTable.unknownName name)

inductive Answers (before : Registry H N) :
    (question : TableQuestion H N) → question.Answer → Registry H N → Prop where
  | insert (name : String) (handler : H) : Answers before (.insert name handler)
      (before.handler? name).isSome (before.assign name (some handler))
  | erase (name : String) : Answers before (.erase name)
      (before.handler? name).isSome (before.assign name none)
  | contains (name : String) : Answers before (.contains name) (before.handler? name).isSome before
  | names {names : List String} (listed : before.Lists names) : Answers before .names names before
  | setReceiver (receiver : Option H) :
      Answers before (.setReceiver receiver) () { before with receiver }
  | note (entry : N) : Answers before (.note entry) () { before with notes := before.notes.push entry }
  | review : Answers before .review before.notes before

def outcome : Except (Option String) Outcome → Outcome
  | .ok outcome => outcome
  | .error message => .panic message

def given : Except CommandError String → Outcome
  | .ok text => .value text
  | .error cause => .error cause

/-- `Runs behave task before ending after`: on the registry `before` the task ends so, a panic being
`error`, and leaves `after`. -/
inductive Runs (behave : H → List String → TableTask H N Outcome) :
    {α : Type} → TableTask H N α → Registry H N → Except (Option String) α → Registry H N → Prop where
  | done {α : Type} {registry : Registry H N} (result : α) :
      Runs behave (.done result) registry (.ok result) registry
  | plain {α : Type} {before between after : Registry H N} {ending : Except (Option String) α}
      {question : TableQuestion H N} {answer : question.Answer}
      {next : question.Answer → TableTask H N α}
      (answered : before.Answers question answer between)
      (rest : Runs behave (next answer) between ending after) :
      Runs behave (Program.ask question next) before ending after
  | received {α : Type} {before between after : Registry H N} {ending : Except (Option String) α}
      {words arguments : List String} {handler : H} {own : Except (Option String) Outcome}
      {answer : Except CommandError String} {next : Except CommandError String → TableTask H N α}
      (selected : before.Selects words handler arguments)
      (called : Runs behave (behave handler arguments) before own between)
      (returned : outcome own = given answer)
      (rest : Runs behave (next answer) between ending after) :
      Runs behave (Program.ask (.receive words) next) before ending after
  | unwound {α : Type} {before after : Registry H N} {words arguments : List String} {handler : H}
      {own : Except (Option String) Outcome} {message : Option String}
      {next : Except CommandError String → TableTask H N α}
      (selected : before.Selects words handler arguments)
      (called : Runs behave (behave handler arguments) before own after)
      (broken : outcome own = .panic message) :
      Runs behave (Program.ask (.receive words) next) before (.error message) after
  | attempted {α : Type} {before between after : Registry H N} {ending : Except (Option String) α}
      {words arguments : List String} {handler : H} {own : Except (Option String) Outcome}
      {next : Outcome → TableTask H N α}
      (selected : before.Selects words handler arguments)
      (called : Runs behave (behave handler arguments) before own between)
      (rest : Runs behave (next (outcome own)) between ending after) :
      Runs behave (Program.ask (.attempt words) next) before ending after
  | rejected {α : Type} {before after : Registry H N} {ending : Except (Option String) α}
      {words : List String} {message : String} {next : Except CommandError String → TableTask H N α}
      (rejected : before.Rejects words message)
      (rest : Runs behave (next (.error (.failed message))) before ending after) :
      Runs behave (Program.ask (.receive words) next) before ending after
  | attemptRejected {α : Type} {before after : Registry H N} {ending : Except (Option String) α}
      {words : List String} {message : String} {next : Outcome → TableTask H N α}
      (rejected : before.Rejects words message)
      (rest : Runs behave (next (.error (.failed message))) before ending after) :
      Runs behave (Program.ask (.attempt words) next) before ending after

end Registry

variable {H N α : Type}

namespace CommandTable

variable {table : CommandTable H} {notes : Array N}

def registry (table : CommandTable H) (notes : Array N) : Registry H N :=
  ⟨table.get?, table.receiver, notes⟩

theorem registry_insert (name : String) (handler : H) :
    (table.insert name handler).registry notes =
      (table.registry notes).assign name (some handler) :=
  Registry.ext (funext fun other => get?_insert table name other handler) rfl rfl

theorem registry_erase (name : String) :
    (table.erase name).registry notes = (table.registry notes).assign name none :=
  Registry.ext (funext fun other => get?_erase table name other) rfl rfl

theorem lists_names (table : CommandTable H) (notes : Array N) :
    (table.registry notes).Lists table.names where
  increasing := table.handlers.ordered_keys.imp fun before => compare_lt_iff_lt.mp before
  present := table.mem_names

theorem eq_names {names : List String} (listed : (table.registry notes).Lists names) :
    names = table.names := by
  have own := lists_names table notes
  exact listed.increasing.eq_of_mem_iff own.increasing fun name =>
    (listed.present name).trans (own.present name).symm

theorem selects_iff {words arguments : List String} {handler : H} :
    (table.registry notes).Selects words handler arguments ↔
      table.route words = .handler handler arguments := by
  constructor
  · intro selected
    cases selected with
    | named found => simp_all [registry, route]
    | received missing found => simp_all [registry, route]
  · intro routed
    cases words with
    | nil => cases routed
    | cons name rest =>
        cases found : table.get? name with
        | some own =>
            simp only [route, found, Route.handler.injEq] at routed
            obtain ⟨rfl, rfl⟩ := routed
            exact .named found
        | none =>
            cases receiver : table.receiver with
            | some own =>
                simp only [route, found, receiver, Route.handler.injEq] at routed
                obtain ⟨rfl, rfl⟩ := routed
                exact .received found receiver
            | none => simp [route, found, receiver] at routed

theorem rejects_iff {words : List String} {message : String} :
    (table.registry notes).Rejects words message ↔ table.route words = .nowhere message := by
  constructor
  · intro rejected
    cases rejected with
    | nameless => rfl
    | unknown missing nobody => simp_all [registry, route]
  · intro routed
    cases words with
    | nil =>
        cases routed
        exact .nameless
    | cons name rest =>
        cases found : table.get? name with
        | some own => simp [route, found] at routed
        | none =>
            cases receiver : table.receiver with
            | some own => simp [route, found, receiver] at routed
            | none =>
                simp only [route, found, receiver, Route.nowhere.injEq] at routed
                subst routed
                exact .unknown found receiver

end CommandTable

namespace TableRun

open CommandTable (Part Access Loan)

variable (table : CommandTable H) (notes : Array N)

theorem borrow_ok (part : Part) (access : Access) :
    ∃ loan : Loan, loan.giveBack = .readers 0 ∧
      borrow part access { table, notes } = .ok () (TableState.lend { table, notes } part loan) := by
  cases access with
  | read => exact ⟨.readers 1, rfl, rfl⟩
  | write => exact ⟨.writer, rfl, rfl⟩

theorem giveBack_ok (part : Part) {loan : Loan} (lent : loan.giveBack = .readers 0) :
    giveBack part (TableState.lend { table, notes } part loan) = .ok () { table, notes } := by
  have back : (fun other => if other = part then loan.giveBack else
      if other = part then loan else .readers 0) = fun _ => .readers 0 := by
    funext other
    by_cases same : other = part <;> simp [same, lent]
  have given (state : TableState H N) :
      giveBack part state = .ok () (state.lend part (state.loan part).giveBack) := rfl
  rw [given]
  simpa [TableState.lend] using back

theorem bind_ok {β : Type} {run : TableRun H N α} {next : α → TableRun H N β} {result : α}
    {before after : TableState H N} (ran : run before = .ok result after) :
    (run >>= next) before = next result after := by
  simp only [bind, EStateM.bind, ran]

theorem bind_error {β : Type} {run : TableRun H N α} {next : α → TableRun H N β} {halt : TableHalt}
    {before after : TableState H N} (ran : run before = .error halt after) :
    (run >>= next) before = .error halt after := by
  simp only [bind, EStateM.bind, ran]

/-- A part that nobody has on loan is lent, and comes back once it has been used. -/
theorem lending_ok (part : Part) (access : Access) {use : TableRun H N α} {result : α}
    {after : CommandTable H}
    (used : ∀ loan, use { table, notes, loan } = .ok result { table := after, notes, loan }) :
    lending part access use { table, notes } = .ok result { table := after, notes } := by
  obtain ⟨loan, lent, borrowed⟩ := borrow_ok table notes part access
  have ran : use (TableState.lend { table, notes } part loan) =
      .ok result (TableState.lend { table := after, notes } part loan) := used _
  have returned := giveBack_ok after notes part lent
  rw [lending, bind_ok borrowed]
  simp only [tryFinally, MonadFinally.tryFinally', Functor.map, EStateM.map, ran, returned]

theorem reading_ok (part : Part) (look : CommandTable H → α) :
    reading part look { table, notes } = .ok (look table) { table, notes } :=
  lending_ok table notes part .read fun _ => rfl

theorem writing_ok (part : Part) (change : CommandTable H → α × CommandTable H) :
    writing part change { table, notes } =
      .ok (change table).1 { table := (change table).2, notes } :=
  lending_ok table notes part .write fun _ => rfl

theorem choose_ok (words : List String) :
    choose words { table, notes } = .ok (table.route words) { table, notes } := by
  cases words with
  | nil => rfl
  | cons name arguments =>
      rw [choose, bind_ok (reading_ok table notes .handlers _), CommandTable.route]
      cases table.get? name with
      | some handler => rfl
      | none =>
          dsimp only
          rw [bind_ok (reading_ok table notes .receiver _)]
          cases table.receiver <;> rfl

def ended : Except (Option String) α → TableState H N → EStateM.Result TableHalt (TableState H N) α
  | .ok result, state => .ok result state
  | .error message, state => .error (.panic message) state

variable {table notes} {words : List String}

theorem invoke_handler {handler : H} {arguments : List String}
    (call : H → List String → TableRun H N Outcome)
    (routed : table.route words = .handler handler arguments) :
    invoke call words { table, notes } = call handler arguments { table, notes } := by
  rw [invoke, bind_ok (choose_ok table notes words), routed]

theorem invoke_nowhere {message : String} (call : H → List String → TableRun H N Outcome)
    (routed : table.route words = .nowhere message) :
    invoke call words { table, notes } =
      ended (.ok (.error (.failed message))) { table, notes } := by
  rw [invoke, bind_ok (choose_ok table notes words), routed]
  rfl

section

open Registry (outcome given)

variable {run : TableRun H N Outcome} {own : Except (Option String) Outcome}
  {before after : TableState H N}

theorem unwound_ok {reply : Except CommandError String} (ran : run before = ended own after)
    (returned : outcome own = given reply) : (run >>= unwound) before = .ok reply after := by
  cases own with
  | ok result =>
      rw [bind_ok ran]
      cases reply <;> cases returned <;> rfl
  | error message => cases reply <;> cases returned

theorem unwound_panic {message : Option String} (ran : run before = ended own after)
    (broken : outcome own = .panic message) :
    (run >>= unwound) before = .error (.panic message) after := by
  cases own with
  | ok result =>
      rw [bind_ok ran]
      cases broken
      rfl
  | error thrown =>
      cases broken
      exact bind_error ran

theorem caught_ok (ran : run before = ended own after) :
    caught run before = .ok (outcome own) after := by
  simp only [caught, tryCatch, tryCatchThe, MonadExceptOf.tryCatch, EStateM.tryCatch, ran]
  cases own <;> rfl

theorem caught_outOfFuel (ran : run before = .error .outOfFuel after) :
    caught run before = .error .outOfFuel after := by
  simp only [caught, tryCatch, tryCatchThe, MonadExceptOf.tryCatch, EStateM.tryCatch, ran]
  rfl

theorem given_or_panic (own : Except (Option String) Outcome) :
    (∃ reply, outcome own = given reply) ∨ ∃ message, outcome own = .panic message := by
  cases own with
  | error message => exact .inr ⟨message, rfl⟩
  | ok result =>
      cases result with
      | value text => exact .inl ⟨.ok text, rfl⟩
      | error cause => exact .inl ⟨.error cause, rfl⟩
      | panic message => exact .inr ⟨message, rfl⟩

end

end TableRun

namespace TableTask

open TableRun

variable {behave : H → List String → TableTask H N Outcome} {table : CommandTable H}
  {notes : Array N}

theorem answers_or_calls (behave : H → List String → TableTask H N Outcome)
    (question : TableQuestion H N) (table : CommandTable H) (notes : Array N) :
    (∃ words, question = .receive words) ∨ (∃ words, question = .attempt words) ∨
      ∃ reply after noted,
        (table.registry notes).Answers question reply (CommandTable.registry after noted) ∧
        ∀ fuel, answer behave fuel question { table, notes } =
          .ok reply { table := after, notes := noted } := by
  cases question with
  | receive words => exact .inl ⟨words, rfl⟩
  | attempt words => exact .inr (.inl ⟨words, rfl⟩)
  | insert name handler =>
      refine .inr (.inr ⟨(table.get? name).isSome, table.insert name handler, notes, ?_, ?_⟩)
      · rw [CommandTable.registry_insert]
        exact .insert name handler
      · intro fuel
        rw [answer, writing_ok, CommandTable.contains_eq_isSome]
  | erase name =>
      refine .inr (.inr ⟨(table.get? name).isSome, table.erase name, notes, ?_, ?_⟩)
      · rw [CommandTable.registry_erase]
        exact .erase name
      · intro fuel
        rw [answer, writing_ok, CommandTable.contains_eq_isSome]
  | contains name =>
      refine .inr (.inr ⟨(table.get? name).isSome, table, notes, .contains name, ?_⟩)
      intro fuel
      rw [answer, ← CommandTable.contains_eq_isSome]
      exact reading_ok ..
  | names =>
      refine .inr (.inr ⟨table.names, table, notes, .names (CommandTable.lists_names table notes), ?_⟩)
      intro fuel
      rw [answer]
      exact reading_ok ..
  | setReceiver receiver =>
      refine .inr (.inr ⟨(), table.withReceiver receiver, notes, .setReceiver receiver, ?_⟩)
      intro fuel
      rw [answer, writing_ok]
  | note entry =>
      refine .inr (.inr ⟨(), table, notes.push entry, .note entry, fun fuel => ?_⟩)
      rw [answer]
      rfl
  | review =>
      refine .inr (.inr ⟨notes, table, notes, .review, fun fuel => ?_⟩)
      rw [answer]
      rfl

theorem answers_unique {between other : Registry H N} {question : TableQuestion H N}
    {reply replyOther : question.Answer}
    (first : (table.registry notes).Answers question reply between)
    (second : (table.registry notes).Answers question replyOther other) :
    reply = replyOther ∧ between = other := by
  cases first with
  | names listed =>
      cases second with
      | names again =>
          have same := CommandTable.eq_names again
          exact ⟨(CommandTable.eq_names listed).trans same.symm, rfl⟩
  | _ =>
      cases second
      exact ⟨rfl, rfl⟩

section

variable {fuel : Nat} {before after : TableState H N} {question : TableQuestion H N}
  {next : question.Answer → TableTask H N α} {words arguments : List String} {handler : H}
  {own : Except (Option String) Outcome} {message : String}

theorem run_ask_ok {reply : question.Answer}
    (step : answer behave fuel question before = .ok reply after) :
    Program.run (answer behave fuel) (.ask question next) before =
      (next reply).run (answer behave fuel) after := by
  rw [Program.run, bind_ok step]

theorem run_ask_error {halt : TableHalt}
    (step : answer behave fuel question before = .error halt after) :
    Program.run (answer behave fuel) (.ask question next) before = .error halt after := by
  rw [Program.run, bind_error step]

theorem answer_receive : answer behave (fuel + 1) (.receive words) = (do
    .unwound (← .invoke (fun handler arguments =>
      (behave handler arguments).run (answer behave fuel)) words) : TableRun H N _) :=
  rfl

theorem answer_attempt : answer behave (fuel + 1) (.attempt words) =
    (.caught (.invoke (fun handler arguments =>
      (behave handler arguments).run (answer behave fuel)) words) : TableRun H N _) :=
  rfl

theorem receive_rejected (routed : table.route words = .nowhere message) :
    answer behave (fuel + 1) (.receive words) { table, notes } =
      .ok (.error (.failed message)) { table, notes } := by
  rw [answer_receive]
  exact bind_ok (invoke_nowhere _ routed)

theorem attempt_rejected (routed : table.route words = .nowhere message) :
    answer behave (fuel + 1) (.attempt words) { table, notes } =
      .ok (.error (.failed message)) { table, notes } := by
  rw [answer_attempt]
  exact caught_ok (invoke_nowhere _ routed)

variable (routed : table.route words = .handler handler arguments)

include routed

theorem receive_ok {reply : Except CommandError String}
    (ran : (behave handler arguments).run (answer behave fuel) { table, notes } = ended own after)
    (returned : Registry.outcome own = Registry.given reply) :
    answer behave (fuel + 1) (.receive words) { table, notes } = .ok reply after := by
  rw [answer_receive]
  exact unwound_ok ((invoke_handler _ routed).trans ran) returned

theorem receive_panic {thrown : Option String}
    (ran : (behave handler arguments).run (answer behave fuel) { table, notes } = ended own after)
    (broken : Registry.outcome own = .panic thrown) :
    answer behave (fuel + 1) (.receive words) { table, notes } = .error (.panic thrown) after := by
  rw [answer_receive]
  exact unwound_panic ((invoke_handler _ routed).trans ran) broken

theorem receive_outOfFuel
    (spent : (behave handler arguments).run (answer behave fuel) { table, notes } =
      .error .outOfFuel after) :
    answer behave (fuel + 1) (.receive words) { table, notes } = .error .outOfFuel after := by
  rw [answer_receive]
  exact bind_error ((invoke_handler _ routed).trans spent)

theorem attempt_ok
    (ran : (behave handler arguments).run (answer behave fuel) { table, notes } = ended own after) :
    answer behave (fuel + 1) (.attempt words) { table, notes } =
      .ok (Registry.outcome own) after := by
  rw [answer_attempt]
  exact caught_ok ((invoke_handler _ routed).trans ran)

theorem attempt_outOfFuel
    (spent : (behave handler arguments).run (answer behave fuel) { table, notes } =
      .error .outOfFuel after) :
    answer behave (fuel + 1) (.attempt words) { table, notes } = .error .outOfFuel after := by
  rw [answer_attempt]
  exact caught_outOfFuel ((invoke_handler _ routed).trans spent)

end

/-- What came of running the task is what the rules allow, or the bound on nesting was met. -/
def Explained (behave : H → List String → TableTask H N Outcome) (task : TableTask H N α)
    (before : Registry H N) (result : EStateM.Result TableHalt (TableState H N) α) : Prop :=
  (∃ table notes, result = .error .outOfFuel { table, notes }) ∨
    ∃ ending table notes, result = ended ending { table, notes } ∧
      Registry.Runs behave task before ending (CommandTable.registry table notes)

theorem Explained.of_rest {task rest : TableTask H N α} {before between : Registry H N}
    {result : EStateM.Result TableHalt (TableState H N) α}
    (explained : Explained behave rest between result)
    (rule : ∀ {ending after}, Registry.Runs behave rest between ending after →
      Registry.Runs behave task before ending after) : Explained behave task before result := by
  rcases explained with spent | ⟨ending, table, notes, ended, runs⟩
  · exact .inl spent
  · exact .inr ⟨ending, table, notes, ended, rule runs⟩

/-- The induction on a task, given what the handlers do that it may invoke. -/
theorem explained_of_handlers {fuel : Nat}
    (called : ∀ lower, fuel = lower + 1 → ∀ handler arguments table notes,
      Explained behave (behave handler arguments) (CommandTable.registry table notes)
        ((behave handler arguments).run (answer behave lower) { table, notes }))
    (task : TableTask H N α) (table : CommandTable H) (notes : Array N) :
    Explained behave task (table.registry notes)
      (task.run (answer behave fuel) { table, notes }) := by
  induction task generalizing table notes with
  | done result => exact .inr ⟨.ok result, table, notes, rfl, .done result⟩
  | ask question next ih =>
      obtain ⟨words, rfl⟩ | ⟨words, rfl⟩ | ⟨reply, after, noted, answers, step⟩ :=
        answers_or_calls behave question table notes
      · cases fuel with
        | zero => exact .inl ⟨table, notes, rfl⟩
        | succ lower =>
            cases routed : table.route words with
            | nowhere message =>
                rw [run_ask_ok (receive_rejected routed)]
                exact (ih _ table notes).of_rest (.rejected (CommandTable.rejects_iff.mpr routed))
            | handler handler arguments =>
                have selected : (table.registry notes).Selects words handler arguments :=
                  CommandTable.selects_iff.mpr routed
                obtain ⟨after, noted, spent⟩ | ⟨own, after, noted, ran, runs⟩ :=
                  called lower rfl handler arguments table notes
                · rw [run_ask_error (receive_outOfFuel routed spent)]
                  exact .inl ⟨after, noted, rfl⟩
                · obtain ⟨reply, returned⟩ | ⟨thrown, broken⟩ := given_or_panic own
                  · rw [run_ask_ok (receive_ok routed ran returned)]
                    exact (ih reply after noted).of_rest (.received selected runs returned)
                  · rw [run_ask_error (receive_panic routed ran broken)]
                    exact .inr ⟨.error thrown, after, noted, rfl, .unwound selected runs broken⟩
      · cases fuel with
        | zero => exact .inl ⟨table, notes, rfl⟩
        | succ lower =>
            cases routed : table.route words with
            | nowhere message =>
                rw [run_ask_ok (attempt_rejected routed)]
                exact (ih _ table notes).of_rest
                  (.attemptRejected (CommandTable.rejects_iff.mpr routed))
            | handler handler arguments =>
                have selected : (table.registry notes).Selects words handler arguments :=
                  CommandTable.selects_iff.mpr routed
                obtain ⟨after, noted, spent⟩ | ⟨own, after, noted, ran, runs⟩ :=
                  called lower rfl handler arguments table notes
                · rw [run_ask_error (attempt_outOfFuel routed spent)]
                  exact .inl ⟨after, noted, rfl⟩
                · rw [run_ask_ok (attempt_ok routed ran)]
                  exact (ih _ after noted).of_rest (.attempted selected runs)
      · rw [run_ask_ok (step fuel)]
        exact (ih reply after noted).of_rest (.plain answers)

theorem explained (behave : H → List String → TableTask H N Outcome) (fuel : Nat)
    (task : TableTask H N α) (table : CommandTable H) (notes : Array N) :
    Explained behave task (table.registry notes)
      (task.run (answer behave fuel) { table, notes }) := by
  induction fuel generalizing α task table notes with
  | zero => exact explained_of_handlers (by simp) task table notes
  | succ fuel ih =>
      refine explained_of_handlers (fun lower same handler arguments => ?_) task table notes
      obtain rfl : fuel = lower := by omega
      exact ih (behave handler arguments)

def Settles (behave : H → List String → TableTask H N Outcome) (task : TableTask H N α)
    (table : CommandTable H) (notes : Array N) (ending : Except (Option String) α)
    (last : Registry H N) : Prop :=
  ∃ after noted enough, last = CommandTable.registry after noted ∧ ∀ fuel, enough ≤ fuel →
    task.run (answer behave fuel) { table, notes } = ended ending { table := after, notes := noted }

theorem Settles.ask {question : TableQuestion H N} {reply : question.Answer}
    {next : question.Answer → TableTask H N α} {between : CommandTable H} {noted : Array N}
    {ending : Except (Option String) α} {last : Registry H N} (bound : Nat)
    (step : ∀ fuel, bound ≤ fuel → answer behave (fuel + 1) question { table, notes } =
      .ok reply { table := between, notes := noted })
    (rest : Settles behave (next reply) between noted ending last) :
    Settles behave (Program.ask question next) table notes ending last := by
  obtain ⟨after, noted, enough, same, ran⟩ := rest
  refine ⟨after, noted, max (bound + 1) enough, same, fun fuel above => ?_⟩
  obtain ⟨lower, rfl⟩ : ∃ lower, fuel = lower + 1 := ⟨fuel - 1, by omega⟩
  exact (run_ask_ok (step lower (by omega))).trans (ran _ (by omega))

theorem settles {task : TableTask H N α} {before last : Registry H N}
    {ending : Except (Option String) α} (runs : Registry.Runs behave task before ending last)
    (table : CommandTable H) (notes : Array N) (start : before = table.registry notes) :
    Settles behave task table notes ending last := by
  induction runs generalizing table notes with
  | done result => exact ⟨table, notes, 0, start, fun _ _ => rfl⟩
  | @plain _ _ _ _ _ question _ _ answered _ ih =>
      subst start
      obtain ⟨words, rfl⟩ | ⟨words, rfl⟩ | ⟨reply, between, noted, answers, step⟩ :=
        answers_or_calls behave question table notes
      · cases answered
      · cases answered
      · obtain ⟨rfl, rfl⟩ := answers_unique answered answers
        exact .ask 0 (fun fuel _ => step (fuel + 1)) (ih between noted rfl)
  | received selected _ returned _ ihCalled ihRest =>
      subst start
      have routed := CommandTable.selects_iff.mp selected
      obtain ⟨between, noted, enough, rfl, ran⟩ := ihCalled table notes rfl
      exact .ask enough (fun fuel bound => receive_ok routed (ran fuel bound) returned)
        (ihRest between noted rfl)
  | unwound selected _ broken ihCalled =>
      subst start
      have routed := CommandTable.selects_iff.mp selected
      obtain ⟨after, noted, enough, rfl, ran⟩ := ihCalled table notes rfl
      refine ⟨after, noted, enough + 1, rfl, fun fuel bound => ?_⟩
      obtain ⟨lower, rfl⟩ : ∃ lower, fuel = lower + 1 := ⟨fuel - 1, by omega⟩
      exact run_ask_error (receive_panic routed (ran lower (by omega)) broken)
  | attempted selected _ _ ihCalled ihRest =>
      subst start
      have routed := CommandTable.selects_iff.mp selected
      obtain ⟨between, noted, enough, rfl, ran⟩ := ihCalled table notes rfl
      exact .ask enough (fun fuel bound => attempt_ok routed (ran fuel bound))
        (ihRest between noted rfl)
  | rejected rejected _ ih =>
      subst start
      have routed := CommandTable.rejects_iff.mp rejected
      exact .ask 0 (fun fuel _ => receive_rejected routed) (ih table notes rfl)
  | attemptRejected rejected _ ih =>
      subst start
      have routed := CommandTable.rejects_iff.mp rejected
      exact .ask 0 (fun fuel _ => attempt_rejected routed) (ih table notes rfl)

theorem ended_injective {ending other : Except (Option String) α} {first second : TableState H N}
    (same : ended ending first = ended other second) : ending = other ∧ first = second := by
  cases ending <;> cases other <;> simp_all [ended]

/-- A run never ends but by the rules or at the bound on nesting, and the rules determine how it
ends. In all the states nothing is on loan and no request was refused. -/
theorem runs_as_registry (behave : H → List String → TableTask H N Outcome)
    (task : TableTask H N α) (table : CommandTable H) (notes : Array N) :
    (∀ fuel, Explained behave task (table.registry notes)
      (task.run (answer behave fuel) { table, notes })) ∧
    ∀ ending last, Registry.Runs behave task (table.registry notes) ending last ↔
      ∃ after noted, last = CommandTable.registry after noted ∧ ∃ enough, ∀ fuel, enough ≤ fuel →
        task.run (answer behave fuel) { table, notes } =
          ended ending { table := after, notes := noted } := by
  refine ⟨fun fuel => explained behave fuel task table notes, fun ending last => ⟨fun runs => ?_, ?_⟩⟩
  · obtain ⟨after, noted, enough, same, ran⟩ := settles runs table notes rfl
    exact ⟨after, noted, same, enough, ran⟩
  · rintro ⟨after, noted, rfl, enough, ran⟩
    obtain ⟨table', notes', spent⟩ | ⟨other, table', notes', ended, runs⟩ :=
      explained behave enough task table notes
    · rw [ran enough le_rfl] at spent
      cases ending <;> cases spent
    · rw [ran enough le_rfl] at ended
      obtain ⟨rfl, same⟩ := ended_injective ended
      cases same
      exact runs

end TableTask

end TclHost
