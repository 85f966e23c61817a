import TclHost.Host.Serialise
import TclHost.Proofs.Serialise.Exchanges

/-!
What serialising finds out, one finding after another. An attempt is described by the findings that
its conversation consists of, whatever the answers are, and descriptions are put together as the
attempts are. An evaluation that fails ends the attempt where it stands.
-/

namespace TclHost

variable {σ H N α β : Type}

inductive Query where
  | isSet (name : String)
  | isArray (name : String)
  | scalar (name : String)
  | elements (name : String)
  | parameters (name : String)
  | autoLoaded (name : String)
  | default (name parameter : String)
  | body (name : String)

def Query.words : Query → List String
  | .isSet name => ["info", "exists", name]
  | .isArray name => ["array", "exists", name]
  | .scalar name => ["set", name]
  | .elements name => ["array", "get", name]
  | .parameters name => ["info", "args", name]
  | .autoLoaded name => ["info", "exists", "::auto_index(" ++ name ++ ")"]
  | .default name parameter => ["apply", Host.defaultLambda, name, parameter]
  | .body name => ["info", "body", name]

inductive Finding (H : Type) where
  | inspected (state : Session H)
  | listed (script : String) (reply : Except Error (Option String))
  | asked (query : Query) (script : String) (reply : Except Error (Option String))
  | split (list : String) (elements : Option (List String))
  | quoted (words : List String) (list : String)

def failed? : Except Error α → Option Error
  | .ok _ => none
  | .error cause => some cause

namespace Finding

def exchanges (session : SessionId) : Finding H → List (Exchange H N)
  | .inspected state => [⟨.inspect session, state⟩]
  | .listed script reply => [⟨.evaluate session script, reply⟩]
  | .asked query script reply =>
      [⟨.quoteList session query.words, script⟩, ⟨.evaluate session script, reply⟩]
  | .split list elements => [⟨.splitList session list, elements⟩]
  | .quoted words list => [⟨.quoteList session words, list⟩]

/-- The error of an evaluation that failed, unless it only asked whether something is loaded on
demand. -/
def failure? : Finding H → Option Error
  | .listed _ reply => failed? reply
  | .asked (.autoLoaded _) _ _ => none
  | .asked _ _ reply => failed? reply
  | _ => none

def broken (cause : Error) : Finding H → Finding H
  | .listed script _ => .listed script (.error cause)
  | .asked query script _ => .asked query script (.error cause)
  | finding => finding

end Finding

/-- Either nothing fails and the findings accord with the result, or they would have gone on to
accord with one, had the last of them not failed. -/
inductive Ends (post : List (Finding H) → α → Prop) : List (Finding H) → Except Error α → Prop
  | ok {findings : List (Finding H)} {result : α} (holds : post findings result)
      (clean : ∀ finding ∈ findings, finding.failure? = none) : Ends post findings (.ok result)
  | error {before after : List (Finding H)} {last : Finding H} {result : α} {cause : Error}
      (holds : post (before ++ last :: after) result)
      (clean : ∀ finding ∈ before, finding.failure? = none)
      (fails : (last.broken cause).failure? = some cause) :
      Ends post (before ++ [last.broken cause]) (.error cause)

theorem Ends.mono {post weaker : List (Finding H) → α → Prop} {findings : List (Finding H)}
    {outcome : Except Error α} (ends : Ends post findings outcome)
    (implies : ∀ findings result, post findings result → weaker findings result) :
    Ends weaker findings outcome := by
  cases ends with
  | ok holds clean => exact .ok (implies _ _ holds) clean
  | error holds clean fails => exact .error (implies _ _ holds) clean fails

theorem Ends.after {post : List (Finding H) → α → Prop} {earlier findings : List (Finding H)}
    {outcome : Except Error α} (clean : ∀ finding ∈ earlier, finding.failure? = none)
    (ends : Ends (fun more => post (earlier ++ more)) findings outcome) :
    Ends post (earlier ++ findings) outcome := by
  cases ends with
  | ok holds cleanLater => exact .ok holds (List.forall_mem_append.mpr ⟨clean, cleanLater⟩)
  | error holds cleanLater fails =>
      rw [← List.append_assoc] at holds ⊢
      exact .error holds (List.forall_mem_append.mpr ⟨clean, cleanLater⟩) fails

theorem Ends.findSome?_eq {post : List (Finding H) → α → Prop} {findings : List (Finding H)}
    {outcome : Except Error α} (ends : Ends post findings outcome) :
    findings.findSome? Finding.failure? = failed? outcome := by
  cases ends with
  | ok holds clean => exact List.findSome?_eq_none_iff.mpr clean
  | error holds clean fails =>
      rw [List.findSome?_append, List.findSome?_eq_none_iff.mpr clean]
      simp [fails, failed?]

namespace Host

variable {session : SessionId} {builtins : Option Builtins}

/-- However the attempt is answered, what it asks and is told makes up findings that end in
accordance with its outcome. Some answers lead to a result. -/
structure Reveals (session : SessionId) (builtins : Option Builtins)
    (post : List (Finding H) → α → Prop) (attempt : Attempt H N α) : Prop where
  possible : ∃ findings result, post findings result
  ends : ∀ log outcome, Converses attempt.run log outcome →
    (∀ exchange ∈ log, exchange.Shows session builtins) →
      ∃ findings : List (Finding H), log = findings.flatMap (Finding.exchanges session) ∧
        Ends post findings outcome

theorem reveals_pure {post : List (Finding H) → α → Prop} {result : α} (holds : post [] result) :
    Reveals session builtins post (pure result : Attempt H N α) := by
  refine ⟨⟨[], result, holds⟩, ?_⟩
  rintro log outcome ⟨⟩ _
  exact ⟨[], rfl, .ok holds nofun⟩

theorem Reveals.bind {post : List (Finding H) → α → Prop} {after : List (Finding H) → β → Prop}
    {attempt : Attempt H N α} {next : α → Attempt H N β}
    (reveals : Reveals session builtins post attempt)
    (rest : ∀ findings answer, post findings answer →
      Reveals session builtins (fun more result => after (findings ++ more) result)
        (next answer)) :
    Reveals session builtins after (attempt >>= next) := by
  constructor
  · obtain ⟨findings, answer, holds⟩ := reveals.possible
    obtain ⟨more, result, both⟩ := (rest findings answer holds).possible
    exact ⟨findings ++ more, result, both⟩
  · intro log outcome converses shown
    rw [ExceptT.run_bind] at converses
    obtain ⟨first, others, middle, rfl, before, onward⟩ := converses.of_bind
    obtain ⟨findings, rfl, ends⟩ := reveals.ends first middle before fun exchange member =>
      shown exchange (List.mem_append_left others member)
    cases ends with
    | error holds clean fails =>
        cases onward
        refine ⟨_, List.append_nil _, ?_⟩
        -- Had the last finding not failed, the rest would have had to be answered as well.
        obtain ⟨more, result, both⟩ := (rest _ _ holds).possible
        rw [List.append_assoc] at both
        exact .error both clean fails
    | ok holds clean =>
        obtain ⟨more, rfl, endsLater⟩ := (rest findings _ holds).ends others outcome onward
          fun exchange member => shown exchange (List.mem_append_right _ member)
        exact ⟨findings ++ more, List.flatMap_append.symm, endsLater.after clean⟩

theorem Reveals.mono {post weaker : List (Finding H) → α → Prop} {attempt : Attempt H N α}
    (reveals : Reveals session builtins post attempt)
    (implies : ∀ findings result, post findings result → weaker findings result) :
    Reveals session builtins weaker attempt := by
  constructor
  · obtain ⟨findings, result, holds⟩ := reveals.possible
    exact ⟨findings, result, implies findings result holds⟩
  · intro log outcome converses shown
    obtain ⟨findings, made, ends⟩ := reveals.ends log outcome converses shown
    exact ⟨findings, made, ends.mono implies⟩

theorem converses_lift {program : Host H N α} {log : List (Exchange H N)}
    {outcome : Except Error α}
    (converses : Converses (ExceptT.lift program : Attempt H N α).run log outcome) :
    ∃ result, outcome = .ok result ∧ Converses program log result := by
  obtain ⟨first, rest, result, rfl, before, onward⟩ := converses.of_bind
  cases onward
  exact ⟨result, rfl, (List.append_nil first).symm ▸ before⟩

/-- The findings are those of the program, which cannot fail. -/
theorem reveals_lift {post : List (Finding H) → α → Prop} {program : Host H N α}
    (possible : ∃ findings result, post findings result)
    (reveals : ∀ log result, Converses program log result →
      (∀ exchange ∈ log, exchange.Shows session builtins) →
        ∃ finding : Finding H, log = finding.exchanges session ∧ finding.failure? = none ∧
          post [finding] result) :
    Reveals session builtins post (ExceptT.lift program : Attempt H N α) := by
  refine ⟨possible, fun log outcome converses shown => ?_⟩
  obtain ⟨result, rfl, alone⟩ := converses_lift converses
  obtain ⟨finding, rfl, clean, holds⟩ := reveals log result alone shown
  exact ⟨[finding], (List.append_nil _).symm, .ok holds (List.forall_mem_singleton.mpr clean)⟩

/-! Single findings. -/

theorem reveals_inspect : Reveals session builtins
    (fun findings (state : Session H) => findings = [.inspected state] ∧ state.builtins = builtins)
    (ExceptT.lift (inspect session) : Attempt H N (Session H)) := by
  refine reveals_lift ⟨_, { builtins }, rfl, rfl⟩ fun log state converses shown => ?_
  obtain rfl := converses.of_question
  exact ⟨.inspected state, rfl, rfl, rfl, shown _ (List.mem_singleton_self _) rfl⟩

theorem reveals_quoteList (words : List String) : Reveals session builtins
    (fun (findings : List (Finding H)) list => findings = [.quoted words list])
    (ExceptT.lift (quoteList session words) : Attempt H N String) := by
  refine reveals_lift ⟨_, "", rfl⟩ fun log list converses _ => ?_
  obtain rfl := converses.of_question
  exact ⟨.quoted words list, rfl, rfl, rfl⟩

theorem reveals_splitLenient (list : String) : Reveals session builtins
    (fun (findings : List (Finding H)) items => ∃ elements,
      findings = [.split list elements] ∧ items = elements.getD [])
    (ExceptT.lift (splitLenient session list) : Attempt H N (List String)) := by
  refine reveals_lift ⟨_, _, none, rfl, rfl⟩ fun log items converses _ => ?_
  obtain ⟨first, rest, elements, rfl, before, onward⟩ := converses.of_bind
  obtain rfl := before.of_question
  cases onward
  exact ⟨.split list elements, rfl, rfl, elements, rfl, rfl⟩

/-- An evaluation goes through, or its error ends the attempt. -/
theorem ends_reply {post : List (Finding H) → String → Prop}
    {finding : Except Error (Option String) → Finding H}
    (holds : ∀ answer, post [finding (.ok answer)] (answer.getD ""))
    (counts : ∀ reply, (finding reply).failure? = failed? reply)
    (broken : ∀ cause, (finding (.ok none)).broken cause = finding (.error cause))
    (reply : Except Error (Option String)) :
    Ends post [finding reply] (reply.map (·.getD "")) := by
  cases reply with
  | ok answer => exact .ok (holds answer) (List.forall_mem_singleton.mpr (counts _))
  | error cause =>
      have fails : ((finding (.ok none)).broken cause).failure? = some cause := by
        rw [broken, counts]
        rfl
      have alone : Ends post ([] ++ [(finding (.ok none)).broken cause]) (.error cause) :=
        .error (holds none) nofun fails
      rw [broken] at alone
      exact alone

theorem converses_eval {script : String} {log : List (Exchange H N)}
    {outcome : Except Error String}
    (converses : Converses (eval session script : Attempt H N String).run log outcome) :
    ∃ reply : Except Error (Option String), log = [⟨.evaluate session script, reply⟩] ∧
      outcome = reply.map (·.getD "") := by
  unfold eval at converses
  rw [ExceptT.run_bind] at converses
  obtain ⟨first, rest, reply, rfl, before, onward⟩ := converses.of_bind
  obtain rfl := before.of_question
  refine ⟨reply, ?_⟩
  cases reply <;> cases onward <;> exact ⟨rfl, rfl⟩

theorem converses_invoke {words : List String} {log : List (Exchange H N)}
    {outcome : Except Error String}
    (converses : Converses (invoke session words : Attempt H N String).run log outcome) :
    ∃ (script : String) (reply : Except Error (Option String)),
      log = [⟨.quoteList session words, script⟩, ⟨.evaluate session script, reply⟩] ∧
        outcome = reply.map (·.getD "") := by
  unfold invoke at converses
  rw [ExceptT.run_bind_lift] at converses
  obtain ⟨first, rest, script, rfl, before, onward⟩ := converses.of_bind
  obtain rfl := before.of_question
  obtain ⟨reply, rfl, same⟩ := converses_eval onward
  exact ⟨script, reply, rfl, same⟩

/-- A query other than the one that may go unanswered. -/
theorem reveals_query (query : Query) (counts : ∀ name, query ≠ .autoLoaded name) :
    Reveals session builtins
      (fun (findings : List (Finding H)) text => ∃ script answer,
        findings = [.asked query script (.ok answer)] ∧ text = answer.getD "")
      (invoke session query.words : Attempt H N String) := by
  refine ⟨⟨_, _, "", none, rfl, rfl⟩, fun log outcome converses _ => ?_⟩
  obtain ⟨script, reply, rfl, rfl⟩ := converses_invoke converses
  refine ⟨[.asked query script reply], rfl,
    ends_reply (fun answer => ⟨script, answer, rfl, rfl⟩) (fun reply => ?_) (fun _ => rfl) reply⟩
  cases query with
  | autoLoaded name => exact absurd rfl (counts name)
  | _ => rfl

theorem reveals_autoLoaded (name : String) : Reveals session builtins
    (fun (findings : List (Finding H)) reply => ∃ script told,
      findings = [.asked (.autoLoaded name) script told] ∧ reply = told.map (·.getD ""))
    (ExceptT.lift (invoke session (Query.autoLoaded name).words).run :
      Attempt H N (Except Error String)) := by
  refine reveals_lift ⟨_, _, "", .ok none, rfl, rfl⟩ fun log reply converses _ => ?_
  obtain ⟨script, told, rfl, same⟩ := converses_invoke converses
  exact ⟨.asked (.autoLoaded name) script told, rfl, rfl, script, told, rfl, same⟩

theorem reveals_listed (script : String) : Reveals session builtins
    (fun (findings : List (Finding H)) text => ∃ answer,
      findings = [.listed script (.ok answer)] ∧ text = answer.getD "")
    (eval session script : Attempt H N String) := by
  refine ⟨⟨_, _, none, rfl, rfl⟩, fun log outcome converses _ => ?_⟩
  obtain ⟨reply, rfl, rfl⟩ := converses_eval converses
  exact ⟨[.listed script reply], rfl, ends_reply (fun answer => ⟨answer, rfl, rfl⟩) (fun _ => rfl)
    (fun _ => rfl) reply⟩

theorem reveals_listResult (script : String) : Reveals session builtins
    (fun (findings : List (Finding H)) names => ∃ answer elements,
      findings = [.listed script (.ok answer), .split (answer.getD "") elements] ∧
        names = elements.getD [])
    (listResult session script : Attempt H N (List String)) := by
  refine (reveals_listed script).bind ?_
  rintro _ _ ⟨answer, rfl, rfl⟩
  refine (reveals_splitLenient _).mono ?_
  rintro _ _ ⟨elements, rfl, rfl⟩
  exact ⟨answer, elements, rfl, rfl⟩

theorem lift_bind (program : Host H N α) (next : α → Host H N β) :
    (ExceptT.lift (program >>= next) : Attempt H N β) =
      ExceptT.lift program >>= fun answer => ExceptT.lift (next answer) := by
  apply ExceptT.ext
  rw [ExceptT.run_bind_lift]
  simp only [ExceptT.run_lift, map_bind]

end Host

end TclHost
