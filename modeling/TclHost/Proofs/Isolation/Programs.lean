import TclHost.Proofs.Isolation.Requests

/-!
Programs and handlers of two parties. What a program does for one of them comes to the same without
what it does for the other.
-/

namespace TclHost

open World

variable {σ H N α β : Type}

namespace Parties

/-- The program does for us what `mine` does, with what it does for the others in between. It may
compare the sessions that it knows, but it does the same whatever their numbers are. -/
inductive Interleaves (parties : Parties σ H N) (related : Roster → α → β → Prop) :
    Roster → Place → Host H N α → Host H N β → Prop
  | done {roster : Roster} {place : Place} {result : α} {mine : β}
      (agree : related roster result mine) :
      Interleaves parties related roster place (.done result) (.done mine)
  | ours {roster : Roster} {place : Place} {request another : Request H N}
      {next : request.Answer → Host H N α} {rest : another.Answer → Host H N β}
      {relating : Roster → request.Answer → another.Answer → Prop} {placed : request.Answer → Place}
      (serves : place.Serves true)
      (asks : parties.Asks true roster place request another relating placed)
      (onward : ∀ later answer counterpart, roster.Grows later → later.Sound →
        relating later answer counterpart →
        Interleaves parties related later (placed answer) (next answer) (rest counterpart)) :
      Interleaves parties related roster place (.ask request next) (.ask another rest)
  | theirs {roster : Roster} {place : Place} {request another : Request H N}
      {next : request.Answer → Host H N α} {mine : Host H N β}
      {relating : Roster → request.Answer → another.Answer → Prop} {placed : request.Answer → Place}
      (serves : place.Serves false)
      (asks : parties.Asks false roster place request another relating placed)
      (onward : ∀ later answer counterpart, roster.Grows later → later.Sound →
        relating later answer counterpart →
        Interleaves parties related later (placed answer) (next answer) mine) :
      Interleaves parties related roster place (.ask request next) mine

structure Minds (parties : Parties σ H N) : Prop where
  ours : ∀ {roster : Roster} {outer : Place} {session counterpart : SessionId} {handler : H}
    (arguments : List String), roster.Sound → roster true session counterpart →
    parties.handler handler = true →
    parties.Interleaves (fun _ => Eq) roster (.inside true outer)
      (parties.setup.behave handler session arguments)
      (parties.setup.behave handler counterpart arguments)
  theirs : ∀ {roster : Roster} {outer : Place} {session counterpart : SessionId} {handler : H}
    (arguments : List String), roster.Sound → roster false session counterpart →
    parties.handler handler = false →
    parties.Interleaves (fun _ _ _ => True) roster (.inside false outer)
      (parties.setup.behave handler session arguments) (.done ())

variable {parties : Parties σ H N} {ours : Bool} {roster : Roster} {place outer : Place}
  {world other : World σ H N} {session counterpart : SessionId} {dispatch : Dispatch σ H N}
  (separates : parties.setup.engine.Separates N parties.like)

section Program

variable (answers : parties.Answers dispatch)
include answers separates

theorem exec_program {related : Roster → α → β → Prop} {program : Host H N α} {mine : Host H N β}
    (interleaves : parties.Interleaves related roster place program mine)
    (alike : parties.Alike roster place world other) {result : α} {later : World σ H N}
    (ran : (Program.run (Run.perform parties.setup dispatch) program).exec world = .ok result later)
    (stays : (Program.run (Run.perform parties.setup dispatch) program).Stays parties.Loads world) :
    ∃ grown counterpart there last, roster.Grows grown ∧
      (Program.run (Run.perform parties.setup dispatch) mine).exec other = .ok counterpart there ∧
      place.Leads last ∧ parties.Alike grown last later there ∧ related grown result counterpart := by
  induction interleaves generalizing world other with
  | done agree =>
      cases ran
      exact ⟨_, _, other, _, .refl _, rfl, .refl _, alike, agree⟩
  | ours serves asks onward ih =>
      obtain ⟨answer, between, asked, ran⟩ := Process.exec_bind_ok.mp ran
      obtain ⟨grown, mine, beside, grows, askedOwn, alikeOn, agree⟩ :=
        tracks_perform answers separates asks serves alike answer between asked stays.first
      obtain ⟨last, counterpart, there, final, growsOn, ranOwn, leads, alikeLast, agreeLast⟩ :=
        ih grown answer mine grows alikeOn.sound agree alikeOn ran (stays.rest asked)
      exact ⟨last, counterpart, there, final, grows.trans growsOn,
        Process.exec_bind_ok.mpr ⟨mine, beside, askedOwn, ranOwn⟩,
        (asks.leads answer).trans leads, alikeLast, agreeLast⟩
  | theirs serves asks onward ih =>
      obtain ⟨answer, between, asked, ran⟩ := Process.exec_bind_ok.mp ran
      obtain ⟨grown, mine, beside, grows, same, alikeOn, agree⟩ :=
        tracks_perform answers separates asks serves alike answer between asked stays.first
      obtain rfl : beside = other := same
      obtain ⟨last, counterpart, there, final, growsOn, ranOwn, leads, alikeLast, agreeLast⟩ :=
        ih grown answer mine grows alikeOn.sound agree alikeOn ran (stays.rest asked)
      exact ⟨last, counterpart, there, final, grows.trans growsOn, ranOwn,
        (asks.leads answer).trans leads, alikeLast, agreeLast⟩

variable (minds : parties.Minds)
include minds

theorem tracks_behave {handler : H} (arguments : List String) (known : parties.handler handler = ours)
    (meets : roster ours session counterpart)
    (alike : parties.Alike roster (.inside ours outer) world other) :
    parties.Tracks ours roster (fun _ => .inside ours outer) Same
      (Program.run (Run.perform parties.setup dispatch)
        (parties.setup.behave handler session arguments))
      (Program.run (Run.perform parties.setup dispatch)
        (parties.setup.behave handler counterpart arguments))
      world other := by
  intro outcome later ran stays
  cases ours with
  | true =>
      obtain ⟨grown, mine, there, last, grows, ranOwn, leads, alikeOn, same⟩ := exec_program separates
        answers (minds.ours arguments alike.sound meets known) alike ran stays
      cases leads
      exact ⟨grown, mine, there, grows, ranOwn, alikeOn, same⟩
  | false =>
      obtain ⟨grown, _, there, last, grows, ranOwn, leads, alikeOn, -⟩ := exec_program separates
        answers (minds.theirs arguments alike.sound meets known) alike ran stays
      cases leads
      cases ranOwn
      exact ⟨grown, outcome, other, grows, rfl, alikeOn, rfl⟩

omit separates answers minds in
theorem within_commands (meets : roster ours session counterpart)
    (alike : parties.Alike roster place world other) :
    (match world.sessions[session]? with
      | some state => state.commands
      | none => {} : CommandTable H).Within (parties.handler · = ours) := by
  cases present : world.sessions[session]? with
  | none => exact CommandTable.within_empty _
  | some state => exact alike.commands meets present

theorem tracks_route {commands : CommandTable H}
    (within : commands.Within (parties.handler · = ours)) (words : List String)
    (meets : roster ours session counterpart)
    (alike : parties.Alike roster (.inside ours outer) world other) :
    parties.Tracks ours roster (fun _ => .inside ours outer) Same
      (match commands.route words with
        | .nowhere message => return .error (.failed message)
        | .handler handler arguments => Program.run (Run.perform parties.setup dispatch)
            (parties.setup.behave handler session arguments) : Run σ H N Outcome)
      (match commands.route words with
        | .nowhere message => return .error (.failed message)
        | .handler handler arguments => Program.run (Run.perform parties.setup dispatch)
            (parties.setup.behave handler counterpart arguments) : Run σ H N Outcome)
      world other := by
  cases found : commands.route words with
  | nowhere message => exact tracks_pure alike rfl
  | handler handler arguments =>
      exact tracks_behave separates answers minds arguments (within.route found) meets alike

theorem tracks_runHandler (words : List String) (meets : roster ours session counterpart)
    (alike : parties.Alike roster (.inside ours outer) world other) :
    parties.Tracks ours roster (fun _ => .inside ours outer) Same
      (Run.runHandler parties.setup dispatch session words)
      (Run.runHandler parties.setup dispatch counterpart words) world other := by
  have routed := tracks_route separates answers minds (within_commands meets alike) words meets alike
  cases ours with
  | false =>
      refine tracks_get_bind ?_
      exact tracks_theirs _ routed
  | true =>
      refine tracks_get_bind ?_
      rw [alike.sessions meets] at routed ⊢
      exact routed

theorem tracks_answerCall {words others : List Obj}
    (read : Call.Parted parties.like ours roster
      (Call.words parties.setup.engine words : Call σ N (List String))
      (Call.words parties.setup.engine others) world.scene.store other.scene.store)
    (meets : roster ours session counterpart) (alike : parties.Alike roster place world other) :
    parties.Tracks ours roster (fun _ => place) Same
      (Run.answerCall parties.setup dispatch session words)
      (Run.answerCall parties.setup dispatch counterpart others) world other := by
  have entered := alike.enter meets
  refine tracks_modify_bind ((tracks_call entered ?_).bind ?_)
  · cases ours <;> exact read
  intro first arguments mine asked there grows alikeAsked same
  obtain rfl := same
  replace meets := grows meets
  refine (tracks_runHandler separates answers minds arguments meets alikeAsked).bind ?_
  intro second outcome mine ended there grows alikeEnded same
  obtain rfl := same
  replace meets := grows meets
  refine (tracks_dropKept answers separates alikeEnded).bind ?_
  intro third _ _ dropped there grows alikeDropped _
  replace meets := grows meets
  have answered := alikeDropped.noted meets (·.answer outcome) (Session.commands_answer outcome)
    (.answered session outcome) (.answered counterpart outcome)
  refine tracks_modify_bind ?_
  refine (tracks_errand separates (.setResult (Reply.outcome outcome).text) meets answered).bind ?_
  intro fourth _ _ told there grows alikeTold _
  replace meets := grows meets
  refine (tracks_endFrame answers separates meets alikeTold).bind ?_
  intro last _ _ later there _ alikeLast _
  exact tracks_pure alikeLast rfl

end Program

/-- However deep the calls are nested, those for one party leave the other one alone. -/
theorem answers_dispatch (separates : parties.setup.engine.Separates N parties.like)
    (minds : parties.Minds) (fuel : Nat) : parties.Answers (Run.dispatch parties.setup fuel) := by
  induction fuel with
  | zero => exact fun _ _ _ => tracks_stop .outOfFuel
  | succ fuel ih =>
      intro ours roster place session counterpart words others world other meets alike read
      unfold Run.dispatch
      refine tracks_get_bind (tracks_ite ?_ ?_ ?_)
      · rintro rfl
        exact (alike.contains meets).symm
      · refine (tracks_answerCall separates ih minds read meets alike).bind ?_
        intro grown outcome mine later there _ alikeOn same
        obtain rfl := same
        exact tracks_pure alikeOn rfl
      · refine (tracks_errand separates (.setResult Reply.gone.text) meets alike).bind ?_
        intro grown _ _ later there _ alikeOn _
        exact tracks_pure alikeOn rfl

end Parties

end TclHost
