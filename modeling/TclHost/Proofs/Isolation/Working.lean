import TclHost.Proofs.Isolation.Tracks

/-!
Evaluations, and sessions that come and go, for one of two parties.
-/

namespace TclHost

open World

variable {σ H N α : Type}

namespace Parties

def Answers (parties : Parties σ H N) (dispatch : Dispatch σ H N) : Prop :=
  ∀ {ours : Bool} {roster : Roster} {place : Place} {session counterpart : SessionId}
    {words others : List Obj} {world other : World σ H N}, roster ours session counterpart →
    parties.Alike roster place world other →
    Call.Parted parties.like ours roster
      (Call.words parties.setup.engine words : Call σ N (List String))
      (Call.words parties.setup.engine others) world.scene.store other.scene.store →
    parties.Tracks ours roster (fun _ => place) Same (dispatch session words)
      (dispatch counterpart others) world other

variable {parties : Parties σ H N} {ours : Bool} {roster : Roster} {place : Place}
  {world other : World σ H N} {session counterpart : SessionId} {dispatch : Dispatch σ H N}
  (answers : parties.Answers dispatch)

section Follow

include answers

theorem tracks_together {reaction another : Reaction σ}
    (together : Reaction.Together N parties.setup.engine parties.like roster reaction another)
    (alike : parties.Alike roster place world other) :
    parties.Tracks true roster (fun _ => place) Same (Run.follow dispatch reaction)
      (Run.follow dispatch another) world other := by
  induction together generalizing world other with
  | finished like => exact tracks_setStore_bind (tracks_pure (alike.stores like) rfl)
  | callback meets like read onward ih =>
      rename_i interp counterpart _ _ _ _ _ _
      refine tracks_setStore_bind (tracks_emit_bind ?_)
      have called := (alike.stores like).push true (.called interp) (.called counterpart)
      refine (answers meets called read).bind ?_
      intro grown reply mine later there grows alikeOn same
      obtain rfl := same
      refine tracks_emit_bind (tracks_store_bind ?_)
      have sent := alikeOn.push true (.sent interp reply) (.sent counterpart reply)
      exact ih grown _ _ _ grows alikeOn.like sent

theorem tracks_apart {reaction : Reaction σ} {there : σ} {own : Run σ H N Int}
    (apart : Reaction.Apart N parties.setup.engine parties.like roster reaction there)
    (alike : parties.Alike roster place world other) (store : other.scene.store = there) :
    parties.Tracks false roster (fun _ => place) Same (Run.follow dispatch reaction) own world
      other := by
  induction apart generalizing world other own with
  | finished like =>
      subst store
      rename_i code store
      apply tracks_theirs (Run.follow dispatch (.finished code other.scene.store))
      exact tracks_setStore_bind (tracks_pure (alike.stores like) rfl)
  | callback meets like read onward ih =>
      rename_i interp counterpart words store _ resume
      subst store
      -- Our own process could answer the same call, but it gets none.
      apply tracks_theirs (do
        Run.setStore other.scene.store
        Run.emit (.called interp)
        let reply ← dispatch counterpart words
        Run.emit (.sent interp reply)
        Run.follow dispatch (resume reply.code (← Run.store)))
      refine tracks_setStore_bind (tracks_emit_bind ?_)
      have called := (alike.stores like).push false (.called interp) (.called interp)
      refine (answers meets called read).bind ?_
      intro grown reply mine later there grows alikeOn same
      obtain rfl := same
      refine tracks_emit_bind (tracks_store_bind ?_)
      have sent := alikeOn.push false (.sent interp reply) (.sent interp reply)
      exact ih grown _ _ _ grows alikeOn.like sent rfl

theorem tracks_follow {reaction another : Reaction σ}
    (parted : Reaction.Parted N parties.setup.engine parties.like ours roster reaction another
      other.scene.store) (alike : parties.Alike roster place world other) :
    parties.Tracks ours roster (fun _ => place) Same (Run.follow dispatch reaction)
      (Run.follow dispatch another) world other := by
  cases ours with
  | false => exact tracks_apart answers parted alike rfl
  | true => exact tracks_together answers parted alike

end Follow

variable (separates : parties.setup.engine.Separates N parties.like)

section Errands

include separates

theorem tracks_errand (errand : Errand) (meets : roster ours session counterpart)
    (alike : parties.Alike roster place world other) :
    parties.Tracks ours roster (fun _ => place) Same
      (Run.call (errand.call parties.setup.engine session))
      (Run.call (errand.call parties.setup.engine counterpart)) world other :=
  tracks_call alike (separates.errand errand meets alike.like)

end Errands

section Sessions

include answers separates

theorem tracks_tearDown (meets : roster ours session counterpart)
    (alike : parties.Alike roster place world other) :
    parties.Tracks ours roster (fun _ => place) Same
      (Run.tearDown parties.setup.engine dispatch session)
      (Run.tearDown parties.setup.engine dispatch counterpart) world other := by
  have gone := alike.takeDown meets
  refine tracks_modify_bind (tracks_store_bind ?_)
  have closed := tracks_follow answers (separates.entry .delete meets gone.like) gone
  refine closed.discard.bind fun grown _ _ later there grows alikeOn _ => ?_
  exact tracks_errand separates .release (grows meets) alikeOn

theorem tracks_sweep (meets : roster ours session counterpart)
    (alike : parties.Alike roster place world other) :
    parties.Tracks ours roster (fun _ => place) Same
      (Run.sweep parties.setup.engine dispatch session)
      (Run.sweep parties.setup.engine dispatch counterpart) world other := by
  unfold Run.sweep
  refine tracks_get_bind (tracks_ite ?_ (tracks_tearDown answers separates meets alike) ?_)
  · rintro rfl
    rw [alike.held meets, alike.contains meets]
  · exact tracks_pure alike rfl

theorem tracks_letGo_kept {caller : Option SessionId} {kept : List SessionId} {rest : List Frame}
    (left : List Frame) (here : world.frames = ⟨caller, session :: kept⟩ :: rest)
    (meets : roster ours session counterpart)
    (there : ours = true → ∃ caller others rest,
      other.frames = ⟨caller, counterpart :: others⟩ :: rest ∧ left = ⟨caller, others⟩ :: rest)
    (alike : parties.Alike roster place { world with frames := ⟨caller, kept⟩ :: rest }
      (cond ours { other with frames := left } other)) :
    parties.Tracks ours roster (fun _ => place) Same (Run.letGo parties.setup.engine dispatch)
      (Run.letGo parties.setup.engine dispatch) world other := by
  have dropped := tracks_sweep answers separates meets alike
  unfold Run.letGo
  refine tracks_get_bind ?_
  simp only [here]
  cases ours with
  | false =>
      apply tracks_theirs (do
        set other
        Run.sweep parties.setup.engine dispatch counterpart)
      exact tracks_set_bind dropped
  | true =>
      obtain ⟨callerThere, others, restThere, same, rfl⟩ := there rfl
      simp only [same]
      exact tracks_set_bind dropped

/-- The handle that was kept last for a party is dropped by that party. -/
theorem tracks_letGo (serves : place.Serves ours)
    (alike : parties.Alike roster (place.keep ours) world other) :
    parties.Tracks ours roster (fun _ => place) Same (Run.letGo parties.setup.engine dispatch)
      (Run.letGo parties.setup.engine dispatch) world other := by
  have stacked := alike.frames
  generalize here : world.frames = frames at stacked
  generalize there : other.frames = others at stacked
  cases place with
  | outermost keepers =>
      obtain ⟨keeps⟩ := stacked
      cases keeps with
      | ours meets keeps =>
          apply tracks_letGo_kept answers separates _ here meets fun _ => ⟨_, _, _, there, rfl⟩
          exact { alike with frames := .outermost keeps }
      | theirs meets keeps =>
          apply tracks_letGo_kept answers separates [] here meets nofun
          exact { alike with frames := there ▸ .outermost keeps }
  | inside party outer =>
      obtain rfl : party = ours := serves
      cases stacked with
      | ours caller keeps outer =>
          cases keeps with
          | nil =>
              unfold Run.letGo
              refine tracks_get_bind ?_
              simp only [here, there]
              exact tracks_pure alike rfl
          | cons meets keeps =>
              apply tracks_letGo_kept answers separates _ here meets fun _ => ⟨_, _, _, there, rfl⟩
              exact { alike with frames := .ours caller keeps outer }
      | theirs caller keeps outer =>
          rename_i _ _ kept
          cases kept with
          | nil =>
              unfold Run.letGo
              refine tracks_get_bind (tracks_theirs (pure PUnit.unit) ?_)
              simp only [here]
              exact tracks_pure alike rfl
          | cons session kept =>
              obtain ⟨⟨counterpart, meets⟩, keeps⟩ := List.forall_mem_cons.mp keeps
              apply tracks_letGo_kept answers separates [] here meets nofun
              exact { alike with frames := there ▸ .theirs caller keeps outer }

theorem tracks_letGo_each {outer : Place} {kept counterparts : List SessionId}
    (length : kept.length = counterparts.length)
    (alike : parties.Alike roster (.inside ours outer) world other) :
    parties.Tracks ours roster (fun _ => .inside ours outer) Same
      (kept.forM fun _ => Run.letGo parties.setup.engine dispatch)
      (counterparts.forM fun _ => Run.letGo parties.setup.engine dispatch) world other := by
  induction kept generalizing counterparts roster world other with
  | nil =>
      obtain rfl := List.length_eq_zero_iff.mp length.symm
      exact tracks_pure alike rfl
  | cons session kept ih =>
      cases counterparts with
      | nil => cases length
      | cons counterpart counterparts =>
          have first := tracks_letGo answers separates
            (show (Place.inside ours outer).Serves ours from rfl) alike
          refine first.bind fun grown _ _ later there _ alikeOn _ => ?_
          exact ih (Nat.succ.inj length) alikeOn

theorem tracks_dropKept {outer : Place}
    (alike : parties.Alike roster (.inside ours outer) world other) :
    parties.Tracks ours roster (fun _ => .inside ours outer) Same
      (Run.dropKept parties.setup.engine dispatch) (Run.dropKept parties.setup.engine dispatch) world
      other := by
  have stacked := alike.frames
  generalize here : world.frames = frames at stacked
  generalize there : other.frames = others at stacked
  cases stacked with
  | ours caller keeps =>
      refine tracks_get_bind ?_
      simp only [here, there]
      exact tracks_letGo_each answers separates keeps.length_eq alike
  | theirs caller keeps =>
      rename_i kept _
      refine tracks_get_bind ?_
      simp only [here]
      apply tracks_theirs (kept.forM fun _ => Run.letGo parties.setup.engine dispatch)
      exact tracks_letGo_each answers separates rfl alike

theorem tracks_endFrame (meets : roster ours session counterpart)
    (alike : parties.Alike roster (.inside ours place) world other) :
    parties.Tracks ours roster (fun _ => place) Same
      (Run.endFrame parties.setup.engine dispatch session)
      (Run.endFrame parties.setup.engine dispatch counterpart) world other :=
  tracks_modify_bind (tracks_sweep answers separates meets alike.exit)

omit answers separates in
/-- An exit that is due ends the process, so that nothing returns. -/
theorem tracks_complete {depth depthThere : Nat} (code : Int)
    (level : ours = true → depth = depthThere) (meets : roster ours session counterpart)
    (alike : parties.Alike roster place world other) :
    parties.Tracks ours roster (fun _ => place) Same (Run.complete session depth code)
      (Run.complete counterpart depthThere code) world other := by
  have completed := alike.noted meets
    (·.settle depth (Completion.ofCode code))
    (Session.commands_settle depth (Completion.ofCode code)) (.completed session code)
    (.completed counterpart code)
  unfold Run.complete
  cases due : world.sessions[session]?.bind (·.exitStatus? depth (Completion.ofCode code)) with
  | some status =>
      intro answer later ends
      obtain ⟨_, _, got, ends⟩ := Process.exec_bind_ok.mp ends
      cases got
      rw [due] at ends
      cases ends
  | none =>
      refine tracks_get_bind ?_
      rw [due]
      cases ours with
      | false =>
          apply tracks_theirs (modify (·.complete counterpart depth code))
          exact tracks_modify completed
      | true =>
          obtain rfl := level rfl
          rw [← alike.sessions meets, due]
          exact tracks_modify completed

omit answers in
theorem tracks_evaluationResult (completion : Completion) (meets : roster ours session counterpart)
    (alike : parties.Alike roster place world other) :
    parties.Tracks ours roster (fun _ => place) Same
      (Run.evaluationResult parties.setup.engine session completion)
      (Run.evaluationResult parties.setup.engine counterpart completion) world other := by
  cases completion with
  | success | error =>
      refine (tracks_errand separates .result meets alike).bind ?_
      intro grown text mine later there _ alikeOn same
      obtain rfl := same
      exact tracks_pure alikeOn rfl
  | other code => exact tracks_pure alike rfl

theorem tracks_evaluate (script : String) (meets : roster ours session counterpart)
    (alike : parties.Alike roster place world other) :
    parties.Tracks ours roster (fun _ => place) Same
      (Run.evaluate parties.setup.engine dispatch session script)
      (Run.evaluate parties.setup.engine dispatch counterpart script) world other := by
  have begun := alike.noted meets Session.enter (fun _ => rfl)
    (.evaluate session (Text.encode script)) (.evaluate counterpart (Text.encode script))
  unfold Run.evaluate
  refine tracks_modify_bind (tracks_get_bind (tracks_store_bind ?_))
  have entered := tracks_follow answers
    (separates.entry (.evaluate (Text.encode script)) meets begun.like) begun
  refine entered.bind fun grown code mine left there grows alikeLeft same => ?_
  obtain rfl := same
  refine (tracks_complete code ?_ (grows meets) alikeLeft).bind ?_
  · rintro rfl
    exact begun.depthOf meets
  intro grownOn _ _ completed there growsOn alikeCompleted _
  have known := growsOn (grows meets)
  refine (tracks_evaluationResult separates _ known alikeCompleted).bind ?_
  intro last answer mine told there growsLast alikeTold same
  obtain rfl := same
  have returned := alikeTold.noted (growsLast known) Session.leave (fun _ => rfl)
    (.returned session) (.returned counterpart)
  exact tracks_modify_bind (tracks_pure returned rfl)

theorem tracks_makeSafe (meets : roster ours session counterpart)
    (alike : parties.Alike roster place world other) :
    parties.Tracks ours roster (fun _ => place) Same
      (Run.makeSafe parties.setup.engine dispatch session)
      (Run.makeSafe parties.setup.engine dispatch counterpart) world other := by
  have asked := alike.push ours (.makeSafe session) (.makeSafe counterpart)
  let asking (session : SessionId) : Run σ H N (Except Error Unit) := do
    Run.emit (.makeSafe session)
    let code ← Run.follow dispatch (parties.setup.engine.makeSafe session (← Run.store))
    modify (·.restrict session code)
    if code ≠ 0 then
      return .error (.eval (← Run.call (Call.result parties.setup.engine session)))
    return .ok ()
  have restricting : parties.Tracks ours roster (fun _ => place) Same (asking session)
      (asking counterpart) world other := by
    refine tracks_emit_bind (tracks_store_bind ?_)
    have entered := tracks_follow answers (separates.entry .makeSafe meets asked.like) asked
    refine entered.bind fun grown code mine left there grows alikeLeft same => ?_
    obtain rfl := same
    have restricted := alikeLeft.noted (grows meets)
      (fun state => { state with safe := state.safe || code = 0 }) (fun _ => rfl)
      (.restricted session code) (.restricted counterpart code)
    refine tracks_modify_bind ?_
    by_cases failed : code ≠ 0
    · rw [if_pos failed, if_pos failed]
      refine (tracks_errand separates .result (grows meets) restricted).bind ?_
      intro last text mine later there _ alikeOn same
      obtain rfl := same
      exact tracks_pure alikeOn rfl
    · rw [if_neg failed, if_neg failed]
      exact tracks_pure restricted rfl
  refine tracks_get_bind (tracks_ite ?_ (tracks_pure alike rfl) restricting)
  rintro rfl
  rw [alike.sessions meets]

theorem tracks_listResult (script : String) (meets : roster ours session counterpart)
    (alike : parties.Alike roster place world other) :
    parties.Tracks ours roster (fun _ => place) Same
      (Run.listResult parties.setup.engine dispatch session script).run
      (Run.listResult parties.setup.engine dispatch counterpart script).run world other := by
  refine tracks_attempt (tracks_evaluate answers separates script meets alike) ?_
  intro grown text later there grows alikeOn
  refine tracks_attempt (tracks_lift
    (tracks_errand separates (.splitList (text.getD "")) (grows meets) alikeOn)) ?_
  intro last items final there _ alikeLast
  exact tracks_pure alikeLast rfl

theorem tracks_prepare (safe : Bool) (meets : roster ours session counterpart)
    (alike : parties.Alike roster place world other) :
    parties.Tracks ours roster (fun _ => place) Same
      (Run.prepare parties.setup.engine dispatch session safe).run
      (Run.prepare parties.setup.engine dispatch counterpart safe).run world other := by
  have finish {grown : Roster} {later there : World σ H N} (known : grown ours session counterpart)
      (alike : parties.Alike grown place later there) :
      parties.Tracks ours grown (fun _ => place) Same
        (ExceptT.lift (modify (·.ready session)) : ExceptT Error (Run σ H N) PUnit).run
        (ExceptT.lift (modify (·.ready counterpart)) : ExceptT Error (Run σ H N) PUnit).run later
        there := by
    have ready := alike.noted known (fun state => { state with stage := .ready })
      (fun _ => rfl) (.ready session) (.ready counterpart)
    exact tracks_lift (tracks_modify ready)
  unfold Run.prepare
  refine tracks_attempt (tracks_listResult answers separates _ meets alike) ?_
  intro grown procs surveyed there grows alikeOn
  refine tracks_attempt (tracks_listResult answers separates _ (grows meets) alikeOn) ?_
  intro grownOn vars named there growsOn alikeNamed
  have known := growsOn (grows meets)
  have noted := alikeNamed.update known (fun state => { state with
    builtins := some ⟨procs, vars⟩ }) fun _ within => within
  refine tracks_attempt (tracks_lift (tracks_modify noted)) ?_
  intro last _ later there growsLast alikeLast
  cases safe with
  | false => exact finish (growsLast known) alikeLast
  | true =>
      refine tracks_attempt (tracks_makeSafe answers separates (growsLast known) alikeLast) ?_
      intro final _ restricted there growsFinal alikeFinal
      exact finish (growsFinal (growsLast known)) alikeFinal

end Sessions

/-! Opening sessions. -/

inductive Handed (ours : Bool) (roster : Roster) :
    Except Error SessionId → Except Error SessionId → Prop
  | failed (cause : Error) : Handed ours roster (.error cause) (.error cause)
  | opened {session counterpart : SessionId} (meets : roster ours session counterpart) :
      Handed ours roster (.ok session) (.ok counterpart)

theorem Handed.grows {later : Roster} (growing : roster.Grows later)
    {opened mine : Except Error SessionId} (handed : Handed ours roster opened mine) :
    Handed ours later opened mine := by
  cases handed with
  | failed cause => exact .failed cause
  | opened meets => exact .opened (growing meets)

def handing (ours : Bool) (place : Place) : Except Error SessionId → Place
  | .ok _ => place.keep ours
  | .error _ => place

section Opening

include separates

theorem tracks_create (alone : ours = false → counterpart = session)
    (fresh : ∀ {party : Bool} {first second : SessionId}, roster party first second →
      first ≠ session ∧ (ours = true → party = true → second ≠ counterpart))
    (below : session < world.created ∧ (ours = true → counterpart < other.created))
    (absent : world.sessions[session]? = none ∧
      (ours = true → other.sessions[counterpart]? = none))
    (alike : parties.Alike roster place world other) :
    parties.Tracks ours roster (fun _ => place)
      (fun grown answer mine => answer = mine ∧ grown ours session counterpart)
      (Run.call (Call.create parties.setup.engine session))
      (Run.call (Call.create parties.setup.engine counterpart)) world other := by
  intro answer later ran _
  obtain ⟨rfl, rfl⟩ := Run.exec_call_ok.mp ran
  obtain ⟨same, like⟩ := separates.create alike.like alone fresh world.scene.events
    other.scene.events
  have known := roster.add_self ours session counterpart
  cases ours with
  | false =>
      exact ⟨_, _, other, roster.grows_add _ _ _, rfl,
        alike.add alone fresh below absent _ other.scene like, rfl, known⟩
  | true =>
      exact ⟨_, _, _, roster.grows_add _ _ _, rfl, alike.add alone fresh below absent _ _ like, same rfl,
        known⟩

theorem tracks_allocate (serves : place.Serves ours)
    (alike : parties.Alike roster place world other) :
    parties.Tracks ours roster (handing ours place) (Handed ours)
      (Run.allocate parties.setup.engine) (Run.allocate parties.setup.engine) world other := by
  let allocating (session : SessionId) : Run σ H N (Except Error SessionId) := do
    modify fun world => { world with created := session + 1 }
    if !(← Run.call (Call.create parties.setup.engine session)) then return .error .createFailed
    discard (Run.call (Call.init parties.setup.engine session))
    Run.call (Call.preserve parties.setup.engine session)
    modify (·.enrol session)
    Run.call (Call.createCommand parties.setup.engine session sendCommand)
    return .ok session
  -- Ours gets the next number of either process, the others' only that of the shared one.
  have numbered (counterpart : SessionId)
      (own : ours = true → counterpart = other.created)
      (alone : ours = false → counterpart = world.created) :
      parties.Tracks ours roster (handing ours place) (Handed ours) (allocating world.created)
        (allocating counterpart) world other := by
    have counted := alike.count ours
    have mine : cond ours { other with created := counterpart + 1 } other =
        cond ours { other with created := other.created + 1 } other := by
      cases ours with
      | false => rfl
      | true => rw [own rfl]
    refine tracks_modify_bind (mine ▸ ?_)
    refine (tracks_create separates alone ?_ ?_ ?_ counted).bind ?_
    · intro party first second known
      obtain ⟨below, belowThere⟩ := alike.known known
      exact ⟨Nat.ne_of_lt below, fun working known =>
        own working ▸ Nat.ne_of_lt (belowThere known)⟩
    · refine ⟨Nat.lt_succ_self _, fun working => ?_⟩
      subst working
      exact own rfl ▸ Nat.lt_succ_self _
    · refine ⟨alike.unborn.1 _ (Nat.le_refl _), fun working => ?_⟩
      subst working
      exact alike.unborn.2 _ (Nat.le_of_eq (own rfl).symm)
    rintro grown granted _ created there grows alikeCreated ⟨rfl, meets⟩
    cases granted with
    | false => exact tracks_pure alikeCreated (.failed .createFailed)
    | true =>
        refine (tracks_errand separates .init meets alikeCreated).discard.bind ?_
        intro second _ _ initialised there grows alikeInitialised _
        replace meets := grows meets
        refine (tracks_errand separates .preserve meets alikeInitialised).bind ?_
        intro third _ _ preserved there grows alikePreserved _
        replace meets := grows meets
        refine tracks_modify_bind ?_
        have enrolled := alikePreserved.enrol meets serves
        refine (tracks_errand separates (.createCommand sendCommand) meets enrolled).bind ?_
        intro last _ _ later there grows alikeLast _
        exact tracks_pure alikeLast (.opened (grows meets))
  cases ours with
  | false =>
      refine tracks_get_bind ?_
      exact tracks_theirs (allocating world.created) (numbered _ nofun fun _ => rfl)
  | true => exact tracks_get_bind (numbered _ (fun _ => rfl) nofun)

include answers

/-- One that cannot be made ready is dropped again. -/
theorem tracks_handOut (safe : Bool) (meets : roster ours session counterpart)
    (serves : place.Serves ours) (alike : parties.Alike roster (place.keep ours) world other) :
    parties.Tracks ours roster (handing ours place) (Handed ours)
      (Run.handOut parties.setup.engine dispatch session safe)
      (Run.handOut parties.setup.engine dispatch counterpart safe) world other := by
  refine (tracks_prepare answers separates safe meets alike).bind ?_
  intro grown outcome mine later there grows alikeOn same
  obtain rfl := same
  cases outcome with
  | error cause =>
      refine (tracks_letGo answers separates serves alikeOn).bind ?_
      intro last _ _ final there _ alikeLast _
      exact tracks_pure alikeLast (.failed cause)
  | ok => exact tracks_pure alikeOn (.opened (grows meets))

theorem tracks_opening (config : Config) (outcome : Except LoadError String)
    (serves : place.Serves ours) (alike : parties.Alike roster place world other) :
    let opening : Run σ H N (Except Error SessionId) := do
      match outcome with
      | .error cause => return .error (.load cause)
      | .ok _ =>
          match ← Run.allocate parties.setup.engine with
          | .error cause => return .error cause
          | .ok session => Run.handOut parties.setup.engine dispatch session config.safe
    parties.Tracks ours roster (handing ours place) (Handed ours) opening opening world other := by
  cases outcome with
  | error cause => exact tracks_pure alike (.failed (.load cause))
  | ok path =>
      refine (tracks_allocate separates serves alike).bind ?_
      intro grown allocated mine final there _ alikeOn handed
      cases handed with
      | failed cause => exact tracks_pure alikeOn (.failed cause)
      | opened meets => exact tracks_handOut answers separates config.safe meets serves alikeOn

theorem tracks_openSession {config : Config} (asks : ours = true → parties.asks config)
    (serves : place.Serves ours) (alike : parties.Alike roster place world other) :
    parties.Tracks ours roster (handing ours place) (Handed ours)
      (Run.openSession parties.setup dispatch config)
      (Run.openSession parties.setup dispatch config) world other := by
  have loaded := alike.load asks
  cases ours with
  | false =>
      refine tracks_get_bind (tracks_modify_bind ?_)
      exact tracks_theirs _ (tracks_opening answers separates config _ serves loaded)
  | true =>
      refine tracks_get_bind (tracks_modify_bind (tracks_of_loads fun loads => ?_))
      have found := loads _ (Library.outcome_load world.library parties.setup.libraries config)
      have same := alike.finds config _ (asks rfl) found
      exact same ▸ tracks_opening answers separates config _ serves loaded

end Opening

end Parties

end TclHost
