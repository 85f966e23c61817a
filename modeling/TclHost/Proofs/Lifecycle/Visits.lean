import Mathlib.Data.List.Induction
import TclHost.Proofs.Run.Alike

/-!
What an interpreter goes through. The library is audited: whatever is called on an interpreter is
put down, with the calls of the host's command and their answers, in the order in which it happens.
What has been put down says which phase of its life the interpreter is in, and whether the host
kept to the order of the phases.
-/

namespace TclHost

variable {σ H N α β : Type}

inductive Visit where
  /-- The library answered whether there is an interpreter. -/
  | create (granted : Bool)
  | init
  | preserve
  | command
  /-- A script is to be evaluated or the unsafe commands are to be hidden, which may call back. -/
  | enter
  | leave
  /-- A list is written or read, or the result is read. -/
  | use
  | setResult
  | delete
  | deleted
  | release
  /-- The library runs the host's command. -/
  | called
  | answered (code : Int)
  deriving DecidableEq, Repr

def Visit.stage? : Visit → Option Nat
  | .create granted => if granted then some 1 else none
  | .init => some 2
  | .preserve => some 3
  | .command => some 4
  | .delete => some 5
  | .deleted => some 6
  | .release => some 7
  | _ => none

theorem Visit.stage?_injective {visit other : Visit} {stage : Nat} (known : visit.stage? = some stage)
    (same : other.stage? = some stage) : other = visit := by
  cases visit <;> cases other <;> simp_all [Visit.stage?] <;> omega

theorem Visit.stage?_pos {visit : Visit} {stage : Nat} (known : visit.stage? = some stage) :
    0 < stage := by
  cases visit <;> simp_all [Visit.stage?] <;> omega

inductive Phase where
  | absent
  | refused
  | created
  | initialised
  | preserved
  /-- So many calls that may call back have not returned. -/
  | alive (calls : Nat)
  | deleting
  | deleted
  | released
  /-- The library ran the host's command where there is none. Nothing is said of what follows. -/
  | astray
  deriving DecidableEq, Repr

namespace Phase

/-- What may be done with an interpreter. There is nothing left once the host does anything else. -/
def next : Phase → Visit → Option Phase
  | .absent, .create granted => some (if granted then .created else .refused)
  | .created, .init => some .initialised
  | .initialised, .preserve => some .preserved
  | .preserved, .command => some (.alive 0)
  | .alive calls, .enter => some (.alive (calls + 1))
  | .alive (calls + 1), .leave => some (.alive calls)
  | .alive calls, .use | .alive calls, .setResult | .alive calls, .called => some (.alive calls)
  | .alive 0, .delete => some .deleting
  | .deleting, .called | .deleting, .setResult => some .deleting
  | .deleting, .answered code => if code = 1 then some .deleting else none
  | .deleting, .deleted => some .deleted
  | .deleted, .release => some .released
  | .astray, _ | _, .called => some .astray
  | phase, .answered _ => some phase
  | _, _ => none

def due? (held : Bool) : Phase → Option Visit
  | .created => some .init
  | .initialised => some .preserve
  | .preserved => some .command
  | .alive _ => if held then none else some .delete
  | .deleted => some .release
  | _ => none

def stage : Phase → Nat
  | .created => 1
  | .initialised => 2
  | .preserved => 3
  | .alive _ => 4
  | .deleting => 5
  | .deleted => 6
  | .released => 7
  | .absent | .refused | .astray => 0

def Open : Phase → Prop
  | .preserved | .alive _ | .astray => True
  | _ => False

def Busy : Phase → Prop
  | .alive (_ + 1) | .deleting | .astray => True
  | _ => False

def Callable : Phase → Prop
  | .alive _ | .deleting | .astray => True
  | _ => False

def Closed : Phase → Prop
  | .absent | .refused | .released | .astray => True
  | _ => False

/-- What a part of a run that begins and ends by itself may make of a phase. -/
def Yields (phase later : Phase) : Prop :=
  later = .astray ∨ (phase.Busy ∨ later.Busy → later = phase)

/-- What a program makes of a phase. Whoever is at work on the interpreter further out goes on where
they were. Otherwise the session is there and held, or there is nothing left to be done. -/
def Rests (held : Prop) (phase later : Phase) : Prop :=
  (phase.Busy ∧ later = phase) ∨ later.Closed ∨ (later = .alive 0 ∧ held)

def Leaves (phase : Phase) (left : Visit) : Prop :=
  (∃ calls, phase = .alive (calls + 1) ∧ left = .leave) ∨ (phase = .deleting ∧ left = .deleted) ∨
    phase = .astray

theorem yields_refl (phase : Phase) : phase.Yields phase :=
  .inr fun _ => rfl

theorem Yields.trans {phase between later : Phase} (first : phase.Yields between)
    (second : between.Yields later) : phase.Yields later := by
  rcases second with rfl | second
  · exact .inl rfl
  · rcases first with rfl | first
    · exact .inl (second (.inl trivial))
    · refine .inr fun busy => ?_
      rcases busy with early | late
      · have same := first (.inl early)
        exact (second (.inl (same ▸ early))).trans same
      · have same := second (.inr late)
        exact same.trans (first (.inr (same ▸ late)))

theorem Yields.eq_of_alive {phase later : Phase} {calls : Nat} (yields : phase.Yields later)
    (busy : later = .alive (calls + 1)) : phase = .alive (calls + 1) := by
  subst busy
  rcases yields with lost | same
  · cases lost
  · exact (same (.inr trivial)).symm

theorem Yields.astray {phase later : Phase} (yields : phase.Yields later)
    (lost : phase = .astray) : later = .astray := by
  subst lost
  exact yields.elim id fun same => same (.inl trivial)

theorem Leaves.yields {phase later : Phase} {left : Visit} (leaves : phase.Leaves left)
    (yields : phase.Yields later) : later.Leaves left := by
  rcases yields with rfl | same
  · exact .inr (.inr rfl)
  · have busy : phase.Busy := by
      rcases leaves with ⟨calls, rfl, _⟩ | ⟨rfl, _⟩ | rfl <;> trivial
    rw [same (.inl busy)]
    exact leaves

/-- Running the command changes the phase only if there should be none. -/
theorem exists_next_called (phase : Phase) :
    ∃ later, phase.next .called = some later ∧ phase.Yields later ∧ later.Callable ∧
      (later = phase ∨ later = .astray) := by
  cases phase with
  | alive calls => exact ⟨.alive calls, by cases calls <;> rfl, yields_refl _, trivial, .inl rfl⟩
  | deleting => exact ⟨.deleting, rfl, yields_refl _, trivial, .inl rfl⟩
  | _ => exact ⟨.astray, rfl, .inl rfl, trivial, .inr rfl⟩

theorem next_answered {phase : Phase} {code : Int} (failing : phase = .deleting → code = 1) :
    phase.next (.answered code) = some phase := by
  cases phase with
  | deleting => simp [next, failing rfl]
  | alive calls => cases calls <;> rfl
  | _ => rfl

theorem next_astray {phase : Phase} {visit : Visit} (known : phase = .astray) :
    phase.next visit = some .astray := by
  subst known
  cases visit <;> rfl

theorem called_of_next_astray {phase : Phase} {visit : Visit}
    (stepped : phase.next visit = some .astray) (known : phase ≠ .astray) :
    visit = .called ∧ ¬ phase.Callable := by
  unfold next at stepped
  split at stepped
  case h_1 granted => cases granted <;> cases stepped
  case h_13 code => split at stepped <;> cases stepped
  all_goals cases stepped
  · exact absurd rfl known
  · cases phase <;> simp_all [Callable]
  · exact absurd rfl known

/-- The stages are passed through one after the other. -/
theorem stage_next {phase later : Phase} {visit : Visit} (stepped : phase.next visit = some later)
    (known : later ≠ .astray) :
    later.stage = (visit.stage?).getD phase.stage ∧
      ∀ stage, visit.stage? = some stage → stage = phase.stage + 1 := by
  unfold next at stepped
  split at stepped
  case h_1 granted =>
    cases granted <;> cases stepped <;> simp [stage, Visit.stage?]
  case h_13 code =>
    split at stepped <;> cases stepped
    simp [stage, Visit.stage?]
  all_goals cases stepped
  all_goals first | exact absurd rfl known | simp [stage, Visit.stage?]

def follow (interp : InterpId) (phase : Phase) (entry : InterpId × Visit) : Option Phase :=
  if entry.1 = interp then phase.next entry.2 else some phase

theorem follow_self (interp : InterpId) (phase : Phase) (visit : Visit) :
    phase.follow interp (interp, visit) = phase.next visit :=
  if_pos rfl

theorem follow_of_ne {interp other : InterpId} (different : other ≠ interp) (phase : Phase)
    (visit : Visit) : phase.follow interp (other, visit) = some phase :=
  if_neg different

/-- An interpreter takes no notice of what is done with others, nor of anything once it is
astray. -/
theorem follow_aloof {interp other : InterpId} {phase : Phase}
    (aloof : other = interp → phase = .astray) (visit : Visit) :
    phase.follow interp (other, visit) = some phase := by
  by_cases own : other = interp
  · subst own
    rw [aloof rfl, follow_self]
    cases visit <;> rfl
  · exact follow_of_ne own phase visit

theorem exists_follow_called (interp other : InterpId) (phase : Phase) :
    ∃ later, phase.follow interp (other, .called) = some later ∧ phase.Yields later ∧
      (other = interp → later.Callable) ∧ (later = phase ∨ later = .astray) := by
  by_cases own : other = interp
  · subst own
    obtain ⟨later, called, yields, callable, same⟩ := phase.exists_next_called
    exact ⟨later, (follow_self ..).trans called, yields, fun _ => callable, same⟩
  · exact ⟨phase, follow_of_ne own phase _, phase.yields_refl, fun same => absurd same own, .inl rfl⟩

theorem follow_answered {interp other : InterpId} {phase : Phase} {code : Int}
    (failing : other = interp → phase = .deleting → code = 1) :
    phase.follow interp (other, .answered code) = some phase := by
  by_cases own : other = interp
  · subst own
    exact (follow_self ..).trans (next_answered (failing rfl))
  · exact follow_of_ne own phase _

end Phase

/-! Audited libraries. -/

structure Audited (σ : Type) where
  store : σ
  visits : List (InterpId × Visit) := []

namespace Audited

def phase? (interp : InterpId) (visits : List (InterpId × Visit)) : Option Phase :=
  visits.foldlM (Phase.follow interp) .absent

theorem phase?_append (interp : InterpId) (visits more : List (InterpId × Visit)) :
    phase? interp (visits ++ more) =
      (phase? interp visits).bind fun phase => more.foldlM (Phase.follow interp) phase := by
  simp [phase?, List.foldlM_append, Option.bind_eq_bind]

theorem phase?_concat {interp : InterpId} {visits : List (InterpId × Visit)} {phase : Phase}
    (known : phase? interp visits = some phase) (entry : InterpId × Visit) :
    phase? interp (visits ++ [entry]) = phase.follow interp entry := by
  simp [phase?_append, known]

theorem phase?_of_stable {interp : InterpId} {visits more : List (InterpId × Visit)} {phase : Phase}
    (known : phase? interp visits = some phase)
    (stable : ∀ entry ∈ more, phase.follow interp entry = some phase) :
    phase? interp (visits ++ more) = some phase := by
  rw [phase?_append, known, Option.bind_some]
  induction more with
  | nil => rfl
  | cons entry rest ih =>
      rw [List.foldlM_cons, stable entry (by simp)]
      exact ih fun other member => stable other (by simp [member])

/-- An interpreter goes astray only by a call of the command where there is none. -/
theorem exists_called_of_astray {interp : InterpId} {visits : List (InterpId × Visit)}
    (astray : phase? interp visits = some .astray) :
    ∃ before after phase, visits = before ++ (interp, .called) :: after ∧
      phase? interp before = some phase ∧ ¬ phase.Callable := by
  induction visits using List.reverseRecOn with
  | nil => cases astray
  | append_singleton visits entry ih =>
      cases known : phase? interp visits with
      | none => simp [phase?_append, known] at astray
      | some phase =>
          by_cases lost : phase = .astray
          · obtain ⟨before, after, earlier, rfl, rest⟩ := ih (lost ▸ known)
            exact ⟨before, after ++ [entry], earlier, by simp, rest⟩
          · rw [phase?_concat known] at astray
            obtain ⟨other, visit⟩ := entry
            by_cases own : other = interp
            · subst own
              rw [Phase.follow_self] at astray
              obtain ⟨rfl, uncalled⟩ := Phase.called_of_next_astray astray lost
              exact ⟨visits, [], phase, rfl, known, uncalled⟩
            · rw [Phase.follow_of_ne own, Option.some.injEq] at astray
              exact absurd astray lost

/-- Each stage is reached by one call, made once. -/
theorem count_of_phase? {interp : InterpId} {visits : List (InterpId × Visit)} {phase : Phase}
    {visit : Visit} {stage : Nat} (known : phase? interp visits = some phase)
    (lawful : phase ≠ .astray) (staged : visit.stage? = some stage) :
    visits.count (interp, visit) = if stage ≤ phase.stage then 1 else 0 := by
  induction visits using List.reverseRecOn generalizing phase with
  | nil =>
      cases known
      have positive := Visit.stage?_pos staged
      simp [Phase.stage, Nat.not_le_of_gt positive]
  | append_singleton visits entry ih =>
      cases before : phase? interp visits with
      | none => simp [phase?_append, before] at known
      | some earlier =>
          obtain ⟨other, latest⟩ := entry
          rw [phase?_concat before] at known
          rw [List.count_append, List.count_singleton]
          by_cases own : other = interp
          · subst own
            rw [Phase.follow_self] at known
            have usual : earlier ≠ .astray := by
              rintro rfl
              rw [Phase.next_astray rfl, Option.some.injEq] at known
              exact lawful known.symm
            obtain ⟨reached, onward⟩ := Phase.stage_next known lawful
            rw [ih before usual]
            by_cases same : latest = visit
            · subst same
              have next := onward stage staged
              simp [reached, staged, next]
            · have passed : stage ≤ phase.stage ↔ stage ≤ earlier.stage := by
                rw [reached]
                cases other : latest.stage? with
                | none => rfl
                | some step =>
                    have next := onward step other
                    have different : stage ≠ step := by
                      rintro rfl
                      exact same (Visit.stage?_injective staged other)
                    rw [Option.getD_some]
                    omega
              simp [passed, same]
          · rw [Phase.follow_of_ne own, Option.some.injEq] at known
            subst known
            rw [ih before lawful]
            simp [own]

def change (interp : InterpId) (visit : Visit) (call : σ → σ) (audited : Audited σ) :
    Audited σ where
  store := call audited.store
  visits := audited.visits ++ [(interp, visit)]

def act (interp : InterpId) (visit : α → Visit) (call : σ → α × σ) (audited : Audited σ) :
    α × Audited σ :=
  ((call audited.store).1, ⟨(call audited.store).2,
    audited.visits ++ [(interp, visit (call audited.store).1)]⟩)

def aside (call : σ → α × σ) (audited : Audited σ) : α × Audited σ :=
  ((call audited.store).1, { audited with store := (call audited.store).2 })

end Audited

def Reaction.audited (entered : InterpId) (left : Visit) :
    Reaction σ → List (InterpId × Visit) → Reaction (Audited σ)
  | .finished code store, visits => .finished code ⟨store, visits ++ [(entered, left)]⟩
  | .callback interp words store resume, visits =>
      .callback interp words ⟨store, visits ++ [(interp, .called)]⟩ fun code later =>
        (resume code later.store).audited entered left
          (later.visits ++ [(interp, .answered code)])

def Engine.audited (engine : Engine σ) : Engine (Audited σ) where
  create interp := Audited.act interp .create (engine.create interp)
  init interp := Audited.act interp (fun _ => .init) (engine.init interp)
  preserve interp := Audited.change interp .preserve (engine.preserve interp)
  release interp := Audited.change interp .release (engine.release interp)
  createCommand interp name := Audited.change interp .command (engine.createCommand interp name)
  evaluate interp script audited :=
    (engine.evaluate interp script audited.store).audited interp .leave
      (audited.visits ++ [(interp, .enter)])
  makeSafe interp audited :=
    (engine.makeSafe interp audited.store).audited interp .leave
      (audited.visits ++ [(interp, .enter)])
  delete interp audited :=
    (engine.delete interp audited.store).audited interp .deleted
      (audited.visits ++ [(interp, .delete)])
  newObj := Audited.aside engine.newObj
  newString text := Audited.aside (engine.newString text)
  increment object audited := { audited with store := engine.increment object audited.store }
  decrement object audited := { audited with store := engine.decrement object audited.store }
  append interp list element :=
    Audited.act interp (fun _ => .use) (engine.append interp list element)
  elements interp object := Audited.act interp (fun _ => .use) (engine.elements interp object)
  bytes object := Audited.aside (engine.bytes object)
  result interp := Audited.act interp (fun _ => .use) (engine.result interp)
  setResult interp object := Audited.change interp .setResult (engine.setResult interp object)

def Setup.audited (setup : Setup σ H N) : Setup (Audited σ) H N :=
  setup.withEngine setup.engine.audited

/-! Auditing changes nothing. -/

theorem Reaction.mirrors_audited (reaction : Reaction σ) (entered : InterpId) (left : Visit)
    (visits : List (InterpId × Visit)) :
    (reaction.audited entered left visits).Mirrors Audited.store reaction := by
  induction reaction generalizing visits with
  | finished code store => exact ⟨rfl, rfl⟩
  | callback interp words store resume ih =>
      exact ⟨rfl, rfl, rfl, fun code later => ih code later.store _⟩

theorem Engine.mirrors_audited (engine : Engine σ) :
    engine.audited.Mirrors Audited.store engine := by
  constructor <;> intros <;> first | rfl | exact Reaction.mirrors_audited _ _ _ _

/-! Calls that cannot call back. -/

namespace Call

def Visits (interp : InterpId) (visit : Visit) (call : Call (Audited σ) N α) : Prop :=
  ∀ scene, ∃ more, (call.run scene).2.store.visits = scene.store.visits ++ more ∧
    ∀ entry ∈ more, entry = (interp, visit)

variable {interp : InterpId} {visit : Visit}

theorem visits_of_same {call : Call (Audited σ) N α}
    (same : ∀ scene, (call.run scene).2.store.visits = scene.store.visits) :
    call.Visits interp visit :=
  fun scene => ⟨[], by simp [same], by simp⟩

theorem visits_of_one {call : Call (Audited σ) N α}
    (one : ∀ scene, (call.run scene).2.store.visits = scene.store.visits ++ [(interp, visit)]) :
    call.Visits interp visit :=
  fun scene => ⟨_, one scene, by simp⟩

theorem Visits.bind {call : Call (Audited σ) N α} {next : α → Call (Audited σ) N β}
    (first : call.Visits interp visit) (rest : ∀ answer, (next answer).Visits interp visit) :
    (call >>= next).Visits interp visit := by
  intro scene
  obtain ⟨earlier, grown, only⟩ := first scene
  obtain ⟨later, grownOn, onlyOn⟩ := rest (call.run scene).1 (call.run scene).2
  refine ⟨earlier ++ later, ?_, ?_⟩
  · rw [← List.append_assoc, ← grown]
    exact grownOn
  · intro entry member
    rcases List.mem_append.mp member with old | new
    · exact only entry old
    · exact onlyOn entry new

theorem visits_pure (answer : α) : (pure answer : Call (Audited σ) N α).Visits interp visit :=
  visits_of_same fun _ => rfl

theorem visits_emit (event : Event N) :
    (emit event : Call (Audited σ) N Unit).Visits interp visit :=
  visits_of_same fun _ => rfl

theorem visits_mapM {items : List α} {body : α → Call (Audited σ) N β}
    (each : ∀ item, (body item).Visits interp visit) : (items.mapM body).Visits interp visit := by
  induction items with
  | nil => exact visits_pure []
  | cons item rest ih =>
      rw [List.mapM_cons]
      exact (each item).bind fun _ => ih.bind fun _ => visits_pure _

theorem visits_forM {items : List α} {body : α → Call (Audited σ) N PUnit}
    (each : ∀ item, (body item).Visits interp visit) : (items.forM body).Visits interp visit := by
  induction items with
  | nil => exact visits_pure _
  | cons item rest ih => exact (each item).bind fun _ => ih

variable (engine : Engine σ)

theorem visits_newText (text : String) :
    (newText engine.audited text : Call (Audited σ) N Obj).Visits interp visit :=
  visits_of_same fun _ => rfl

theorem visits_text (object : Option Obj) :
    (text engine.audited object : Call (Audited σ) N String).Visits interp visit :=
  visits_of_same fun _ => rfl

theorem visits_withReference (object : Option Obj) {body : Call (Audited σ) N α}
    (inside : body.Visits interp visit) :
    (withReference engine.audited object body).Visits interp visit := by
  cases object with
  | none => exact inside
  | some object =>
      refine Visits.bind (visits_of_same fun _ => rfl) fun _ => inside.bind fun answer => ?_
      exact Visits.bind (visits_of_same fun _ => rfl) fun _ => visits_pure answer

theorem visits_result : (result engine.audited interp : Call (Audited σ) N String).Visits interp
    .use := by
  refine Visits.bind (visits_of_one fun _ => rfl) fun object => ?_
  refine (visits_emit _).bind fun _ => ?_
  cases object with
  | none => exact visits_pure _
  | some object => exact visits_text engine _

theorem visits_setResult (text : String) :
    (setResult engine.audited interp text : Call (Audited σ) N Unit).Visits interp .setResult := by
  refine (visits_newText engine text).bind fun object => ?_
  exact Visits.bind (visits_of_one fun _ => rfl) fun _ => visits_emit _

theorem visits_append (list : Option Obj) (element : Obj) :
    (append engine.audited interp list element : Call (Audited σ) N Int).Visits interp .use :=
  Visits.bind (visits_of_one fun _ => rfl) fun _ => (visits_emit _).bind fun _ => visits_pure _

theorem visits_quoteList (words : List String) :
    (quoteList engine.audited interp words : Call (Audited σ) N String).Visits interp .use := by
  refine Visits.bind (visits_of_same fun _ => rfl) fun list => ?_
  refine visits_withReference engine list (Visits.bind (visits_forM fun word => ?_) fun _ =>
    visits_text engine list)
  refine (visits_newText engine word).bind fun element => visits_withReference engine _ ?_
  exact (visits_append engine list element).bind fun _ => visits_pure _

theorem visits_splitList (list : String) :
    (splitList engine.audited interp list : Call (Audited σ) N (Option (List String))).Visits
      interp .use := by
  refine (visits_newText engine list).bind fun object => visits_withReference engine _ ?_
  have asked : (elements engine.audited interp object : Call (Audited σ) N _).Visits interp .use :=
    Visits.bind (visits_of_one fun _ => rfl) fun _ => (visits_emit _).bind fun _ => visits_pure _
  refine asked.bind fun items => ?_
  cases items with
  | none => exact visits_pure _
  | some items =>
      refine Visits.bind (visits_mapM fun item => ?_) fun _ => visits_pure _
      exact visits_withReference engine _ (visits_text engine _)

end Call

end TclHost
