import TclHost.Proofs.Isolation.Separate

/-!
A part of a run that does something for one party, and the same part of a run in a process of our
own, which is left out there if it is not ours.
-/

namespace TclHost

open Process World

variable {σ H N α β γ δ : Type}

namespace Parties

def Alongside (ours : Bool) (own : Run σ H N α) (other : World σ H N) (answer : α)
    (there : World σ H N) : Prop :=
  cond ours (own.exec other = .ok answer there) (there = other)

/-- Whenever the run returns, with the library that was to be found, so does our own, and the two
processes are alike again. -/
def Tracks (parties : Parties σ H N) (ours : Bool) (roster : Roster) (next : α → Place)
    (related : Roster → α → β → Prop) (run : Run σ H N α) (own : Run σ H N β)
    (world other : World σ H N) : Prop :=
  ∀ answer later, run.exec world = .ok answer later → run.Stays parties.Loads world →
    ∃ grown counterpart there, roster.Grows grown ∧ Alongside ours own other counterpart there ∧
      parties.Alike grown (next answer) later there ∧ related grown answer counterpart

def Same (_ : Roster) (answer counterpart : α) : Prop :=
  answer = counterpart

variable {parties : Parties σ H N} {ours : Bool} {roster : Roster} {place : Place}
  {world other : World σ H N} {session counterpart : SessionId}

theorem tracks_pure {next : α → Place} {related : Roster → α → β → Prop} {answer : α} {own : β}
    (alike : parties.Alike roster (next answer) world other) (agree : related roster answer own) :
    parties.Tracks ours roster next related (pure answer) (pure own) world other := by
  intro returned later ends _
  cases ends
  refine ⟨roster, own, other, .refl roster, ?_, alike, agree⟩
  cases ours <;> rfl

theorem tracks_stop {next : α → Place} {related : Roster → α → β → Prop} {own : Run σ H N β}
    (cause : Halt) : parties.Tracks ours roster next related (Run.stop cause) own world other :=
  fun _ _ ends _ => nomatch ends

theorem Tracks.bind {next : α → Place} {related : Roster → α → β → Prop} {run : Run σ H N α}
    {own : Run σ H N β} {last : γ → Place} {relating : Roster → γ → δ → Prop}
    {rest : α → Run σ H N γ} {remaining : β → Run σ H N δ}
    (tracks : parties.Tracks ours roster next related run own world other)
    (onward : ∀ grown answer mine later there, roster.Grows grown →
      parties.Alike grown (next answer) later there → related grown answer mine →
      parties.Tracks ours grown last relating (rest answer) (remaining mine) later there) :
    parties.Tracks ours roster last relating (run >>= rest) (own >>= remaining) world other := by
  intro result final ends stays
  obtain ⟨answer, later, ran, ends⟩ := exec_bind_ok.mp ends
  obtain ⟨grown, mine, there, grows, beside, alike, agree⟩ := tracks answer later ran stays.first
  obtain ⟨last, other, final', growsOn, besideOn, alikeOn, agreeOn⟩ :=
    onward grown answer mine later there grows alike agree result final ends (stays.rest ran)
  refine ⟨last, other, final', grows.trans growsOn, ?_, alikeOn, agreeOn⟩
  cases ours with
  | false => exact Eq.trans besideOn beside
  | true => exact exec_bind_ok.mpr ⟨mine, there, beside, besideOn⟩

theorem Tracks.discard {next : Place} {related : Roster → α → β → Prop} {run : Run σ H N α}
    {own : Run σ H N β}
    (tracks : parties.Tracks ours roster (fun _ => next) related run own world other) :
    parties.Tracks ours roster (fun _ => next) Same (discard run) (discard own) world other :=
  tracks.bind fun _ _ _ _ _ _ alike _ => tracks_pure alike rfl

section Steps

variable {next : α → Place} {related : Roster → α → β → Prop}

theorem tracks_get_bind {rest : World σ H N → Run σ H N α} {remaining : World σ H N → Run σ H N β}
    (onward : parties.Tracks ours roster next related (rest world) (remaining other) world other) :
    parties.Tracks ours roster next related (get >>= rest) (get >>= remaining) world other :=
  fun answer later ran stays => onward answer later ran (stays_step.mp stays).2

theorem tracks_store_bind {rest : σ → Run σ H N α} {remaining : σ → Run σ H N β}
    (onward : parties.Tracks ours roster next related (rest world.scene.store)
      (remaining other.scene.store) world other) :
    parties.Tracks ours roster next related (Run.store >>= rest) (Run.store >>= remaining) world
      other :=
  fun answer later ran stays => onward answer later ran (stays_step.mp stays).2

/-- Our own process makes the change if it is ours, and stays as it is if not. -/
theorem tracks_modify_bind {change mine : World σ H N → World σ H N}
    {rest : PUnit → Run σ H N α} {remaining : PUnit → Run σ H N β}
    (onward : parties.Tracks ours roster next related (rest ⟨⟩) (remaining ⟨⟩) (change world)
      (cond ours (mine other) other)) :
    parties.Tracks ours roster next related (modify change >>= rest) (modify mine >>= remaining)
      world other := by
  intro answer later ran stays
  cases ours <;> exact onward answer later ran (stays_step.mp stays).2

theorem tracks_modify {change mine : World σ H N → World σ H N}
    (alike : parties.Alike roster place (change world) (cond ours (mine other) other)) :
    parties.Tracks ours roster (fun _ => place) Same (modify change) (modify mine) world other := by
  rintro answer later ⟨⟩ _
  refine ⟨roster, ⟨⟩, _, .refl roster, ?_, alike, rfl⟩
  cases ours <;> rfl

theorem tracks_set_bind {given mine : World σ H N} {rest : PUnit → Run σ H N α}
    {remaining : PUnit → Run σ H N β}
    (onward : parties.Tracks ours roster next related (rest ⟨⟩) (remaining ⟨⟩) given
      (cond ours mine other)) :
    parties.Tracks ours roster next related (set given >>= rest) (set mine >>= remaining) world
      other := by
  intro answer later ran stays
  cases ours <;> exact onward answer later ran (stays_step.mp stays).2

theorem tracks_setStore_bind {store there : σ} {rest : PUnit → Run σ H N α}
    {remaining : PUnit → Run σ H N β}
    (onward : parties.Tracks ours roster next related (rest ⟨⟩) (remaining ⟨⟩)
      { world with scene := { world.scene with store } }
      (cond ours { other with scene := { other.scene with store := there } } other)) :
    parties.Tracks ours roster next related (Run.setStore store >>= rest)
      (Run.setStore there >>= remaining) world other := by
  intro answer later ran stays
  cases ours <;> exact onward answer later ran (stays_step.mp stays).2

theorem tracks_emit_bind {event another : Event N} {rest : Unit → Run σ H N α}
    {remaining : Unit → Run σ H N β}
    (onward : parties.Tracks ours roster next related (rest ()) (remaining ()) (world.push event)
      (cond ours (other.push another) other)) :
    parties.Tracks ours roster next related (Run.emit event >>= rest)
      (Run.emit another >>= remaining) world other := by
  intro answer later ran stays
  cases ours <;> exact onward answer later ran (stays_step.mp stays).2

theorem tracks_of_loads {run : Run σ H N α} {own : Run σ H N β}
    (tracks : parties.Loads world → parties.Tracks ours roster next related run own world other) :
    parties.Tracks ours roster next related run own world other :=
  fun answer later ran stays => tracks stays.here answer later ran stays

/-- What ours would do does not matter when the others are at work. -/
theorem tracks_theirs {run : Run σ H N α} (own : Run σ H N β) {another : Run σ H N β}
    (tracks : parties.Tracks false roster next related run own world other) :
    parties.Tracks false roster next related run another world other :=
  tracks

/-- Our own process takes the same way if it is ours. -/
theorem tracks_ite {test there : Bool} {run rest : Run σ H N α} {own remaining : Run σ H N β}
    (same : ours = true → there = test)
    (goes : parties.Tracks ours roster next related run own world other)
    (stays : parties.Tracks ours roster next related rest remaining world other) :
    parties.Tracks ours roster next related (if test then run else rest)
      (if there then own else remaining) world other := by
  cases ours with
  | true =>
      obtain rfl := same rfl
      cases there with
      | true => exact goes
      | false => exact stays
  | false =>
      cases test with
      | true => exact tracks_theirs own goes
      | false => exact tracks_theirs remaining stays

end Steps

theorem tracks_call {call another : Call σ N α} (alike : parties.Alike roster place world other)
    (parted : Call.Parted parties.like ours roster call another world.scene.store
      other.scene.store) :
    parties.Tracks ours roster (fun _ => place) Same (Run.call call) (Run.call another) world
      other := by
  intro answer later ran _
  obtain ⟨rfl, rfl⟩ := Run.exec_call_ok.mp ran
  obtain ⟨same, like⟩ := parted world.scene.events other.scene.events
  cases ours with
  | false =>
      exact ⟨roster, _, other, .refl roster, rfl, alike.scenes _ other.scene like, rfl⟩
  | true =>
      exact ⟨roster, _, _, .refl roster, rfl, alike.scenes _ _ like, same rfl⟩

theorem tracks_emit (alike : parties.Alike roster place world other) (event another : Event N) :
    parties.Tracks ours roster (fun _ => place) Same (Run.emit event) (Run.emit another) world
      other := by
  intro answer later ran _
  obtain ⟨rfl, rfl⟩ := Run.exec_call_ok.mp ran
  have pushed := alike.push ours event another
  cases ours with
  | false => exact ⟨roster, _, _, .refl roster, rfl, pushed, rfl⟩
  | true => exact ⟨roster, _, _, .refl roster, rfl, pushed, rfl⟩

/-- A session is there for us just if it is there, and what it says is the same. -/
theorem tracks_held (alike : parties.Alike roster place world other)
    (meets : roster ours session counterpart) (serves : place.Serves ours) :
    parties.Tracks ours roster (fun _ => place) Same (Run.held session) (Run.held counterpart) world
      other := by
  intro state later ran _
  obtain ⟨rfl, present, usable⟩ := Run.exec_held_ok.mp ran
  refine ⟨roster, state, other, .refl roster, ?_, alike, rfl⟩
  cases ours with
  | false => rfl
  | true =>
      have usableThere := (alike.frames.mayUse alike.sound meets serves).symm.trans usable
      exact Run.exec_held_ok.mpr ⟨rfl, (alike.sessions meets).symm.trans present, usableThere⟩

theorem tracks_using {next : α → Place} {related : Roster → α → β → Prop} {run : Run σ H N α}
    {own : Run σ H N β} (alike : parties.Alike roster place world other)
    (meets : roster ours session counterpart) (serves : place.Serves ours)
    (onward : ∀ {grown : Roster} {later there : World σ H N}, roster.Grows grown →
      parties.Alike grown place later there →
      parties.Tracks ours grown next related run own later there) :
    parties.Tracks ours roster next related (discard (Run.held session) >>= fun _ => run)
      (discard (Run.held counterpart) >>= fun _ => own) world other :=
  (tracks_held alike meets serves).discard.bind fun _ _ _ _ _ grows alikeOn _ =>
    onward grows alikeOn

/-! Attempts. -/

theorem tracks_attempt {attempt own : ExceptT Error (Run σ H N) α}
    {rest remaining : α → ExceptT Error (Run σ H N) β}
    (tracks : parties.Tracks ours roster (fun _ => place) Same attempt.run own.run world other)
    (onward : ∀ grown answer later there, roster.Grows grown →
      parties.Alike grown place later there →
      parties.Tracks ours grown (fun _ => place) Same (rest answer).run (remaining answer).run later
        there) :
    parties.Tracks ours roster (fun _ => place) Same (attempt >>= rest).run
      (own >>= remaining).run world other := by
  rw [ExceptT.run_bind, ExceptT.run_bind]
  refine tracks.bind fun grown outcome mine later there grows alike same => ?_
  obtain rfl := same
  cases outcome with
  | error cause => exact tracks_pure alike rfl
  | ok answer => exact onward grown answer later there grows alike

theorem tracks_lift {run own : Run σ H N α}
    (tracks : parties.Tracks ours roster (fun _ => place) Same run own world other) :
    parties.Tracks ours roster (fun _ => place) Same
      (ExceptT.lift run : ExceptT Error (Run σ H N) α).run
      (ExceptT.lift own : ExceptT Error (Run σ H N) α).run world other := by
  refine tracks.bind fun grown answer mine later there _ alike same => ?_
  obtain rfl := same
  exact tracks_pure alike rfl

end Parties

end TclHost
