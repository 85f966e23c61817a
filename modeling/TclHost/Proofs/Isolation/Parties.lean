import Mathlib.Data.List.Forall2
import TclHost.Proofs.Run.Request

/-!
Two parties in one process, ours and theirs, and beside it a process that ours has for itself. A
session of ours goes by one number here and by another one there, as interpreters are numbered in
the order in which they are asked for.
-/

namespace TclHost

variable {σ H N κ δ : Type}

/-- The sessions of either party, ours (`true`) with the numbers that they have in the process of
our own, and those of the others by themselves. -/
abbrev Roster := Bool → SessionId → SessionId → Prop

namespace Roster

structure Sound (roster : Roster) : Prop where
  matched : ∀ {session counterpart other another : SessionId}, roster true session counterpart →
    roster true other another → (session = other ↔ counterpart = another)
  apart : ∀ {session counterpart another : SessionId}, roster true session counterpart →
    ¬ roster false session another
  alone : ∀ {session another : SessionId}, roster false session another → another = session

def Grows (roster later : Roster) : Prop :=
  ∀ ⦃ours : Bool⦄ ⦃session counterpart : SessionId⦄, roster ours session counterpart →
    later ours session counterpart

def add (roster : Roster) (ours : Bool) (session counterpart : SessionId) : Roster :=
  fun party other another => roster party other another ∨
    (party = ours ∧ other = session ∧ another = counterpart)

theorem Grows.refl (roster : Roster) : roster.Grows roster :=
  fun _ _ _ meets => meets

theorem Grows.trans {roster later last : Roster} (first : roster.Grows later)
    (second : later.Grows last) : roster.Grows last :=
  fun _ _ _ meets => second (first meets)

theorem grows_add (roster : Roster) (ours : Bool) (session counterpart : SessionId) :
    roster.Grows (roster.add ours session counterpart) :=
  fun _ _ _ => Or.inl

theorem add_self (roster : Roster) (ours : Bool) (session counterpart : SessionId) :
    roster.add ours session counterpart ours session counterpart :=
  .inr ⟨rfl, rfl, rfl⟩

/-- A session whose number no other one has. -/
theorem Sound.add {roster : Roster} (sound : roster.Sound) {ours : Bool}
    {session counterpart : SessionId} (alone : ours = false → counterpart = session)
    (fresh : ∀ {party : Bool} {first second : SessionId}, roster party first second →
      first ≠ session ∧ (ours = true → party = true → second ≠ counterpart)) :
    (roster.add ours session counterpart).Sound := by
  constructor
  · rintro first second another last (known | ⟨rfl, rfl, rfl⟩) (other | ⟨mine, rfl, rfl⟩)
    · exact sound.matched known other
    · exact iff_of_false (fresh known).1 ((fresh known).2 mine.symm rfl)
    · exact iff_of_false (fresh other).1.symm ((fresh other).2 rfl rfl).symm
    · exact iff_of_true rfl rfl
  · rintro first second another (known | ⟨rfl, rfl, rfl⟩) (other | ⟨mine, same, _⟩)
    · exact sound.apart known other
    · exact (fresh known).1 same
    · exact (fresh other).1 rfl
    · cases mine
  · rintro first second (known | ⟨rfl, rfl, rfl⟩)
    · exact sound.alone known
    · exact alone rfl

end Roster

/-- Where a program runs: it is the outermost one, which may work for both and has kept handles for
either, or it answers a command for one party while another program waits. -/
inductive Place where
  | outermost (keepers : List Bool)
  | inside (ours : Bool) (outer : Place)

namespace Place

def Serves (ours : Bool) : Place → Prop
  | outermost _ => True
  | inside party _ => party = ours

def keep (ours : Bool) : Place → Place
  | outermost keepers => outermost (ours :: keepers)
  | inside party outer => inside party outer

theorem serves_keep {ours : Bool} {place : Place} :
    (place.keep ours).Serves ours ↔ place.Serves ours := by
  cases place <;> rfl

end Place

inductive Keeps (roster : Roster) : List Bool → List SessionId → List SessionId → Prop
  | nil : Keeps roster [] [] []
  | ours {keepers : List Bool} {kept others : List SessionId} {session counterpart : SessionId}
      (meets : roster true session counterpart) (rest : Keeps roster keepers kept others) :
      Keeps roster (true :: keepers) (session :: kept) (counterpart :: others)
  | theirs {keepers : List Bool} {kept others : List SessionId} {session counterpart : SessionId}
      (meets : roster false session counterpart) (rest : Keeps roster keepers kept others) :
      Keeps roster (false :: keepers) (session :: kept) others

inductive Stacked (roster : Roster) : Place → List Frame → List Frame → Prop
  | outermost {keepers : List Bool} {kept others : List SessionId}
      (keeps : Keeps roster keepers kept others) :
      Stacked roster (.outermost keepers) [⟨none, kept⟩] [⟨none, others⟩]
  | ours {place : Place} {frames others : List Frame} {session counterpart : SessionId}
      {kept counterparts : List SessionId} (caller : roster true session counterpart)
      (keeps : List.Forall₂ (roster true) kept counterparts)
      (outer : Stacked roster place frames others) :
      Stacked roster (.inside true place) (⟨some session, kept⟩ :: frames)
        (⟨some counterpart, counterparts⟩ :: others)
  | theirs {place : Place} {frames others : List Frame} {session counterpart : SessionId}
      {kept : List SessionId} (caller : roster false session counterpart)
      (keeps : ∀ other ∈ kept, ∃ another, roster false other another)
      (outer : Stacked roster place frames others) :
      Stacked roster (.inside false place) (⟨some session, kept⟩ :: frames) others

inductive Lies (roster : Roster) (ours : Bool) (session : κ → SessionId) (rest : κ → δ) :
    Option κ → Option κ → Prop
  | nothing : Lies roster ours session rest none none
  | ours {handle counterpart : κ} (mine : ours = true)
      (meets : roster true (session handle) (session counterpart))
      (same : rest handle = rest counterpart) :
      Lies roster ours session rest (some handle) (some counterpart)
  | theirs {handle : κ} {counterpart : SessionId} (others : ours = false)
      (meets : roster false (session handle) counterpart) :
      Lies roster ours session rest (some handle) none

/-- Two parties that share a process: whose handlers and whose names are whose, and what it means
that their interpreters are where they would be without the other ones. Of the library that the
process finds, `found`, it matters only that the requests of ours would find it too. -/
structure Parties (σ H N : Type) where
  setup : Setup σ H N
  handler : H → Bool
  name : String → Bool
  like : Roster → σ → σ → Prop
  asks : Config → Prop
  found : Option (Except LoadError String)

structure CommandTable.Within (owned : H → Prop) (table : CommandTable H) : Prop where
  handlers : ∀ name handler, table.get? name = some handler → owned handler
  receiver : ∀ handler, table.receiver = some handler → owned handler

namespace Parties

def Filed (parties : Parties σ H N) (roster : Roster) (session : κ → SessionId) (rest : κ → δ)
    (map other : Std.TreeMap String κ) : Prop :=
  ∀ name : String, Lies roster (parties.name name) session rest map[name]? other[name]?

structure Alike (parties : Parties σ H N) (roster : Roster) (place : Place)
    (world other : World σ H N) : Prop where
  sound : roster.Sound
  known : ∀ {ours : Bool} {session counterpart : SessionId}, roster ours session counterpart →
    session < world.created ∧ (ours = true → counterpart < other.created)
  unborn : (∀ session : SessionId, world.created ≤ session → world.sessions[session]? = none) ∧
    ∀ session : SessionId, other.created ≤ session → other.sessions[session]? = none
  like : parties.like roster world.scene.store other.scene.store
  sessions : ∀ {session counterpart : SessionId}, roster true session counterpart →
    world.sessions[session]? = other.sessions[counterpart]?
  commands : ∀ {ours : Bool} {session counterpart : SessionId} {state : Session H},
    roster ours session counterpart → world.sessions[session]? = some state →
      state.commands.Within (parties.handler · = ours)
  interps : parties.Filed roster id (fun _ => ()) world.desk.interps other.desk.interps
  procs : parties.Filed roster Proc.session Proc.name world.desk.procs other.desk.procs
  vars : parties.Filed roster Var.session (fun var => (var.name, var.kind)) world.desk.vars
    other.desk.vars
  frames : Stacked roster place world.frames other.frames
  finds : ∀ config outcome, parties.asks config → parties.found = some outcome →
    (other.library.load parties.setup.libraries config).1 = outcome

def Loads (parties : Parties σ H N) (world : World σ H N) : Prop :=
  ∀ outcome, world.library.outcome = some outcome → parties.found = some outcome

end Parties

/-! A roster that grows. -/

section Growing

variable {roster later : Roster} (growing : roster.Grows later)
include growing

theorem Keeps.grows {keepers : List Bool} {kept others : List SessionId}
    (keeps : Keeps roster keepers kept others) : Keeps later keepers kept others := by
  induction keeps with
  | nil => exact .nil
  | ours meets _ ih => exact .ours (growing meets) ih
  | theirs meets _ ih => exact .theirs (growing meets) ih

theorem Stacked.grows {place : Place} {frames others : List Frame}
    (stacked : Stacked roster place frames others) : Stacked later place frames others := by
  induction stacked with
  | outermost keeps => exact .outermost (keeps.grows growing)
  | ours caller keeps _ ih => exact .ours (growing caller) (keeps.imp fun _ _ meets => growing meets) ih
  | theirs caller keeps _ ih =>
      refine .theirs (growing caller) (fun other member => ?_) ih
      obtain ⟨another, meets⟩ := keeps other member
      exact ⟨another, growing meets⟩

theorem Lies.grows {ours : Bool} {session : κ → SessionId} {rest : κ → δ} {handle other : Option κ}
    (lies : Lies roster ours session rest handle other) :
    Lies later ours session rest handle other := by
  cases lies with
  | nothing => exact .nothing
  | ours mine meets same => exact .ours mine (growing meets) same
  | theirs others meets => exact .theirs others (growing meets)

end Growing

theorem Lies.nothing_of_theirs {roster : Roster} {session : κ → SessionId} {rest : κ → δ}
    {handle other : Option κ} (lies : Lies roster false session rest handle other) :
    other = none := by
  cases lies with
  | nothing | theirs => rfl
  | ours mine => cases mine

/-! Who holds a session of ours. -/

section Holds

variable {roster : Roster} (sound : roster.Sound) {session counterpart : SessionId}
  (meets : roster true session counterpart)
include sound meets

theorem Roster.Sound.ne_of_theirs {other another : SessionId} (theirs : roster false other another) :
    other ≠ session := by
  rintro rfl
  exact sound.apart meets theirs

theorem Keeps.mem_iff {keepers : List Bool} {kept others : List SessionId}
    (keeps : Keeps roster keepers kept others) : session ∈ kept ↔ counterpart ∈ others := by
  induction keeps with
  | nil => simp
  | ours first _ ih => rw [List.mem_cons, List.mem_cons, ih, sound.matched meets first]
  | theirs first _ ih =>
      rw [List.mem_cons, ih]
      exact or_iff_right (sound.ne_of_theirs meets first).symm

theorem mem_iff_of_forall₂ {kept others : List SessionId}
    (keeps : List.Forall₂ (roster true) kept others) :
    session ∈ kept ↔ counterpart ∈ others := by
  induction keeps with
  | nil => simp
  | cons first _ ih => rw [List.mem_cons, List.mem_cons, ih, sound.matched meets first]

theorem Stacked.any_holds {place : Place} {frames others : List Frame}
    (stacked : Stacked roster place frames others) :
    frames.any (·.holds session) = others.any (·.holds counterpart) := by
  induction stacked with
  | outermost keeps =>
      rw [Bool.eq_iff_iff]
      simp [Frame.holds, keeps.mem_iff sound meets]
  | ours caller keeps _ ih =>
      rw [List.any_cons, List.any_cons, ih, Bool.eq_iff_iff]
      simp [Frame.holds, mem_iff_of_forall₂ sound meets keeps, sound.matched caller meets]
  | theirs caller keeps _ ih =>
      rw [List.any_cons, ih]
      have other : ¬ session ∈ _ := fun member => by
        obtain ⟨another, theirs⟩ := keeps session member
        exact sound.apart meets theirs
      simp [Frame.holds, other, sound.ne_of_theirs meets caller]

/-- The innermost program holds what it holds there, if it works for us. -/
theorem Stacked.mayUse {place : Place} {world other : World σ H N} (serves : place.Serves true)
    (stacked : Stacked roster place world.frames other.frames) :
    world.mayUse session = other.mayUse counterpart := by
  unfold World.mayUse
  generalize world.frames = frames at stacked
  generalize other.frames = others at stacked
  cases stacked with
  | outermost keeps =>
      rw [Bool.eq_iff_iff]
      simp [Frame.holds, keeps.mem_iff sound meets]
  | ours caller keeps _ =>
      rw [Bool.eq_iff_iff]
      simp [Frame.holds, mem_iff_of_forall₂ sound meets keeps, sound.matched caller meets]
  | theirs => cases serves

theorem Parties.Filed.exists_iff {parties : Parties σ H N} {session' : κ → SessionId} {rest : κ → δ}
    {map other : Std.TreeMap String κ} (filed : parties.Filed roster session' rest map other) :
    (∃ name : String, ∃ handle, map[name]? = some handle ∧ session' handle = session) ↔
      ∃ name : String, ∃ handle, other[name]? = some handle ∧ session' handle = counterpart := by
  constructor
  · rintro ⟨name, handle, found, same⟩
    have lies := filed name
    rw [found] at lies
    generalize there : other[name]? = entry at lies
    cases lies with
    | ours _ known _ =>
        refine ⟨name, _, there, ?_⟩
        exact (sound.matched known meets).mp same
    | theirs _ known => exact absurd same (sound.ne_of_theirs meets known)
  · rintro ⟨name, handle, found, same⟩
    have lies := filed name
    rw [found] at lies
    generalize here : map[name]? = entry at lies
    cases lies with
    | ours _ known _ =>
        refine ⟨name, _, here, ?_⟩
        exact (sound.matched known meets).mpr same

end Holds

end TclHost
