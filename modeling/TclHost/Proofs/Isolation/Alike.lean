import TclHost.Proofs.Isolation.Parties
import TclHost.Proofs.Run.Since

/-!
What the changes of a world make of a process of our own that is alike: it stays so if our sessions
change there as well, and if it is left alone where the others change theirs.
-/

namespace TclHost

open World

variable {σ H N κ δ : Type} {parties : Parties σ H N} {roster : Roster} {place : Place}
  {world other : World σ H N} {ours : Bool} {session counterpart : SessionId}

theorem World.update_eq (world : World σ H N) (session : SessionId)
    (change : Session H → Session H) : world.update session change =
      { world with sessions := (world.update session change).sessions } := by
  unfold update
  split <;> rfl

theorem CommandTable.within_empty (owned : H → Prop) : ({} : CommandTable H).Within owned :=
  ⟨fun name handler found => by simp [get?] at found, nofun⟩

theorem CommandTable.Within.insert {owned : H → Prop} {table : CommandTable H}
    (within : table.Within owned) {handler : H} (known : owned handler) (name : String) :
    (table.insert name handler).Within owned := by
  refine ⟨fun other found there => ?_, within.receiver⟩
  rw [get?_insert] at there
  split at there
  · cases there
    exact known
  · exact within.handlers other found there

theorem CommandTable.Within.erase {owned : H → Prop} {table : CommandTable H}
    (within : table.Within owned) (name : String) : (table.erase name).Within owned := by
  refine ⟨fun other found there => ?_, within.receiver⟩
  rw [get?_erase] at there
  split at there
  · cases there
  · exact within.handlers other found there

theorem CommandTable.Within.withReceiver {owned : H → Prop} {table : CommandTable H}
    (within : table.Within owned) {receiver : Option H} (known : ∀ handler ∈ receiver, owned handler) :
    (table.withReceiver receiver).Within owned :=
  ⟨within.handlers, known⟩

theorem CommandTable.Within.route {owned : H → Prop} {table : CommandTable H}
    (within : table.Within owned) {words arguments : List String} {handler : H}
    (routed : table.route words = .handler handler arguments) : owned handler := by
  cases words with
  | nil => cases routed
  | cons name rest =>
      rw [CommandTable.route] at routed
      cases named : table.get? name with
      | some found =>
          rw [named] at routed
          cases routed
          exact within.handlers name _ named
      | none =>
          rw [named] at routed
          cases received : table.receiver with
          | none =>
              rw [received] at routed
              cases routed
          | some found =>
              rw [received] at routed
              cases routed
              exact within.receiver _ received

theorem World.frames_keep {frame : Frame} {rest : List Frame} (frames : world.frames = frame :: rest)
    (session : SessionId) :
    (world.keep session).frames = { frame with kept := session :: frame.kept } :: rest := by
  simp [keep, frames]

theorem Stacked.keep (stacked : Stacked roster place world.frames other.frames)
    (meets : roster ours session counterpart) (serves : place.Serves ours) :
    Stacked roster (place.keep ours) (world.keep session).frames
      (cond ours (other.keep counterpart).frames other.frames) := by
  generalize here : world.frames = frames at stacked
  generalize there : other.frames = others at stacked
  rw [← there]
  cases stacked with
  | outermost keeps =>
      rw [World.frames_keep here]
      cases ours with
      | false =>
          rw [cond_false, there]
          exact .outermost (.theirs meets keeps)
      | true =>
          rw [cond_true, World.frames_keep there]
          exact .outermost (.ours meets keeps)
  | ours caller keeps outer =>
      obtain rfl : true = ours := serves
      rw [World.frames_keep here, cond_true, World.frames_keep there]
      exact .ours caller (.cons meets keeps) outer
  | theirs caller keeps outer =>
      obtain rfl : false = ours := serves
      rw [World.frames_keep here, cond_false, there]
      exact .theirs caller (List.forall_mem_cons.mpr ⟨⟨_, meets⟩, keeps⟩) outer

theorem Stacked.tail {frames others : List Frame}
    (stacked : Stacked roster (.inside ours place) frames others) :
    Stacked roster place frames.tail (cond ours others.tail others) := by
  cases stacked with
  | ours caller keeps outer => exact outer
  | theirs caller keeps outer => exact outer

namespace Parties

namespace Alike

variable (alike : parties.Alike roster place world other)
include alike

theorem held (meets : roster true session counterpart) :
    world.holds session = other.holds counterpart := by
  have interps := alike.interps.exists_iff alike.sound meets
  have procs := alike.procs.exists_iff alike.sound meets
  have vars := alike.vars.exists_iff alike.sound meets
  simp only [id_eq, exists_eq_right] at interps
  rw [World.holds, World.holds, alike.frames.any_holds alike.sound meets]
  congr 1
  rw [Bool.eq_iff_iff, Desk.holds_iff, Desk.holds_iff, procs, vars]
  exact or_congr_left interps

theorem depthOf (meets : roster true session counterpart) :
    world.depthOf session = other.depthOf counterpart := by
  rw [World.depthOf, World.depthOf, alike.sessions meets]

theorem contains (meets : roster true session counterpart) :
    world.sessions.contains session = other.sessions.contains counterpart := by
  rw [Std.TreeMap.contains_eq_isSome_getElem?, Std.TreeMap.contains_eq_isSome_getElem?,
    alike.sessions meets]

/-- Only the store matters of what the library was told. -/
theorem scenes (scene there : Scene σ N) (like : parties.like roster scene.store there.store) :
    parties.Alike roster place { world with scene } { other with scene := there } :=
  { alike with like }

theorem stores {store there : σ} (like : parties.like roster store there) :
    parties.Alike roster place { world with scene := { world.scene with store } }
      { other with scene := { other.scene with store := there } } :=
  { alike with like }

theorem push (ours : Bool) (event another : Event N) :
    parties.Alike roster place (world.push event) (cond ours (other.push another) other) := by
  cases ours <;> exact { alike with }

/-- The sessions of our own that are left alone are as they were, and so are all the others'. -/
theorem change {sessions there : Std.TreeMap SessionId (Session H)}
    (meets : roster ours session counterpart)
    (here : ∀ another : SessionId, session ≠ another → sessions[another]? = world.sessions[another]?)
    (beside : ∀ another : SessionId, ours = true → counterpart ≠ another →
      there[another]? = other.sessions[another]?)
    (alone : ours = false → there = other.sessions)
    (same : ours = true → sessions[session]? = there[counterpart]?)
    (within : ∀ state, sessions[session]? = some state →
      state.commands.Within (parties.handler · = ours)) :
    parties.Alike roster place { world with sessions } { other with sessions := there } := by
  obtain ⟨below, belowThere⟩ := alike.known meets
  have apart {first second : SessionId} (known : roster true first second) :
      ours = false → session ≠ first := by
    rintro rfl rfl
    exact alike.sound.apart known meets
  refine { alike with unborn := ⟨?_, ?_⟩, sessions := ?_, commands := ?_ }
  · intro another bound
    rw [here another (by rintro rfl; exact absurd below (Nat.not_lt.mpr bound))]
    exact alike.unborn.1 another bound
  · intro another bound
    cases ours with
    | false =>
        rw [alone rfl]
        exact alike.unborn.2 another bound
    | true =>
        rw [beside another rfl (by
          rintro rfl
          exact absurd (belowThere rfl) (Nat.not_lt.mpr bound))]
        exact alike.unborn.2 another bound
  · intro first second known
    cases ours with
    | false =>
        rw [here first (apart known rfl), alone rfl]
        exact alike.sessions known
    | true =>
        by_cases here' : session = first
        · subst here'
          obtain rfl := (alike.sound.matched meets known).mp rfl
          exact same rfl
        · have there' : counterpart ≠ second :=
            fun equal => here' ((alike.sound.matched meets known).mpr equal)
          rw [here first here', beside second rfl there']
          exact alike.sessions known
  · intro party first second state known present
    by_cases here' : session = first
    · subst here'
      have : party = ours := by
        cases party <;> cases ours
        · rfl
        · exact absurd known (alike.sound.apart meets)
        · exact absurd meets (alike.sound.apart known)
        · rfl
      exact this ▸ within state present
    · rw [here first here'] at present
      exact alike.commands known present

theorem update (meets : roster ours session counterpart) (change : Session H → Session H)
    (within : ∀ state, state.commands.Within (parties.handler · = ours) →
      (change state).commands.Within (parties.handler · = ours)) :
    parties.Alike roster place (world.update session change)
      (cond ours (other.update counterpart change) other) := by
  have there : cond ours (other.update counterpart change) other = { other with
      sessions := cond ours (other.update counterpart change).sessions other.sessions } := by
    cases ours
    · rfl
    · exact World.update_eq other counterpart change
  rw [World.update_eq, there]
  apply alike.change meets
  · intro another different
    rw [sessions_update, if_neg different]
  · rintro another rfl different
    exact (sessions_update other counterpart another change).trans (if_neg different)
  · rintro rfl
    rfl
  · rintro rfl
    rw [cond_true, sessions_update, sessions_update, if_pos rfl, if_pos rfl, alike.sessions meets]
  · intro state present
    rw [sessions_update, if_pos rfl] at present
    obtain ⟨earlier, known, rfl⟩ := Option.map_eq_some_iff.mp present
    exact within earlier (alike.commands meets known)

/-- What is recorded about a session, with what changes about it other than its commands. -/
theorem noted (meets : roster ours session counterpart) (change : Session H → Session H)
    (commands : ∀ state, (change state).commands = state.commands) (event another : Event N) :
    parties.Alike roster place ((world.update session change).push event)
      (cond ours ((other.update counterpart change).push another) other) := by
  have updated := alike.update meets change fun state within => by rwa [commands]
  cases ours with
  | false => exact updated.push false event another
  | true => exact updated.push true event another

theorem takeDown (meets : roster ours session counterpart) :
    parties.Alike roster place (world.takeDown session)
      (cond ours (other.takeDown counterpart) other) := by
  have gone : parties.Alike roster place
      { world with sessions := world.sessions.erase session }
      { other with sessions := cond ours (other.sessions.erase counterpart) other.sessions } := by
    apply alike.change meets
    · intro another different
      simp [Std.TreeMap.getElem?_erase, different]
    · rintro another rfl different
      simp [Std.TreeMap.getElem?_erase, different]
    · rintro rfl
      rfl
    · rintro rfl
      simp
    · intro state present
      simp at present
  cases ours with
  | false => exact gone.push false (.delete session) (.delete counterpart)
  | true => exact gone.push true (.delete session) (.delete counterpart)

/-! Handles. -/

theorem keep (meets : roster ours session counterpart) (serves : place.Serves ours) :
    parties.Alike roster (place.keep ours) (world.keep session)
      (cond ours (other.keep counterpart) other) := by
  have kept := alike.frames.keep meets serves
  rw [World.keep_eq]
  cases ours with
  | false => exact { alike with frames := kept }
  | true =>
      rw [cond_true, World.keep_eq other]
      exact { alike with frames := kept }

theorem enrol (meets : roster ours session counterpart) (serves : place.Serves ours) :
    parties.Alike roster (place.keep ours) (world.enrol session)
      (cond ours (other.enrol counterpart) other) := by
  have added : parties.Alike roster place
      { world with sessions := world.sessions.insert session {} }
      { other with sessions := cond ours (other.sessions.insert counterpart {}) other.sessions } := by
    apply alike.change meets
    · intro another different
      simp [Std.TreeMap.getElem?_insert, different]
    · rintro another rfl different
      simp [Std.TreeMap.getElem?_insert, different]
    · rintro rfl
      rfl
    · rintro rfl
      simp
    · intro state present
      simp only [Std.TreeMap.getElem?_insert_self, Option.some.injEq] at present
      subst present
      exact CommandTable.within_empty _
  have kept := added.keep meets serves
  cases ours <;> exact kept

theorem enter (meets : roster ours session counterpart) :
    parties.Alike roster (.inside ours place)
      { world with frames := ⟨some session, []⟩ :: world.frames }
      (cond ours { other with frames := ⟨some counterpart, []⟩ :: other.frames } other) := by
  cases ours with
  | true => exact { alike with frames := .ours meets .nil alike.frames }
  | false => exact { alike with frames := .theirs meets nofun alike.frames }

omit alike in
theorem exit (alike : parties.Alike roster (.inside ours place) world other) :
    parties.Alike roster place { world with frames := world.frames.tail }
      (cond ours { other with frames := other.frames.tail } other) := by
  have left := alike.frames.tail
  cases ours with
  | false => exact { alike with frames := left }
  | true => exact { alike with frames := left }

/-- The library is loaded, if it was not before. -/
theorem load {config : Config} (asks : ours = true → parties.asks config) :
    parties.Alike roster place
      { world with library := (world.library.load parties.setup.libraries config).2 }
      (cond ours { other with
        library := (other.library.load parties.setup.libraries config).2 } other) := by
  cases ours with
  | false => exact { alike with }
  | true =>
      refine { alike with finds := fun another outcome _ found => ?_ }
      have again := other.library.load_load parties.setup.libraries parties.setup.libraries config
        another
      exact (congrArg Prod.fst again).trans (alike.finds config outcome (asks rfl) found)

/-- One more interpreter is asked for. -/
theorem count (ours : Bool) : parties.Alike roster place { world with created := world.created + 1 }
    (cond ours { other with created := other.created + 1 } other) := by
  have known {party : Bool} {first second : SessionId} (meets : roster party first second) :
      first < world.created + 1 ∧ (party = true → second < other.created + 1) :=
    ⟨Nat.lt_succ_of_lt (alike.known meets).1, fun mine => Nat.lt_succ_of_lt ((alike.known meets).2 mine)⟩
  cases ours with
  | false =>
      exact { alike with
        known := fun meets => ⟨(known meets).1, (alike.known meets).2⟩
        unborn := ⟨fun first bound => alike.unborn.1 first (Nat.le_of_succ_le bound),
          alike.unborn.2⟩ }
  | true =>
      exact { alike with
        known
        unborn := ⟨fun first bound => alike.unborn.1 first (Nat.le_of_succ_le bound),
          fun first bound => alike.unborn.2 first (Nat.le_of_succ_le bound)⟩ }

/-- A new session, which neither process has used the number of before. -/
theorem add (alone : ours = false → counterpart = session)
    (fresh : ∀ {party : Bool} {first second : SessionId}, roster party first second →
      first ≠ session ∧ (ours = true → party = true → second ≠ counterpart))
    (below : session < world.created ∧ (ours = true → counterpart < other.created))
    (absent : world.sessions[session]? = none ∧
      (ours = true → other.sessions[counterpart]? = none))
    (scene there : Scene σ N)
    (like : parties.like (roster.add ours session counterpart) scene.store there.store) :
    parties.Alike (roster.add ours session counterpart) place { world with scene }
      { other with scene := there } := by
  have growing := roster.grows_add ours session counterpart
  refine { alike with
    sound := alike.sound.add alone fresh
    known := ?_
    like
    sessions := ?_
    commands := ?_
    interps := fun name => (alike.interps name).grows growing
    procs := fun name => (alike.procs name).grows growing
    vars := fun name => (alike.vars name).grows growing
    frames := alike.frames.grows growing }
  · rintro party first second (known | ⟨rfl, rfl, rfl⟩)
    · exact alike.known known
    · exact below
  · rintro first second (known | ⟨rfl, rfl, rfl⟩)
    · exact alike.sessions known
    · exact absent.1.trans (absent.2 rfl).symm
  · rintro party first second state (known | ⟨rfl, rfl, rfl⟩) present
    · exact alike.commands known present
    · rw [absent.1] at present
      cases present

end Alike

/-! Handles on the desk. -/

section Filed

variable {session : κ → SessionId} {rest : κ → δ} {map other : Std.TreeMap String κ} {name : String}
  (filed : parties.Filed roster session rest map other) (owned : parties.name name = ours)
include filed owned

theorem Filed.insert {handle counterpart : κ}
    (meets : roster ours (session handle) (session counterpart))
    (same : ours = true → rest handle = rest counterpart) :
    parties.Filed roster session rest (map.insert name handle)
      (cond ours (other.insert name counterpart) other) := by
  intro another
  by_cases here : name = another
  · subst here
    have lies := filed name
    rw [owned] at lies ⊢
    cases ours with
    | true =>
        rw [cond_true, Std.TreeMap.getElem?_insert_self, Std.TreeMap.getElem?_insert_self]
        exact .ours rfl meets (same rfl)
    | false =>
        rw [cond_false, Std.TreeMap.getElem?_insert_self, lies.nothing_of_theirs]
        exact .theirs rfl meets
  · have lies := filed another
    cases ours <;> simpa [Std.TreeMap.getElem?_insert, here] using lies

theorem Filed.erase :
    parties.Filed roster session rest (map.erase name) (cond ours (other.erase name) other) := by
  intro another
  by_cases here : name = another
  · subst here
    have lies := filed name
    rw [owned] at lies ⊢
    cases ours with
    | true =>
        rw [cond_true, Std.TreeMap.getElem?_erase_self, Std.TreeMap.getElem?_erase_self]
        exact .nothing
    | false =>
        rw [cond_false, Std.TreeMap.getElem?_erase_self, lies.nothing_of_theirs]
        exact .nothing
  · have lies := filed another
    cases ours <;> simpa [Std.TreeMap.getElem?_erase, here] using lies

end Filed

end Parties

end TclHost
