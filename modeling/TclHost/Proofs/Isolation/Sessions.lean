import TclHost.Proofs.Isolation.Programs
import TclHost.Proofs.Isolation.Routing
import TclHost.Proofs.Run.Deeds

/-!
Sessions are isolated. A call reaches only handlers of the session that it comes from, a session
changes only while something is done to it, and what is done to others makes no difference.
-/

namespace TclHost

open World

variable {σ H N α β : Type}

def Roster.nobody : Roster :=
  fun _ _ _ => False

theorem Roster.sound_nobody : Roster.nobody.Sound :=
  ⟨nofun, nofun, nofun⟩

namespace Parties

structure Shares (parties : Parties σ H N) (related : Roster → α → β → Prop) (store : σ)
    (program : Host H N α) (mine : Host H N β) : Prop where
  separates : parties.setup.engine.Separates N parties.like
  minds : parties.Minds
  interleaves : parties.Interleaves related .nobody (.outermost []) program mine
  like : parties.like .nobody store store

variable {parties : Parties σ H N} {store : σ} {library own : Library}

theorem alike_start (like : parties.like .nobody store store)
    (finds : ∀ config outcome, parties.asks config → parties.found = some outcome →
      (own.load parties.setup.libraries config).1 = outcome) :
    parties.Alike .nobody (.outermost []) (start store library) (start store own) where
  sound := Roster.sound_nobody
  known := nofun
  unborn := ⟨fun _ _ => rfl, fun _ _ => rfl⟩
  like := like
  sessions := nofun
  commands := nofun
  interps := fun _ => .nothing
  procs := fun _ => .nothing
  vars := fun _ => .nothing
  frames := .outermost .nil
  finds := finds

end Parties

namespace World

def handlings : Process.Rules (World σ H N) Halt where
  step world later := ∀ session, later.sessions[session]? = world.sessions[session]? ∨
    Handling session world later
  halt _ last world := ∀ session, (last world).sessions[session]? = world.sessions[session]? ∨
    Handling session world (last world)

end World

namespace Host

variable (setup : Setup σ H N) (fuel : Nat) (program : Host H N α) (store : σ) (library : Library)

theorem obeys_handlings :
    (Host.run setup fuel program).Obeys handlings (fun _ _ => True) (start store library) :=
  (obeys_deeds setup fuel program store library).relax (fun _ _ deed => deed.handled)
    fun _ _ _ deed => deed.handled

/-- The library that the process ends with is the only one that it has had. -/
theorem stays_loads {parties : Parties σ H N} {result : α} {final : World σ H N}
    (ran : (Host.run setup fuel program).exec (start store library) = .ok result final)
    (loads : parties.Loads final) :
    (Host.run setup fuel program).Stays parties.Loads (start store library) := by
  intro count outcome found
  apply loads
  apply (obeys_deeds setup fuel program store library).lasts _ ran count found
  intro first second deed known
  rcases deed.library with same | ⟨config, loaded⟩
  · rw [same, known]
  · rw [loaded, Library.load, known]
    exact known

theorem exec_shared {parties : Parties σ H N} {related : Roster → α → β → Prop} {mine : Host H N β}
    (shares : parties.Shares related store program mine) {own : Library} {result : α}
    {final : World σ H N}
    (ran : (Host.run parties.setup fuel program).exec (start store library) = .ok result final)
    (loads : parties.Loads final)
    (finds : ∀ config outcome, parties.asks config → parties.found = some outcome →
      (own.load parties.setup.libraries config).1 = outcome) :
    ∃ answer there roster,
      (Host.run parties.setup fuel mine).exec (start store own) = .ok answer there ∧
        related roster result answer := by
  have answers : parties.Answers (Run.dispatch parties.setup fuel) :=
    Parties.answers_dispatch shares.separates shares.minds fuel
  have stays := stays_loads parties.setup fuel program store library ran loads
  obtain ⟨roster, answer, there, -, -, ranOwn, -, -, agree⟩ := Parties.exec_program shares.separates
    answers shares.interleaves (Parties.alike_start shares.like finds) ran stays
  exact ⟨answer, there, roster, ranOwn, agree⟩

/-- Replacing handlers by others that do the same for the calls which are routed to them changes
nothing; every step changes only a session that is handled there; and what a program does for one
party comes to the same without what it does for the other, if the library is the same. -/
theorem sessions_isolated :
    (∀ behave, (∀ count session handler arguments,
        ((Host.run setup fuel program).after count (start store library)).Routes session handler
          arguments → behave handler session arguments = setup.behave handler session arguments) →
      (∀ count, (Host.run (setup.withHandlers behave) fuel program).after count (start store library) =
        (Host.run setup fuel program).after count (start store library)) ∧
      (Host.run (setup.withHandlers behave) fuel program).exec (start store library) =
        (Host.run setup fuel program).exec (start store library)) ∧
    (Host.run setup fuel program).Obeys handlings (fun _ _ => True) (start store library) ∧
    ∀ (parties : Parties σ H N) (related : Roster → α → β → Prop) (mine : Host H N β)
        (own : Library) (result : α) (final : World σ H N), parties.setup = setup →
      parties.Shares related store program mine →
      (Host.run setup fuel program).exec (start store library) = .ok result final →
      parties.found = final.library.outcome →
      (∀ config outcome, parties.asks config → parties.found = some outcome →
        (own.load setup.libraries config).1 = outcome) →
      ∃ answer there roster, (Host.run setup fuel mine).exec (start store own) = .ok answer there ∧
        related roster result answer := by
  refine ⟨fun behave => run_withHandlers setup fuel program store library,
    obeys_handlings setup fuel program store library, ?_⟩
  rintro parties related mine own result final rfl shares ran found finds
  exact exec_shared fuel program store library shares ran (fun _ known => found.trans known) finds

end Host

namespace Neighbours

/-- Each interpreter adds up the lengths of its scripts and results, and calls the host with one
word in each script. Objects stand for texts of that many letters. -/
def engine : Engine (InterpId → Nat) where
  create interp store := (true, Function.update store interp 0)
  init _ store := (0, store)
  preserve _ store := store
  release _ store := store
  createCommand _ _ store := store
  evaluate interp script store := .callback interp [⟨0⟩, ⟨1⟩] store fun _ store =>
    .finished 0 (Function.update store interp (store interp + script.length))
  makeSafe _ store := .finished 0 store
  delete _ store := .finished 0 store
  newObj store := (none, store)
  newString bytes store := (⟨bytes.length⟩, store)
  increment _ store := store
  decrement _ store := store
  append _ _ _ store := (1, store)
  elements _ _ store := (none, store)
  bytes object store := (List.replicate (object.elim 0 Obj.id) 0x78, store)
  result interp store := (some ⟨store interp⟩, store)
  setResult interp object store := Function.update store interp (store interp + object.id)

def setup : Setup (InterpId → Nat) Bool Empty where
  engine
  behave _ session _ := return .value (← Host.result session)
  libraries _ := .complete
  environment _ := none
  files _ := .ok []

def opening : Host Bool Empty (Except Error SessionId) :=
  (Host.openSession {}).run

def whenOpen (opened : Except Error SessionId) (request : SessionId → Request Bool Empty) :
    Host Bool Empty Unit :=
  match opened with
  | .ok session => discard (Program.question (request session))
  | .error _ => return ()

abbrev Schedule : Type :=
  List (Bool × (SessionId → Request Bool Empty))

def work (first second : Except Error SessionId) : Schedule → Host Bool Empty (Option String)
  | [] =>
      match second with
      | .ok session => return some (← Host.result session)
      | .error _ => return none
  | (ours, request) :: rest => do
      whenOpen (cond ours second first) request
      work first second rest

def shared (schedule : Schedule) : Host Bool Empty (Option String) := do
  let first ← opening
  let second ← opening
  work first second schedule

def alone (schedule : Schedule) : Host Bool Empty (Option String) := do
  let session ← opening
  work session session (schedule.filter (·.1))

def schedule : Schedule :=
  [(false, (.insertCommand · "x" false)), (true, (.insertCommand · "x" true)),
    (false, (.evaluate · "first")), (true, (.evaluate · "second")), (false, (.evaluate · "third"))]

structure Like (roster : Roster) (store there : InterpId → Nat) : Prop where
  sound : roster.Sound
  same : ∀ {session counterpart : SessionId}, roster true session counterpart →
    store session = there counterpart

variable {ours : Bool} {roster : Roster} {session counterpart : SessionId} {store there : InterpId → Nat}

theorem Like.set (sound : roster.Sound) (meets : roster ours session counterpart)
    (others : ∀ {first second : SessionId}, roster true first second → first ≠ session →
      store first = there second) {value other : Nat} (same : ours = true → value = other) :
    Like roster (Function.update store session value)
      (cond ours (Function.update there counterpart other) there) := by
  refine ⟨sound, fun {first second} known => ?_⟩
  by_cases here : first = session
  · subst here
    cases ours with
    | true =>
        obtain rfl := (sound.matched known meets).mp rfl
        simpa using same rfl
    | false => exact absurd meets (sound.apart known)
  · cases ours with
    | true =>
        have beside := mt (sound.matched known meets).mpr here
        simpa [here, beside] using others known here
    | false => simpa [here] using others known here

theorem Like.update (like : Like roster store there) (meets : roster ours session counterpart)
    {value other : Nat} (same : ours = true → value = other) :
    Like roster (Function.update store session value)
      (cond ours (Function.update there counterpart other) there) :=
  Like.set like.sound meets (fun known _ => like.same known) same

theorem Like.kept (like : Like roster store there) :
    Like roster store (cond ours there there) := by
  cases ours <;> exact like

theorem store_quoteList (session : SessionId) (words : List String) (scene : Scene (InterpId → Nat) Empty) :
    ((Call.quoteList engine session words).run scene).2.store = scene.store := by
  suffices kept : ∀ scene : Scene (InterpId → Nat) Empty, ((words.forM fun word => do
      let element ← Call.newText engine word
      Call.withReference engine (some element)
        (discard (Call.append engine session none element))).run scene).2.store = scene.store from
    kept _
  intro scene
  induction words generalizing scene with
  | nil => rfl
  | cons word rest ih => exact ih _

theorem parted_quoteList (words : List String) (like : Like roster store there) :
    Call.Parted Like ours roster (Call.quoteList engine session words : Call _ Empty String)
      (Call.quoteList engine counterpart words) store there := by
  intro events others
  refine ⟨fun _ => rfl, ?_⟩
  rw [store_quoteList, store_quoteList]
  exact like.kept

theorem separates : engine.Separates Empty Like where
  create {ours roster session counterpart store there} like alone fresh events others := by
    refine ⟨fun _ => rfl, ?_⟩
    apply Like.set (like.sound.add alone fresh) (roster.add_self ours session counterpart)
    · rintro first second (known | ⟨_, rfl, _⟩) different
      · exact like.same known
      · exact absurd rfl different
    · exact fun _ => rfl
  errand {ours roster session counterpart store there} errand meets like events others := by
    cases errand with
    | init | preserve | release | createCommand | splitList => exact ⟨fun _ => rfl, like.kept⟩
    | quoteList words =>
        exact parted_quoteList words like events others
    | result =>
        refine ⟨?_, like.kept⟩
        rintro rfl
        exact congrArg (fun count => Text.decode (List.replicate count 0x78)) (like.same meets)
    | setResult text =>
        refine ⟨fun _ => rfl, ?_⟩
        apply like.update meets
        rintro rfl
        exact congrArg (· + _) (like.same meets)
  entry {ours roster session counterpart store there} entry meets like := by
    cases ours with
    | true =>
        cases entry with
        | evaluate script =>
            refine .callback meets like (fun _ _ => ⟨fun _ => rfl, like⟩) ?_
            intro later code store there grows like
            apply Reaction.Together.finished
            exact like.update (grows meets) fun _ => congrArg (· + _) (like.same (grows meets))
        | makeSafe | delete => exact .finished like
    | false =>
        cases entry with
        | evaluate script =>
            refine .callback meets like (fun _ _ => ⟨nofun, like⟩) ?_
            intro later code store there grows like
            apply Reaction.Apart.finished
            exact @Like.update false _ _ counterpart _ _ like (grows meets) _ 0 nofun
        | makeSafe | delete => exact .finished like

def parties : Parties (InterpId → Nat) Bool Empty where
  setup
  handler := id
  name _ := true
  like := Like
  asks config := config = {}
  found := some (.ok "libtcl8.6.so")

theorem minds : parties.Minds where
  ours arguments sound meets known := by
    refine .ours rfl (.result meets) ?_
    rintro later text _ grows sound rfl
    exact .done rfl
  theirs arguments sound meets known := by
    obtain rfl := sound.alone meets
    refine .theirs rfl (.result meets) ?_
    intro later text _ grows sound _
    exact .done trivial

def Allowed (place : Place) (entry : Bool × (SessionId → Request Bool Empty)) : Prop :=
  ∀ (roster : Roster) (session counterpart : SessionId), roster entry.1 session counterpart →
    ∃ relating, parties.Asks entry.1 roster place (entry.2 session) (entry.2 counterpart) relating
      fun _ => place

theorem interleaves_work {place : Place} (serves : ∀ ours, place.Serves ours) {schedule : Schedule}
    (allowed : ∀ entry ∈ schedule, Allowed place entry) (sound : roster.Sound)
    {first second other mine : Except Error SessionId}
    (theirs : Parties.Handed false roster first other)
    (ours : Parties.Handed true roster second mine) :
    parties.Interleaves (fun _ => Eq) roster place (work first second schedule)
      (work mine mine (schedule.filter (·.1))) := by
  induction schedule generalizing roster with
  | nil =>
      cases ours with
      | failed cause => exact .done rfl
      | opened meets =>
          refine .ours (serves true) (.result meets) ?_
          rintro later text _ _ _ rfl
          exact .done rfl
  | cons entry rest ih =>
      obtain ⟨asked, others⟩ := List.forall_mem_cons.mp allowed
      obtain ⟨party, request⟩ := entry
      cases party with
      | false =>
          cases theirs with
          | failed cause => exact ih others sound (.failed cause) ours
          | opened meets =>
              obtain ⟨relating, asks⟩ := asked _ _ _ meets
              refine .theirs (serves false) asks fun later _ _ grows sound _ => ?_
              exact ih others sound (.opened (grows meets)) (ours.grows grows)
      | true =>
          cases ours with
          | failed cause => exact ih others sound theirs (.failed cause)
          | opened meets =>
              obtain ⟨relating, asks⟩ := asked _ _ _ meets
              refine .ours (serves true) asks fun later _ _ grows sound _ => ?_
              exact ih others sound (theirs.grows grows) (.opened (grows meets))

theorem shares {schedule : Schedule}
    (allowed : ∀ (place : Place), ∀ entry ∈ schedule, Allowed place entry) :
    parties.Shares (fun _ => Eq) (fun _ => 0) (shared schedule) (alone schedule) where
  separates := separates
  minds := minds
  like := ⟨Roster.sound_nobody, nofun⟩
  interleaves := by
    refine .theirs trivial (.openSession nofun) ?_
    intro roster first _ _ sound theirs
    have servesFirst (ours : Bool) :
        (Parties.handing false (.outermost []) first).Serves ours := by
      cases first <;> trivial
    refine .ours (servesFirst true) (.openSession fun _ => rfl) ?_
    intro later second mine grows sound ours
    apply interleaves_work _ (allowed _) sound (theirs.grows grows) ours
    intro party
    cases first <;> cases second <;> trivial

theorem allowed_schedule (place : Place) : ∀ entry ∈ schedule, Allowed place entry := by
  simp only [schedule, List.forall_mem_cons]
  refine ⟨fun _ _ _ meets => ⟨_, .insertCommand meets "x" rfl⟩,
    fun _ _ _ meets => ⟨_, .insertCommand meets "x" rfl⟩,
    fun _ _ _ meets => ⟨_, .evaluate meets "first"⟩, fun _ _ _ meets => ⟨_, .evaluate meets "second"⟩,
    fun _ _ _ meets => ⟨_, .evaluate meets "third"⟩, nofun⟩

def astray (handler : Bool) (session : SessionId) (arguments : List String) : Host Bool Empty Outcome :=
  if handler = (session == 1) then setup.behave handler session arguments
  else return .panic none

def running : Run (InterpId → Nat) Bool Empty (Option String) :=
  Host.run setup 2 (shared schedule)

def initial : World (InterpId → Nat) Bool Empty :=
  World.start (fun _ => 0) {}

def belong (world : World (InterpId → Nat) Bool Empty) : Bool :=
  world.sessions.toList.all fun (session, state) =>
    state.commands.receiver.isNone && state.commands.handlers.toList.all (·.2 = (session == 1))

theorem handler_of_routes {world : World (InterpId → Nat) Bool Empty} (belongs : belong world = true)
    {session : SessionId} {handler : Bool} {arguments : List String}
    (routes : world.Routes session handler arguments) : handler = (session == 1) := by
  obtain ⟨state, words, present, routed⟩ := routes.routed
  have member := Std.TreeMap.mem_toList_iff_getElem?_eq_some.mpr present
  have checked := List.all_eq_true.mp belongs _ member
  obtain ⟨unreceived, handlers⟩ := Bool.and_eq_true_iff.mp checked
  have within : state.commands.Within (· = (session == 1)) := by
    constructor
    · intro name handler named
      have entry := Std.TreeMap.mem_toList_iff_getElem?_eq_some.mpr named
      simpa using List.all_eq_true.mp handlers _ entry
    · intro handler received
      simp [received] at unreceived
  exact within.route routed

theorem undisturbed :
    (Host.run (setup.withHandlers astray) 2 (shared schedule)).exec initial = running.exec initial ∧
      ∃ text final there, running.exec initial = .ok (some text) final ∧
        (Host.run setup 2 (alone schedule)).exec initial = .ok (some text) there := by
  obtain ⟨routed, -, besides⟩ := @Host.sessions_isolated _ _ _ _ (Option String) setup
    2 (shared schedule) (fun _ => 0) {}
  have belongs : running.Stays (belong · = true) initial :=
    Process.stays_of_checks 1000 (by decide +kernel)
  have returns : ((Process.result? (running.exec initial)).bind id).isSome = true := by decide +kernel
  constructor
  · refine (routed astray fun count session handler arguments routes => ?_).2
    exact if_pos (handler_of_routes (belongs count) routes)
  · obtain ⟨text, found⟩ := Option.isSome_iff_exists.mp returns
    obtain ⟨result, returned, same⟩ := Option.bind_eq_some_iff.mp found
    obtain rfl : result = some text := same
    obtain ⟨final, ran⟩ := Process.result?_eq_some_iff.mp returned
    have library : (Process.finalState (running.exec initial)).library.outcome =
      some (.ok "libtcl8.6.so") := by decide +kernel
    rw [ran] at library
    obtain ⟨_, there, _, ranAlone, rfl⟩ := besides parties _ (alone schedule) {} _ final rfl
      (shares allowed_schedule) ran library.symm (by
        rintro config outcome rfl found
        cases found
        rfl)
    exact ⟨text, final, there, ran, ranAlone⟩

end Neighbours

end TclHost
