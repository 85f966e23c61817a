import Mathlib.Data.List.Forall2
import TclHost.Proofs.Exit.Invariant
import TclHost.Proofs.Loading.Search
import TclHost.Proofs.Run.Deeds
import TclHost.Proofs.Run.Request

/-!
Requests for the library, in a sequence and all through a run. The first one decides for all.
-/

namespace TclHost

open Process World

variable {σ H N α : Type}

namespace Run

variable {engine : Engine σ} {setup : Setup σ H N} {dispatch : Dispatch σ H N}
  {world final : World σ H N} {session : SessionId} {config : Config}

/-! Once the library is loaded, what goes wrong is put down to something else. -/

theorem eval_of_evaluate_error {script : String} {cause : Error}
    (failed : (evaluate engine dispatch session script).exec world = .ok (.error cause) final) :
    ∃ text, cause = .eval text := by
  obtain ⟨_, _, _, failed⟩ := exec_bind_ok.mp failed
  obtain ⟨_, _, _, failed⟩ := exec_bind_ok.mp failed
  obtain ⟨_, _, _, failed⟩ := exec_bind_ok.mp failed
  obtain ⟨code, _, _, failed⟩ := exec_bind_ok.mp failed
  obtain ⟨_, _, _, failed⟩ := exec_bind_ok.mp failed
  obtain ⟨answer, _, answered, failed⟩ := exec_bind_ok.mp failed
  cases failed
  cases completion : Completion.ofCode code with
  | success =>
      rw [completion] at answered
      cases answered
  | error =>
      rw [completion] at answered
      cases answered
      exact ⟨_, rfl⟩
  | other code =>
      rw [completion] at answered
      cases answered

theorem eval_of_listResult_error {script : String} {cause : Error}
    (failed : (listResult engine dispatch session script).run.exec world =
      .ok (.error cause) final) : ∃ text, cause = .eval text := by
  unfold listResult at failed
  rcases exec_attempt_error failed with failed | ⟨_, _, _, failed⟩
  · exact eval_of_evaluate_error failed
  rcases exec_attempt_error failed with failed | ⟨_, _, _, failed⟩
  · obtain ⟨_, same, _⟩ := exec_lift_ok failed
    cases same
  · cases failed

theorem eval_of_makeSafe_error {cause : Error}
    (failed : (makeSafe engine dispatch session).exec world = .ok (.error cause) final) :
    ∃ text, cause = .eval text := by
  rcases exec_makeSafe_ok failed with ⟨agreed, _⟩ | ⟨_, _, _, ⟨_, agreed, _⟩ | ⟨_, same, _⟩⟩
  · cases agreed
  · cases agreed
  · cases same
    exact ⟨_, rfl⟩

theorem eval_of_prepare_error {safe : Bool} {cause : Error}
    (failed : (prepare engine dispatch session safe).run.exec world = .ok (.error cause) final) :
    ∃ text, cause = .eval text := by
  unfold prepare at failed
  rcases exec_attempt_error failed with failed | ⟨procs, _, _, failed⟩
  · exact eval_of_listResult_error failed
  rcases exec_attempt_error failed with failed | ⟨vars, _, _, failed⟩
  · exact eval_of_listResult_error failed
  rcases exec_attempt_error failed with failed | ⟨_, _, _, failed⟩
  · obtain ⟨_, same, _⟩ := exec_lift_ok failed
    cases same
  cases safe with
  | false =>
      obtain ⟨_, same, _⟩ := exec_lift_ok failed
      cases same
  | true =>
      rcases exec_attempt_error failed with failed | ⟨_, _, _, failed⟩
      · exact eval_of_makeSafe_error failed
      · obtain ⟨_, same, _⟩ := exec_lift_ok failed
        cases same

/-- An attempt to open a session reports the library's error if there is one, and no other error of
that kind. -/
theorem openSession_reports {answer : Except Error SessionId}
    (returned : (openSession setup dispatch config).exec world = .ok answer final)
    (cause : LoadError) : answer = .error (.load cause) ↔
      (world.library.load setup.libraries config).1 = .error cause := by
  rcases exec_openSession_ok returned with ⟨reason, loaded, rfl, _⟩ | ⟨path, loaded, onward⟩
  · rw [loaded, Except.error.injEq, Except.error.injEq, Error.load.injEq]
  · rw [loaded]
    refine iff_of_false ?_ nofun
    rintro rfl
    rcases onward with failed | ⟨session, between, handed⟩
    · cases failed
    · obtain ⟨_, _, prepared, ⟨_, failed, _⟩ | ⟨reason, rfl, failed⟩⟩ := exec_handOut_ok handed
      · cases failed
      · obtain ⟨_, rfl⟩ := eval_of_prepare_error prepared
        cases failed

/-- It makes no difference whether the library was loaded already. -/
theorem exec_openSession_loaded :
    (openSession setup dispatch config).exec world =
      (openSession setup dispatch config).exec
        { world with library := (world.library.load setup.libraries config).2 } := by
  have again := world.library.load_load setup.libraries setup.libraries config config
  generalize loaded : world.library.load setup.libraries config = found at again ⊢
  unfold openSession
  refine (exec_bind_of_ok rfl).trans (Eq.trans ?_ (exec_bind_of_ok rfl).symm)
  simp only [loaded, again]
  rfl

end Run

inductive LibraryRequest (σ H N : Type) where
  | load (files : String → LibraryFile) (config : Config)
  | openSession (setup : Setup σ H N) (fuel : Nat) (config : Config)

structure LibraryReport where
  answer : Except Error (Option String)
  library : Library

namespace LibraryRequest

variable {world later last : World σ H N} {request first : LibraryRequest σ H N}
  {rest : List (LibraryRequest σ H N)} {report : LibraryReport} {reports : List LibraryReport}
  {outcome : Except LoadError String} {opened : List String}

def files : LibraryRequest σ H N → String → LibraryFile
  | .load files _ => files
  | .openSession setup _ _ => setup.libraries

def config : LibraryRequest σ H N → Config
  | .load _ config | .openSession _ _ config => config

def answer : Except LoadError String → Except Error (Option String)
  | .ok path => .ok (some path)
  | .error cause => .error (.load cause)

inductive Returns : World σ H N → LibraryRequest σ H N → LibraryReport → World σ H N → Prop
  | load (world : World σ H N) (files : String → LibraryFile) (config : Config) :
      Returns world (.load files config)
        ⟨answer (world.library.load files config).1, (world.library.load files config).2⟩
        { world with library := (world.library.load files config).2 }
  | openSession {world later : World σ H N} {setup : Setup σ H N} {fuel : Nat} {config : Config}
      {answer : Except Error SessionId}
      (returned : (Run.perform setup (Run.dispatch setup fuel) (.openSession config)).exec world =
        .ok answer later) :
      Returns world (.openSession setup fuel config)
        ⟨answer.map fun _ => none, later.library⟩ later

inductive Return : World σ H N → List (LibraryRequest σ H N) → List LibraryReport → Prop
  | nil (world : World σ H N) : Return world [] []
  | cons {world later : World σ H N} {request : LibraryRequest σ H N} {report : LibraryReport}
      {rest : List (LibraryRequest σ H N)} {reports : List LibraryReport}
      (returns : Returns world request report later) (onward : Return later rest reports) :
      Return world (request :: rest) (report :: reports)

/-- The report goes by this outcome: the path comes back, or the error, and for a session only the
error. -/
def Tells (outcome : Except LoadError String) (opened : List String)
    (request : LibraryRequest σ H N) (report : LibraryReport) : Prop :=
  report.library = .settled outcome opened ∧
    match request with
    | .load .. => report.answer = answer outcome
    | .openSession .. => ∀ cause, report.answer = .error (.load cause) ↔ outcome = .error cause

theorem load_deed {setup : Setup σ H N} (deed : Deed setup world later)
    (known : world.library = .settled outcome opened) :
    later.library = .settled outcome opened := by
  rcases deed.library with same | ⟨config, loaded⟩
  · rw [same, known]
  · rw [loaded, known, Library.load_settled]

theorem Returns.tells (returns : Returns world request report later) (sound : world.Sound)
    (standing : Standing none [] world)
    (known : (world.library.load request.files request.config).2 = .settled outcome opened) :
    Tells outcome opened request report ∧ later.Sound ∧ Standing none [] later ∧
      later.library = .settled outcome opened := by
  have decided : (world.library.load request.files request.config).1 = outcome := by
    have again := world.library.load_load request.files request.files request.config request.config
    rw [known, Library.load_settled] at again
    exact (congrArg Prod.fst again).symm
  let loaded : World σ H N :=
    { world with library := (world.library.load request.files request.config).2 }
  have soundLoaded : loaded.Sound :=
    { sound with }
  have standingLoaded : Standing none [] loaded :=
    ⟨standing.frames, standing.settled, standing.secured⟩
  cases returns with
  | load files config =>
      exact ⟨⟨known, congrArg answer decided⟩, soundLoaded, standingLoaded, known⟩
  | openSession returned =>
      rename_i setup fuel config answer
      have again : (Run.perform setup (Run.dispatch setup fuel) (.openSession config)).exec loaded =
          .ok answer later := Run.exec_openSession_loaded.symm.trans returned
      obtain ⟨soundLater, onward, same⟩ := Run.perform_preserves
        (fun _ _ _ _ deed => load_deed deed) soundLoaded standingLoaded known again
      refine ⟨⟨same, fun cause => ?_⟩, soundLater, onward.standing, same⟩
      have reported : answer = .error (.load cause) ↔ outcome = .error cause :=
        decided ▸ Run.openSession_reports returned cause
      rw [← reported]
      cases answer <;> simp [Except.map]

theorem Return.tell (returned : Return world (first :: rest) reports) (sound : world.Sound)
    (standing : Standing none [] world)
    (known : (world.library.load first.files first.config).2 = .settled outcome opened) :
    List.Forall₂ (Tells outcome opened) (first :: rest) reports := by
  induction rest generalizing world first reports with
  | nil =>
      obtain _ | ⟨returns, ⟨⟩⟩ := returned
      exact .cons (returns.tells sound standing known).1 .nil
  | cons second rest ih =>
      obtain _ | ⟨returns, onward⟩ := returned
      obtain ⟨tells, soundLater, standingLater, same⟩ := returns.tells sound standing known
      apply List.Forall₂.cons tells
      apply ih onward soundLater standingLater
      rw [same, Library.load_settled]

end LibraryRequest

namespace Host

variable (setup : Setup σ H N) (fuel : Nat) (program : Host H N α) (store : σ)

def UnaskedOrSettled (world : World σ H N) : Prop :=
  world.library = {} ∨ ∃ config outcome opened,
    Library.Finds setup.libraries config outcome opened ∧ world.library = .settled outcome opened

variable {setup} in
theorem UnaskedOrSettled.deed {world later : World σ H N} (known : UnaskedOrSettled setup world)
    (deed : Deed setup world later) : UnaskedOrSettled setup later := by
  rcases known with unasked | ⟨config, outcome, opened, finds, settled⟩
  · rcases deed.library with same | ⟨config, loaded⟩
    · exact .inl (same.trans unasked)
    · obtain ⟨outcome, opened, finds, found⟩ := Library.load_first setup.libraries config
      refine .inr ⟨config, outcome, opened, finds, ?_⟩
      rw [loaded, unasked, found]
  · exact .inr ⟨config, outcome, opened, finds, LibraryRequest.load_deed deed settled⟩

theorem library_once (count more : Nat) {outcome : Except LoadError String} {opened : List String}
    (known : ((Host.run setup fuel program).after count (start store {})).library =
      .settled outcome opened) :
    ((Host.run setup fuel program).after (count + more) (start store {})).library =
      .settled outcome opened := by
  induction more with
  | zero => exact known
  | succ more ih =>
      exact LibraryRequest.load_deed (deed_after setup fuel program store {} (count + more)) ih

/-- The first request for the library decides what it and all others report, whatever they ask for
and whatever the files are by then, and so it is at all moments of a run. -/
theorem first_request_decides :
    (∀ (first : LibraryRequest σ H N) (rest : List (LibraryRequest σ H N))
        (reports : List LibraryReport), LibraryRequest.Return (start store {}) (first :: rest)
      reports → ∃ outcome opened, Library.Finds first.files first.config outcome opened ∧
        List.Forall₂ (LibraryRequest.Tells outcome opened) (first :: rest) reports) ∧
    (∀ world, (Host.run setup fuel program).ComesTo (start store {}) world →
      UnaskedOrSettled setup world) ∧
    (∀ (count more : Nat) (outcome : Except LoadError String) (opened : List String),
      ((Host.run setup fuel program).after count (start store {})).library =
        .settled outcome opened →
      ((Host.run setup fuel program).after (count + more) (start store {})).library =
        .settled outcome opened) ∧
    (∀ (outcome : Except LoadError String) (opened : List String) (path : String),
      (Library.settled outcome opened).loaded? = some path ↔ outcome = .ok path) ∧
    (∀ (config : Config) (path : String), (config.withLibrary path).library = some path) ∧
    (∀ (lookup : String → Option String) (path : String),
      (Config.ofLookup lookup).library = some path ↔
        lookup libraryVariable = some path ∧ path ≠ "") ∧
    defaultLibraries.Nodup := by
  refine ⟨fun first rest reports returned => ?_, fun world comes => ?_,
    fun count more _ _ => library_once setup fuel program store count more,
    fun _ _ _ => Library.loaded?_settled, fun _ _ => rfl, fun lookup path => ?_, by decide⟩
  · obtain ⟨outcome, opened, finds, loaded⟩ := Library.load_first first.files first.config
    refine ⟨outcome, opened, finds, ?_⟩
    exact returned.tell (sound_start store {}) (standing_start store {}) (by
      rw [show (start store {} : World σ H N).library = {} from rfl, loaded])
  · apply throughout setup fuel program store {} (.inl rfl) _ _ comes
    · exact fun _ _ _ _ deed known => known.deed deed
    · exact fun _ _ _ _ _ deed known => known.deed deed
  · simp [Config.ofLookup, Option.filter_eq_some_iff]

end Host

namespace Shelf

def files (path : String) : LibraryFile :=
  if path = "libtcl.so" then .lacking ["Tcl_Release", "Tcl_Init"] "undefined symbol"
  else if path = "libtcl8.6.so.0" then .complete
  else .unusable "no such file"

def setup : Setup Nat Unit Empty :=
  { Sample.setup false with libraries := files }

def requests : List (LibraryRequest Nat Unit Empty) :=
  [.openSession setup 1 {}, .load (fun _ => .complete) { library := some "other.so" }]

def opening : EStateM.Result Halt (World Nat Unit Empty) (Except Error SessionId) :=
  (Run.perform setup (Run.dispatch setup 1) (.openSession {})).exec (World.start 0 {})

def program : Host Unit Empty Unit :=
  discard (Program.question (.openSession {}))

def moment (count : Nat) : World Nat Unit Empty :=
  (Host.run setup 1 program).after count (World.start 0 {})

theorem third_found : ∃ reports opened,
    LibraryRequest.Return (World.start 0 {}) requests reports ∧
      Library.Finds files {} (.ok "libtcl8.6.so.0") opened ∧
      List.Forall₂ (LibraryRequest.Tells (.ok "libtcl8.6.so.0") opened) requests reports ∧
      Host.UnaskedOrSettled setup (moment 1) ∧
      (moment 20).library = .settled (.ok "libtcl8.6.so.0")
        ["libtcl8.6.so", "libtcl.so", "libtcl8.6.so.0"] := by
  obtain ⟨first, always, onward, _⟩ := Host.first_request_decides setup 1 program 0
  have handed : Process.result? opening = some (.ok 0) := by decide +kernel
  obtain ⟨later, returned⟩ := Process.result?_eq_some_iff.mp handed
  have asked : (Process.finalState opening).library.outcome = some (.ok "libtcl8.6.so.0") := rfl
  have again : (later.library.load (fun _ => .complete) { library := some "other.so" }).1 =
      .ok "libtcl8.6.so.0" := by
    rw [returned, Process.finalState] at asked
    rw [Library.load, asked]
  have loads : LibraryRequest.Return (World.start 0 {}) requests _ :=
    .cons (.openSession returned) (.cons (.load later _ _) (.nil _))
  obtain ⟨outcome, opened, finds, tells⟩ := first _ _ _ loads
  obtain ⟨_, ⟨_, told⟩, _⟩ := List.forall₂_cons.mp tells |>.imp_right List.forall₂_cons.mp
  dsimp only at told
  rw [again] at told
  obtain rfl : outcome = .ok "libtcl8.6.so.0" := by
    cases outcome with
    | error cause => cases told
    | ok path => exact congrArg Except.ok (Option.some.inj (Except.ok.inj told)).symm
  exact ⟨_, opened, loads, finds, tells, always (moment 1) (.inl ⟨1, rfl⟩), onward 2 18 _ _ rfl⟩

end Shelf

end TclHost
