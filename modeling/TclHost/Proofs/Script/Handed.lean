import TclHost.Proofs.Objects.Lists
import TclHost.Proofs.Run.Answer

/-!
The scripts that a program hands over itself. Of the answers that it gets only those matter that
quote a list: the list reads back as the words that were quoted.
-/

namespace TclHost

variable {σ H N α β : Type}

def ListFormat.Reads (format : ListFormat) (list : String) (words : List String) : Prop :=
  format.split (Text.encode list) = some (words.map Text.encode)

instance (format : ListFormat) (list : String) (words : List String) :
    Decidable (format.Reads list words) :=
  inferInstanceAs (Decidable (_ = _))

def World.usable (world : World σ H N) (session : SessionId) : Bool :=
  world.sessions.contains session && world.mayUse session

theorem World.usable_iff {world : World σ H N} {session : SessionId} :
    world.usable session = true ↔
      (∃ state, world.sessions[session]? = some state) ∧ world.mayUse session = true := by
  rw [usable, Bool.and_eq_true, Std.TreeMap.contains_eq_isSome_getElem?, Option.isSome_iff_exists]

def Request.script? : Request H N → Option (SessionId × String)
  | .evaluate session script => some (session, script)
  | _ => none

def Request.Answered (format : ListFormat) : (request : Request H N) → request.Answer → Prop
  | .quoteList _ words, list => format.Reads list words
  | _, _ => True

theorem Run.exec_quoteList_of_usable {world : World σ H N} {session : SessionId}
    (usable : world.usable session = true) (setup : Setup σ H N) (dispatch : Dispatch σ H N)
    (words : List String) :
    ∃ list scene, (perform setup dispatch (.quoteList session words)).exec world =
      .ok list { world with scene } := by
  obtain ⟨present, mayUse⟩ := World.usable_iff.mp usable
  exact ⟨_, _, exec_quoteList_ok.mpr ⟨present, mayUse, rfl, rfl⟩⟩

theorem Run.submits_perform {world : World σ H N} {session : SessionId}
    (usable : world.usable session = true) (setup : Setup σ H N) (dispatch : Dispatch σ H N)
    (script : String) :
    Submits setup.engine dispatch session (Text.encode script) world id
      ((perform setup dispatch (.evaluate session script)).exec world) := by
  obtain ⟨present, mayUse⟩ := World.usable_iff.mp usable
  rw [exec_perform_evaluate present mayUse]
  exact submits_evaluate setup.engine dispatch session script world

theorem Run.answered_of_exec {heap : σ → Heap} {format : ListFormat} {setup : Setup σ H N}
    (laws : setup.engine.QuotesLists (heap · = ·) format) {dispatch : Dispatch σ H N}
    {request : Request H N} {answer : request.Answer} {world later : World σ H N}
    (returned : (perform setup dispatch request).exec world = .ok answer later) :
    request.Answered format answer := by
  cases request with
  | quoteList session words =>
      obtain ⟨_, _, same, _⟩ := exec_quoteList_ok.mp returned
      have shown : heap world.scene.store = heap world.scene.store := rfl
      obtain ⟨spelled, _⟩ := Call.meets_quoteList laws session shown words
      have reads := format.split_render (words.map Text.encode)
      rw [← spelled] at reads
      exact same ▸ reads
  | _ => trivial

namespace Host

/-- The scripts that the program hands over, one after the other, when it is run in this world.
What programs that answer callbacks hand over meanwhile is not among them. -/
def handed (setup : Setup σ H N) (fuel : Nat) :
    Host H N α → World σ H N → List (SessionId × String)
  | .done _, _ => []
  | .ask request next, world =>
      (request.script?.filter fun script => world.usable script.1).toList ++
        match (Run.perform setup (Run.dispatch setup fuel) request).exec world with
        | .ok answer later => handed setup fuel (next answer) later
        | .error _ _ => []

theorem handed_eval {setup : Setup σ H N} {fuel : Nat} {world : World σ H N} {session : SessionId}
    (usable : world.usable session = true) (script : String) :
    handed setup fuel (eval session script).run world = [(session, script)] := by
  rw [eval_run, handed]
  simp only [Request.script?, Option.filter_some, usable, if_true, Option.toList_some,
    List.singleton_append]
  split <;> rfl

def Hands (format : ListFormat) (allowed : SessionId → String → Prop) : Host H N α → Prop
  | .done _ => True
  | .ask request next =>
      (∀ script ∈ request.script?, allowed script.1 script.2) ∧
        ∀ answer, request.Answered format answer → Hands format allowed (next answer)

variable {format : ListFormat} {allowed : SessionId → String → Prop}

theorem Hands.of_mem_handed {heap : σ → Heap} {setup : Setup σ H N}
    (laws : setup.engine.QuotesLists (heap · = ·) format) {program : Host H N α}
    (hands : Hands format allowed program) {fuel : Nat} {world : World σ H N}
    {script : SessionId × String} (member : script ∈ handed setup fuel program world) :
    allowed script.1 script.2 := by
  induction program generalizing world with
  | done result => cases member
  | ask request next ih =>
      rw [handed, List.mem_append] at member
      rcases member with now | later
      · have asked := Option.mem_toList.mp now
        exact hands.1 script (Option.filter_eq_some_iff.mp asked).1
      · split at later
        · rename_i answer between returned
          exact ih answer (hands.2 answer (Run.answered_of_exec laws returned)) later
        · cases later

theorem hands_bind {program : Host H N α} {next : α → Host H N β}
    (hands : Hands format allowed program) (rest : ∀ answer, Hands format allowed (next answer)) :
    Hands format allowed (program >>= next) := by
  induction program with
  | done result => exact rest result
  | ask request others ih => exact ⟨hands.1, fun answer known => ih answer (hands.2 answer known)⟩

def Returns (post : α → Prop) : Host H N α → Prop
  | .done result => post result
  | .ask _ next => ∀ answer, Returns post (next answer)

def Yields (post : α → Prop) (attempt : Attempt H N α) : Prop :=
  Returns (fun outcome => ∀ answer, outcome = .ok answer → post answer) attempt.run

theorem returns_bind {post : β → Prop} {program : Host H N α} {next : α → Host H N β}
    (rest : ∀ answer, Returns post (next answer)) : Returns post (program >>= next) := by
  induction program with
  | done result => exact rest result
  | ask request others ih => exact ih

theorem yields_pure {post : α → Prop} {answer : α} (holds : post answer) :
    Yields post (pure answer : Attempt H N α) := by
  intro other same
  cases same
  exact holds

theorem yields_attempt {post : β → Prop} {attempt : Attempt H N α} {next : α → Attempt H N β}
    (rest : ∀ answer, Yields post (next answer)) : Yields post (attempt >>= next) := by
  unfold Yields
  rw [ExceptT.run_bind]
  refine returns_bind fun outcome => ?_
  cases outcome with
  | ok answer => exact rest answer
  | error cause => exact fun answer same => nomatch same

theorem hands_yielding {post : α → Prop} {attempt : Attempt H N α} {next : α → Attempt H N β}
    (hands : Hands format allowed attempt.run) (yields : Yields post attempt)
    (rest : ∀ answer, post answer → Hands format allowed (next answer).run) :
    Hands format allowed (attempt >>= next).run := by
  unfold Yields at yields
  rw [ExceptT.run_bind]
  generalize attempt.run = program at hands yields
  induction program with
  | done outcome =>
      cases outcome with
      | ok answer => exact rest answer (yields answer rfl)
      | error cause => trivial
  | ask request others ih =>
      exact ⟨hands.1, fun answer known => ih answer (hands.2 answer known) (yields answer)⟩

theorem hands_attempt {attempt : Attempt H N α} {next : α → Attempt H N β}
    (hands : Hands format allowed attempt.run)
    (rest : ∀ answer, Hands format allowed (next answer).run) :
    Hands format allowed (attempt >>= next).run := by
  rw [ExceptT.run_bind]
  refine hands_bind hands fun outcome => ?_
  cases outcome with
  | ok answer => exact rest answer
  | error cause => trivial

theorem hands_lift {program : Host H N α} {next : α → Attempt H N β}
    (hands : Hands format allowed program)
    (rest : ∀ answer, Hands format allowed (next answer).run) :
    Hands format allowed (ExceptT.lift program >>= next).run := by
  rw [ExceptT.run_bind_lift]
  exact hands_bind hands rest

theorem hands_lifted {program : Host H N α} (hands : Hands format allowed program) :
    Hands format allowed (ExceptT.lift program : Attempt H N α).run :=
  hands_bind hands fun _ => trivial

theorem Hands.discard {program : Host H N α} (hands : Hands format allowed program) :
    Hands format allowed (discard program) :=
  hands_bind hands fun _ => trivial

theorem hands_question {request : Request H N} (silent : request.script? = none) :
    Hands format allowed (Program.question request) :=
  ⟨fun script member => absurd (silent ▸ member) (Option.not_mem_none script), fun _ _ => trivial⟩

theorem hands_quoteList {session : SessionId} {words : List String}
    {next : String → Attempt H N β}
    (rest : ∀ list, format.Reads list words → Hands format allowed (next list).run) :
    Hands format allowed (ExceptT.lift (quoteList session words) >>= next).run := by
  rw [ExceptT.run_bind_lift]
  change Hands format allowed (.ask (.quoteList session words) fun list => (next list).run)
  exact ⟨fun script member => absurd member (Option.not_mem_none script), rest⟩

end Host

end TclHost
