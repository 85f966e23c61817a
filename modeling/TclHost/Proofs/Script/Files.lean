import TclHost.Host.ScriptFile
import TclHost.Proofs.Run.Departure
import TclHost.Proofs.Script.Words
import TclHost.Proofs.Serialise.Agreement

/-!
Loading script files is all or nothing. Reading a file is no step of the run, so that nothing at all
has happened to any session when the last file has been read, or one cannot be.
-/

namespace TclHost

variable {σ H N α β : Type}

theorem Text.decodeStrict?_eq_some_iff {bytes : List UInt8} {text : String} :
    decodeStrict? bytes = some text ↔ bytes = text.toList.flatMap String.utf8EncodeChar := by
  have written : (text.toList.flatMap String.utf8EncodeChar).toByteArray = text.toByteArray :=
    String.utf8Encode_toList
  unfold decodeStrict? String.fromUTF8?
  constructor
  · intro decoded
    split at decoded
    · cases decoded
      have same := congrArg (·.data.toList) written
      simp only [List.toList_data_toByteArray] at same
      exact (same.trans List.toList_data_toByteArray).symm
    · cases decoded
  · rintro rfl
    rw [written, dif_pos text.isValidUTF8]
    rfl

namespace Setup

def Holds (setup : Setup σ H N) (path text : String) : Prop :=
  setup.files path = .ok (text.toList.flatMap String.utf8EncodeChar)

inductive Denies (setup : Setup σ H N) (path : String) : String → Prop where
  | unread {cause : String} (failed : setup.files path = .error cause) : Denies setup path cause
  | malformed {bytes : List UInt8} (found : setup.files path = .ok bytes)
      (unwritten : ∀ text : String, bytes ≠ text.toList.flatMap String.utf8EncodeChar) :
      Denies setup path "stream did not contain valid UTF-8"

def StopsAt (setup : Setup σ H N) (paths : List String) (path cause : String) : Prop :=
  ∃ earlier later, paths = earlier ++ path :: later ∧
    (∀ other ∈ earlier, ∃ text, setup.Holds other text) ∧ setup.Denies path cause

theorem holds_or_denies (setup : Setup σ H N) (path : String) :
    (∃ text, setup.Holds path text) ∨ ∃ cause, setup.Denies path cause := by
  cases found : setup.files path with
  | error cause => exact .inr ⟨cause, .unread found⟩
  | ok bytes =>
      by_cases written : ∃ text : String, bytes = text.toList.flatMap String.utf8EncodeChar
      · obtain ⟨text, rfl⟩ := written
        exact .inl ⟨text, found⟩
      · exact .inr ⟨_, .malformed found (not_exists.mp written)⟩

theorem holds_or_stops (setup : Setup σ H N) (paths : List String) :
    (∃ texts, List.Forall₂ setup.Holds paths texts) ∨
      ∃ path cause, setup.StopsAt paths path cause := by
  induction paths with
  | nil => exact .inl ⟨[], .nil⟩
  | cons path rest ih =>
      rcases setup.holds_or_denies path with ⟨text, holds⟩ | ⟨cause, denies⟩
      · rcases ih with ⟨texts, others⟩ | ⟨other, cause, earlier, later, rfl, read, denies⟩
        · exact .inl ⟨text :: texts, .cons holds others⟩
        · exact .inr ⟨other, cause, path :: earlier, later, rfl,
            List.forall_mem_cons.mpr ⟨⟨text, holds⟩, read⟩, denies⟩
      · exact .inr ⟨path, cause, [], rest, rfl, by simp, denies⟩

end Setup

namespace Run

open Process World

variable {setup : Setup σ H N} {dispatch : Dispatch σ H N} {path : String}

theorem perform_readFile_holds {text : String} (holds : setup.Holds path text) :
    perform setup dispatch (.readFile path) = .done (.ok text) := by
  have decoded := Text.decodeStrict?_eq_some_iff.mpr (rfl : _ = text.toList.flatMap _)
  simp only [perform, show setup.files path = _ from holds, decoded]
  rfl

theorem perform_readFile_denies {cause : String} (denies : setup.Denies path cause) :
    perform setup dispatch (.readFile path) = .done (.error cause) := by
  cases denies with
  | unread failed =>
      simp only [perform, failed]
      rfl
  | @malformed bytes found unwritten =>
      have undecoded : Text.decodeStrict? bytes = none := by
        refine Option.eq_none_iff_forall_ne_some.mpr fun text decoded => ?_
        exact unwritten text (Text.decodeStrict?_eq_some_iff.mp decoded)
      simp only [perform, found, undecoded]
      rfl

theorem after_get_bind (world : World σ H N) (next : World σ H N → Run σ H N α) (count : Nat) :
    (get >>= next).after (count + 1) world = (next world).after count world :=
  rfl

theorem after_held_bind {world : World σ H N} {session : SessionId} {state : Session H}
    (present : world.sessions[session]? = some state) (mayUse : world.mayUse session = true)
    (next : Session H → Run σ H N α) (count : Nat) :
    (held session >>= next).after (count + 1) world = (next state).after count world := by
  rw [held, bind_assoc, after_get_bind, present]
  dsimp only
  rw [if_pos mayUse]
  rfl

theorem after_modify_bind (world : World σ H N) (change : World σ H N → World σ H N)
    (next : PUnit → Run σ H N α) (count : Nat) :
    (modify change >>= next).after (count + 1) world = (next ⟨⟩).after count (change world) :=
  rfl

end Run

namespace Host

variable {setup : Setup σ H N} {fuel : Nat} {session : SessionId}

theorem exec_question (request : Request H N) (world : World σ H N) :
    (Host.run setup fuel (Program.question request)).exec world =
      (Run.perform setup (Run.dispatch setup fuel) request).exec world := by
  rw [Program.question, exec_run_ask]
  cases (Run.perform setup (Run.dispatch setup fuel) request).exec world <;> rfl

theorem handed_question {request : Request H N} (silent : request.script? = none)
    (world : World σ H N) : handed setup fuel (Program.question request) world = [] := by
  rw [Program.question, handed, silent]
  split <;> rfl

structure Immediate (setup : Setup σ H N) (fuel : Nat) (program : Host H N α) (result : α) :
    Prop where
  run : Host.run setup fuel program = .done result
  handed : ∀ world, handed setup fuel program world = []

theorem immediate_done (result : α) : Immediate setup fuel (.done result) result :=
  ⟨rfl, fun _ => rfl⟩

theorem Immediate.run_bind {program : Host H N α} {result : α}
    (immediate : Immediate setup fuel program result) (next : α → Host H N β) :
    Host.run setup fuel (program >>= next) = Host.run setup fuel (next result) := by
  have ran := immediate.run
  unfold Host.run at ran ⊢
  rw [Program.run_bind, ran]
  rfl

theorem Immediate.handed_bind {program : Host H N α} {result : α}
    (immediate : Immediate setup fuel program result) (next : α → Host H N β)
    (world : World σ H N) :
    Host.handed setup fuel (program >>= next) world =
      Host.handed setup fuel (next result) world := by
  rw [Host.handed_bind, immediate.handed, immediate.run]
  rfl

theorem Immediate.bind {program : Host H N α} {next : α → Host H N β} {result : α} {last : β}
    (first : Immediate setup fuel program result)
    (second : Immediate setup fuel (next result) last) :
    Immediate setup fuel (program >>= next) last :=
  ⟨(first.run_bind next).trans second.run,
    fun world => (first.handed_bind next world).trans (second.handed world)⟩

theorem immediate_readFile {path : String} {answer : Except String String}
    (performed : Run.perform setup (Run.dispatch setup fuel) (.readFile path) = .done answer) :
    Immediate setup fuel (readFile path) answer := by
  refine ⟨?_, fun _ => rfl⟩
  change (Run.perform setup (Run.dispatch setup fuel) (.readFile path) >>= fun answer =>
    Process.done answer) = _
  rw [performed]
  rfl

def joined (texts : List String) : String :=
  texts.foldr (fun text rest => text ++ "\n" ++ rest) ""

theorem encode_joined (texts : List String) :
    Text.encode (joined texts) = texts.flatMap fun text => Text.encode text ++ [0x0A] := by
  induction texts with
  | nil => rfl
  | cons text rest ih =>
      have parted : (joined (text :: rest)).toList =
          text.toList ++ '\n' :: (joined rest).toList := by
        simp [joined]
      have newline : Text.encodeChar '\n' = [0x0A] := by decide
      unfold Text.encode at ih ⊢
      simp [parted, newline, ih]

theorem immediate_readScripts_cons {path text : String} {rest : List String}
    {outcome : Except Error String} (holds : setup.Holds path text)
    (others : Immediate setup fuel (readScripts rest : Attempt H N String).run outcome) :
    Immediate setup fuel (readScripts (path :: rest) : Attempt H N String).run
      (outcome.map fun more => text ++ "\n" ++ more) := by
  unfold readScripts
  rw [ExceptT.run_bind_lift]
  refine (immediate_readFile (Run.perform_readFile_holds holds)).bind ?_
  dsimp only
  rw [ExceptT.run_bind]
  refine others.bind ?_
  cases outcome <;> exact immediate_done _

theorem immediate_readScripts {paths texts : List String}
    (holds : List.Forall₂ setup.Holds paths texts) :
    Immediate setup fuel (readScripts paths : Attempt H N String).run (.ok (joined texts)) := by
  induction holds with
  | nil => exact immediate_done _
  | cons first _ ih => exact immediate_readScripts_cons first ih

theorem immediate_stops {paths : List String} {path cause : String}
    (stops : setup.StopsAt paths path cause) :
    Immediate setup fuel (readScripts paths : Attempt H N String).run
      (.error (.unreadable path cause)) := by
  obtain ⟨earlier, later, rfl, read, denies⟩ := stops
  induction earlier with
  | nil =>
      change Immediate setup fuel (readScripts (path :: later) : Attempt H N String).run _
      unfold readScripts
      rw [ExceptT.run_bind_lift]
      exact (immediate_readFile (Run.perform_readFile_denies denies)).bind (immediate_done _)
  | cons other rest ih =>
      obtain ⟨⟨text, holds⟩, others⟩ := List.forall_mem_cons.mp read
      exact immediate_readScripts_cons holds (ih others)

theorem immediate_loadFiles {paths : List String} {path cause : String}
    (stops : setup.StopsAt paths path cause) (fuel : Nat) (session : SessionId) :
    Immediate setup fuel (loadFiles session paths : Attempt H N String).run
      (.error (.unreadable path cause)) := by
  unfold loadFiles
  rw [ExceptT.run_bind]
  exact (immediate_stops stops).bind (immediate_done _)

/-- The texts are handed over together as one script, after nothing else has happened. A zero is
spelled `C0 80` there. -/
structure Loads (setup : Setup σ H N) (fuel : Nat) (session : SessionId)
    (paths texts : List String) : Prop where
  evaluates : Host.run setup fuel (loadFiles session paths : Attempt H N String).run =
    Host.run setup fuel (eval session (joined texts)).run
  handed : ∀ world : World σ H N, world.usable session = true →
    Host.handed setup fuel (loadFiles session paths).run world = [(session, joined texts)]
  submits : ∀ world : World σ H N, world.usable session = true →
    Run.Submits setup.engine (Run.dispatch setup fuel) session
      (texts.flatMap fun text => (text.toList.flatMap fun char =>
        if char = '\x00' then [0xC0, 0x80] else String.utf8EncodeChar char) ++ [0x0A]) world
      (·.map (·.getD "")) ((Host.run setup fuel (loadFiles session paths).run).exec world)
  begun : ∀ world : World σ H N, world.usable session = true →
    (Host.run setup fuel (loadFiles session paths).run).after 1 world = world ∧
      (Host.run setup fuel (loadFiles session paths).run).after 2 world =
        world.begin session (texts.flatMap fun text => (text.toList.flatMap fun char =>
          if char = '\x00' then [0xC0, 0x80] else String.utf8EncodeChar char) ++ [0x0A])

structure Declines (setup : Setup σ H N) (fuel : Nat) (session : SessionId)
    (paths : List String) (cause : Error) : Prop where
  handed : ∀ world : World σ H N, Host.handed setup fuel (loadFiles session paths).run world = []
  unmoved : ∀ (count : Nat) (world : World σ H N),
    (Host.run setup fuel (loadFiles session paths).run).after count world = world
  returns : ∀ world : World σ H N, (Host.run setup fuel (loadFiles session paths).run).exec world =
    .ok (.error cause) world

/-- The session that was opened is nobody else's. It is taken down, and then the error is returned:
always, if the library asks for nothing but the session's own command meanwhile. -/
structure Withdraws (setup : Setup σ H N) (fuel : Nat) (session : SessionId) (cause : Error)
    (opened : World σ H N)
    (ending : EStateM.Result Halt (World σ H N) (Except Error SessionId)) : Prop where
  present : ∃ state, opened.sessions[session]? = some state
  unshared : opened.holds session = false
  ends : ending = (do
    Run.tearDown setup.engine (Run.dispatch setup fuel) session
    return .error cause : Run σ H N (Except Error SessionId)).exec opened
  leaves : ∀ outcome final, ending = .ok outcome final →
    outcome = .error cause ∧ World.TakenDown session opened final
  returns : 0 < fuel → (setup.engine.delete session opened.scene.store).Calls (· = session) →
    ∃ final, ending = .ok (.error cause) final

theorem after_eval {world : World σ H N} (usable : world.usable session = true)
    (script : String) :
    (Host.run setup fuel (eval session script).run).after 1 world = world ∧
      (Host.run setup fuel (eval session script).run).after 2 world =
        world.begin session (Text.encode script) := by
  obtain ⟨⟨state, present⟩, mayUse⟩ := World.usable_iff.mp usable
  have entering : Host.run setup fuel (eval session script : Attempt H N String).run =
      Run.held session >>= fun _ =>
        Run.evaluate setup.engine (Run.dispatch setup fuel) session script >>= fun answer =>
          (return answer.map (·.getD "") : Run σ H N (Except Error String)) := by
    have asked := Run.discard_held_bind session fun _ =>
      Run.evaluate setup.engine (Run.dispatch setup fuel) session script
    rw [eval_run, ← bind_assoc, ← asked]
    rfl
  rw [entering, Run.after_held_bind present mayUse, Run.after_held_bind present mayUse]
  refine ⟨Process.after_zero _ _, ?_⟩
  unfold Run.evaluate
  dsimp only
  rw [bind_assoc, Run.after_modify_bind, Process.after_zero]

theorem loads_of_holds {paths texts : List String} (holds : List.Forall₂ setup.Holds paths texts)
    (fuel : Nat) (session : SessionId) : Loads setup fuel session paths texts := by
  have run : Host.run setup fuel (loadFiles session paths : Attempt H N String).run =
      Host.run setup fuel (eval session (joined texts)).run := by
    unfold loadFiles
    rw [ExceptT.run_bind]
    exact (immediate_readScripts holds).run_bind _
  have bytes := encode_joined texts
  refine ⟨run, fun world usable => ?_, fun world usable => ?_, fun world usable => ?_⟩
  · unfold loadFiles
    rw [ExceptT.run_bind, (immediate_readScripts holds).handed_bind]
    exact handed_eval usable (joined texts)
  · obtain ⟨present, mayUse⟩ := World.usable_iff.mp usable
    rw [run]
    exact bytes ▸ submits_eval present mayUse
  · rw [run]
    exact bytes ▸ after_eval usable (joined texts)

theorem declines_of_stops {paths : List String} {path cause : String}
    (stops : setup.StopsAt paths path cause) (fuel : Nat) (session : SessionId) :
    Declines setup fuel session paths (.unreadable path cause) := by
  obtain ⟨run, handed⟩ := immediate_loadFiles stops fuel session
  refine ⟨handed, fun count world => ?_, fun world => ?_⟩
  · rw [run]
    cases count <;> rfl
  · rw [run]
    rfl

/-- The files are asked for once the session is there. If one of them cannot be read, all that is
left to be done is to let go of the session. -/
theorem openWithFiles_stops {paths : List String} {path cause : String}
    (stops : setup.StopsAt paths path cause) (fuel : Nat) (config : Config)
    (world : World σ H N) :
    Host.handed setup fuel (openWithFiles config paths).run world = [] ∧
      (Host.run setup fuel (openWithFiles config paths).run).exec world =
        match (Run.openSession setup (Run.dispatch setup fuel) config).exec world with
        | .ok (.ok _) opened => (do
            Run.letGo setup.engine (Run.dispatch setup fuel)
            return .error (.unreadable path cause) : Run σ H N (Except Error SessionId)).exec opened
        | .ok (.error failure) final => .ok (.error failure) final
        | .error halt final => .error halt final := by
  have opening : (Host.run setup fuel (openSession config : Attempt H N SessionId).run).exec world =
      (Run.openSession setup (Run.dispatch setup fuel) config).exec world :=
    exec_question (.openSession config) world
  have silent : Host.handed setup fuel (openSession config : Attempt H N SessionId).run world =
      [] := handed_question rfl world
  unfold openWithFiles
  rw [ExceptT.run_bind, handed_bind, exec_run_bind, opening, silent]
  generalize (Run.openSession setup (Run.dispatch setup fuel) config).exec world = opened
  cases opened with
  | error halt final => exact ⟨rfl, rfl⟩
  | ok answer opened =>
      cases answer with
      | error failure => exact ⟨rfl, rfl⟩
      | ok session =>
          have immediate := immediate_loadFiles stops fuel session
          dsimp only
          rw [ExceptT.run_bind_lift, immediate.handed_bind, immediate.run_bind]
          dsimp only
          rw [ExceptT.run_bind_lift, handed_bind]
          refine ⟨?_, rfl⟩
          have quiet : Host.handed setup fuel (letGo : Host H N Unit) opened = [] :=
            handed_question rfl opened
          rw [quiet]
          split <;> rfl

theorem withdraws_of_alone {alone : World σ H N} (sound : alone.Sound)
    (secured : World.Secured alone.frames alone)
    (present : ∃ state, alone.sessions[session]? = some state)
    (unshared : alone.holds session = false) (cause : Error) :
    Withdraws setup fuel session cause alone ((do
      Run.tearDown setup.engine (Run.dispatch setup fuel) session
      return .error cause : Run σ H N (Except Error SessionId)).exec alone) := by
  refine ⟨present, unshared, rfl, fun outcome final ended => ?_, fun fuelled calls => ?_⟩
  · obtain ⟨done, left, down, returned⟩ := Process.exec_bind_ok.mp ended
    obtain ⟨rfl, rfl⟩ := Process.exec_done_ok.mp returned
    exact ⟨rfl, Run.takenDown_of_exec (Run.answers_dispatch setup fuel) sound secured present
      unshared down⟩
  · cases fuel with
    | zero => cases fuelled
    | succ fuel =>
        obtain ⟨final, down⟩ := Run.exec_tearDown_ok setup fuel calls
        exact ⟨final, Process.exec_bind_of_ok down⟩

/-- Nobody but the program that opens a session can have come by it. -/
theorem withdraws_of_opened {caller : Option SessionId} {rest : List Frame}
    {world opened : World σ H N} {config : Config} (sound : world.Sound)
    (standing : World.Standing caller rest world)
    (opening : (Run.openSession setup (Run.dispatch setup fuel) config).exec world =
      .ok (.ok session) opened) (cause : Error) :
    Withdraws setup fuel session cause { opened with frames := world.frames } ((do
      Run.letGo setup.engine (Run.dispatch setup fuel)
      return .error cause : Run σ H N (Except Error SessionId)).exec opened) := by
  obtain ⟨kept, frames⟩ := standing.frames
  obtain ⟨⟨since, framesOpened, _, unshared⟩, reached⟩ :=
    (Run.obeys_openSession (Run.answers_dispatch setup fuel) setup config sound standing.secured
      frames).exec_ok opening
  have soundOpened := reached.preserved (fun _ _ step => step.sound) sound
  -- The program that opens the session takes a handle to it, and that is the one that goes.
  have present : ∃ state, opened.sessions[session]? = some state :=
    soundOpened.alive framesOpened (by simp [Frame.holds])
  have waiting : World.Secured rest
      ({ opened with frames := ⟨caller, kept⟩ :: rest } : World σ H N) :=
    since.outer.secured standing.secured
  rw [Process.exec_bind, Run.exec_letGo_unshared framesOpened present unshared,
    ← Process.exec_bind, frames]
  exact withdraws_of_alone ((World.Step.dropped soundOpened framesOpened).sound soundOpened)
    (waiting.cons rfl) present unshared cause

/-- Either all files are read and evaluated as one script, or nothing is evaluated and the first
file that cannot be read is reported. -/
theorem loads_all_or_nothing (setup : Setup σ H N) (fuel : Nat) (paths : List String) :
    ((∃ texts, List.Forall₂ setup.Holds paths texts) ∨
      ∃ path cause, setup.StopsAt paths path cause) ∧
    (∀ texts, List.Forall₂ setup.Holds paths texts →
      ∀ session, Loads setup fuel session paths texts) ∧
    ∀ path cause, setup.StopsAt paths path cause →
      (∀ session, Declines setup fuel session paths (.unreadable path cause)) ∧
      ∀ (config : Config) (caller : Option SessionId) (rest : List Frame) (world : World σ H N),
        world.Sound → World.Standing caller rest world →
        let ending := (Host.run setup fuel (openWithFiles config paths).run).exec world
        Host.handed setup fuel (openWithFiles config paths).run world = [] ∧
          match (Run.openSession setup (Run.dispatch setup fuel) config).exec world with
          | .ok (.ok session) opened =>
              Withdraws setup fuel session (.unreadable path cause)
                { opened with frames := world.frames } ending
          | .ok (.error failure) final => ending = .ok (.error failure) final
          | .error halt final => ending = .error halt final := by
  refine ⟨setup.holds_or_stops paths, fun texts holds => loads_of_holds holds fuel,
    fun path cause stops => ⟨declines_of_stops stops fuel, ?_⟩⟩
  intro config caller rest world sound standing ending
  obtain ⟨handed, ends⟩ := openWithFiles_stops stops fuel config world
  refine ⟨handed, ?_⟩
  rw [show ending = _ from ends]
  cases opening : (Run.openSession setup (Run.dispatch setup fuel) config).exec world with
  | error halt final => rfl
  | ok answer opened =>
      cases answer with
      | error failure => rfl
      | ok session => exact withdraws_of_opened sound standing opening _

end Host

/-! Two files can be read, of which one holds no text. A third one is missing. -/

namespace Ideal

def shelved : Setup Heap Unit Empty :=
  { setup fun _ => false with
    engine := { engine fun _ => false with
      delete := fun interp heap => .callback interp [] heap .finished }
    files := fun path =>
      if path = "zero" then .ok [0x70, 0x00]
      else if path = "bytes" then .ok [0xFF]
      else .error "No such file or directory (os error 2)" }

theorem shelved_stops (later : List String) :
    shelved.StopsAt ("zero" :: "bytes" :: later) "bytes" "stream did not contain valid UTF-8" := by
  refine ⟨["zero"], later, rfl, by simpa using ⟨"p\x00", rfl⟩, .malformed rfl fun text same => ?_⟩
  have decoded := Text.decodeStrict?_eq_some_iff.mpr same
  rw [show Text.decodeStrict? [0xFF] = none by decide +kernel] at decoded
  cases decoded

def empty : World Heap Unit Empty :=
  World.start Heap.empty { outcome := some (.ok "") }

theorem shelved_loads :
    (opened.usable 0 = true ∧ List.Forall₂ shelved.Holds ["zero", "zero"] ["p\x00", "p\x00"] ∧
      Host.handed shelved 1 (Host.loadFiles 0 ["zero", "zero"]).run opened =
        [(0, "p\x00\np\x00\n")] ∧
      Run.Submits shelved.engine (Run.dispatch shelved 1) 0
        [0x70, 0xC0, 0x80, 0x0A, 0x70, 0xC0, 0x80, 0x0A] opened (·.map (·.getD ""))
        ((Host.run shelved 1 (Host.loadFiles 0 ["zero", "zero"]).run).exec opened) ∧
      (Host.run shelved 1 (Host.loadFiles 0 ["zero", "zero"]).run).after 2 opened =
        opened.begin 0 [0x70, 0xC0, 0x80, 0x0A, 0x70, 0xC0, 0x80, 0x0A]) ∧
    shelved.StopsAt ["zero", "bytes", "none"] "bytes" "stream did not contain valid UTF-8" ∧
      empty.Sound ∧ World.Standing none [] empty ∧
      ∃ left final, (Run.openSession shelved (Run.dispatch shelved 1) {}).exec empty =
          .ok (.ok 0) left ∧
        (Host.run shelved 1 (Host.openWithFiles {} ["zero", "bytes", "none"]).run).exec empty =
          .ok (.error (.unreadable "bytes" "stream did not contain valid UTF-8")) final ∧
        World.TakenDown 0 { left with frames := empty.frames } final := by
  have usable : opened.usable 0 = true := by decide +kernel
  have zero : shelved.Holds "zero" "p\x00" :=
    show Except.ok [0x70, 0x00] = Except.ok _ from by decide +kernel
  have holds : List.Forall₂ shelved.Holds ["zero", "zero"] ["p\x00", "p\x00"] :=
    .cons zero (.cons zero .nil)
  have loads := (Host.loads_all_or_nothing shelved 1 ["zero", "zero"]).2.1 _ holds 0
  have script : Host.joined ["p\x00", "p\x00"] = "p\x00\np\x00\n" := by decide +kernel
  have bytes : (["p\x00", "p\x00"].flatMap fun text => (text.toList.flatMap fun char =>
      if char = '\x00' then [0xC0, 0x80] else String.utf8EncodeChar char) ++ [0x0A]) =
        [0x70, 0xC0, 0x80, 0x0A, 0x70, 0xC0, 0x80, 0x0A] := by decide +kernel
  have handed := loads.handed opened usable
  have submits := loads.submits opened usable
  have begun := (loads.begun opened usable).2
  rw [script] at handed
  rw [bytes] at submits begun
  refine ⟨⟨usable, holds, handed, submits, begun⟩, ?_⟩
  have stops := shelved_stops ["none"]
  have sound : empty.Sound := World.sound_start _ _
  have standing : World.Standing none [] empty := World.standing_start _ _
  have made : Process.result? ((Run.openSession shelved (Run.dispatch shelved 1) {}).exec empty) =
      some (.ok 0) := by decide +kernel
  obtain ⟨left, opening⟩ := Process.result?_eq_some_iff.mp made
  have tried := ((Host.loads_all_or_nothing shelved 1 _).2.2 _ _ stops).2 {} none [] empty sound
    standing
  rw [opening] at tried
  obtain ⟨_, withdraws⟩ := tried
  obtain ⟨final, returned⟩ := withdraws.returns Nat.one_pos ⟨rfl, fun _ _ => trivial⟩
  exact ⟨stops, sound, standing, left, final, opening, returned,
    (withdraws.leaves _ _ returned).2⟩

end Ideal

end TclHost
