import TclHost.Proofs.Run.Orderly

/-!
What is being done to which session at each moment of a run, read off the record. Here is what one
step may do, and what a part of a run leaves under way; `Deeds` shows that every run keeps to it.
-/

namespace TclHost

variable {σ H N : Type}

namespace Record

inductive Activity where
  | evaluating
  | restricting
  | answering
  | closing
  deriving DecidableEq, Repr

def turn (underWay : List (Activity × SessionId)) : Event N → List (Activity × SessionId)
  | .evaluate session _ => (.evaluating, session) :: underWay
  | .makeSafe session => (.restricting, session) :: underWay
  | .called session => (.answering, session) :: underWay
  | .delete session => (.closing, session) :: underWay
  | .returned _ | .restricted _ _ | .sent _ _ | .release _ => underWay.tail
  | _ => underWay

def underWay (record : List (Event N)) : List (Activity × SessionId) :=
  record.foldl turn []

/-- The entries end the activities that they begin, and no others. -/
def Rounded (entries : List (Event N)) : Prop :=
  ∀ underWay, entries.foldl turn underWay = underWay

theorem underWay_append (record entries : List (Event N)) :
    underWay (record ++ entries) = entries.foldl turn (underWay record) :=
  List.foldl_append

theorem underWay_concat (record : List (Event N)) (event : Event N) :
    underWay (record ++ [event]) = turn (underWay record) event :=
  underWay_append record [event]

theorem Rounded.underWay {entries : List (Event N)} (rounded : Rounded entries)
    (record : List (Event N)) : underWay (record ++ entries) = Record.underWay record :=
  (underWay_append record entries).trans (rounded _)

theorem Rounded.append {entries others : List (Event N)} (first : Rounded entries)
    (second : Rounded others) : Rounded (entries ++ others) := by
  intro underWay
  rw [List.foldl_append, first, second]

theorem rounded_of_forall {entries : List (Event N)}
    (level : ∀ event ∈ entries, ∀ underWay, turn underWay event = underWay) : Rounded entries := by
  intro underWay
  induction entries with
  | nil => rfl
  | cons event rest ih =>
      rw [List.foldl_cons, level event (by simp)]
      exact ih fun other member => level other (by simp [member])

/-- Something is begun and ended. -/
theorem Rounded.within {entries : List (Event N)} {first last : Event N}
    {begun : Activity × SessionId} (rounded : Rounded entries)
    (opens : ∀ underWay, turn underWay first = begun :: underWay)
    (closes : ∀ underWay, turn underWay last = underWay.tail) :
    Rounded (first :: (entries ++ [last])) := by
  intro underWay
  rw [List.foldl_cons, List.foldl_append, opens, rounded, List.foldl_cons, closes, List.tail_cons,
    List.foldl_nil]

end Record

open Record (Activity)

def Event.Neutral (event : Event N) : Prop :=
  event.session? = none ∧ ∀ underWay, Record.turn underWay event = underWay

theorem Event.IsObject.neutral {event : Event N} (object : event.IsObject) : event.Neutral := by
  refine ⟨object.session?, fun underWay => ?_⟩
  cases event <;> first | rfl | exact object.elim

/-- What only the program that opens a session has done to it, until it is ready. -/
inductive Event.Prepares (session : SessionId) : Event N → Prop
  | evaluate (script : List UInt8) : Prepares session (.evaluate session script)
  | restricted (code : Int) : Prepares session (.restricted session code)

theorem Event.Prepares.session? {session : SessionId} {event : Event N}
    (prepares : event.Prepares session) : event.session? = some session := by
  cases prepares <;> rfl

def snapshotScripts : List (List UInt8) :=
  [Text.encode "info procs", Text.encode "info vars"]

namespace World

variable {world between later : World σ H N} {waiting : List Frame} {session : SessionId}

def innermost (world : World σ H N) : Option (Activity × SessionId) :=
  (Record.underWay world.record).head?

/-- What changes a session: something under way for it, which nothing else is inside of, or the
innermost program, which holds the session. -/
inductive Handling (session : SessionId) (world later : World σ H N) : Prop
  | inside (activity : Activity)
      (within : later.innermost = some (activity, session) ∨
        world.innermost = some (activity, session))
  | edit (state : Session H) (table : CommandTable H)
      (present : world.sessions[session]? = some state) (ready : state.stage ≠ .fresh)
      (usable : world.mayUse session = true)
      (edited : later.sessions[session]? = some { state with commands := table })
  | prepare (state next : Session H) (present : world.sessions[session]? = some state)
      (fresh : state.stage = .fresh) (usable : world.mayUse session = true)
      (prepared : later.sessions[session]? = some next)
      (only : next = { state with builtins := next.builtins, stage := next.stage })
  | enrol (absent : world.sessions[session]? = none)
      (enrolled : later.sessions[session]? = some {})

structure Deed (setup : Setup σ H N) (world later : World σ H N) : Prop where
  handled : ∀ session, later.sessions[session]? = world.sessions[session]? ∨
    Handling session world later
  evaluated : ∀ session script, later.record = world.record ++ [.evaluate session script] →
    world.IsFresh session → script ∈ snapshotScripts
  restricted : ∀ session entries, later.record = world.record ++ entries →
    .makeSafe session ∈ entries → ∃ state, world.sessions[session]? = some state ∧ state.safe = false
  readied : ∀ session, later.record = world.record ++ [.ready session] →
    ∀ code, .restricted session code ∈ world.record → code = 0
  library : later.library = world.library ∨
    ∃ config, later.library = (world.library.load setup.libraries config).2

def deeds (setup : Setup σ H N) : Process.Rules (World σ H N) Halt where
  step := Deed setup
  halt _ last world := Deed setup world (last world)

def Idle (world later : World σ H N) : Prop :=
  ∃ entries, later.record = world.record ++ entries ∧ ∀ event ∈ entries,
    (∀ underWay, Record.turn underWay event = underWay) ∧ ∀ session, ¬ event.Prepares session

/-- What a part of a run leaves under way, and that sessions that are being opened by somebody who
waits are left to him. -/
def Passed (waiting : List Frame) (world later : World σ H N) : Prop :=
  ∃ entries, later.record = world.record ++ entries ∧ Record.Rounded entries ∧
    ∀ session, waiting.any (·.holds session) = true → world.IsFresh session →
      ∀ event ∈ entries, ¬ event.Prepares session

variable {setup : Setup σ H N}

/-! Steps that do little. -/

theorem Deed.recorded {event : Event N} (grown : later.record = world.record ++ [event])
    (handled : ∀ session, later.sessions[session]? = world.sessions[session]? ∨
      Handling session world later)
    (library : later.library = world.library)
    (evaluated : ∀ session script, event = .evaluate session script → world.IsFresh session →
      script ∈ snapshotScripts)
    (restricted : ∀ session, event = .makeSafe session →
      ∃ state, world.sessions[session]? = some state ∧ state.safe = false)
    (readied : ∀ session, event = .ready session →
      ∀ code, .restricted session code ∈ world.record → code = 0) : Deed setup world later := by
  have only {other : Event N} (same : later.record = world.record ++ [other]) : event = other := by
    simpa using grown.symm.trans same
  constructor
  · exact handled
  · intro session script same
    exact evaluated session script (only same)
  · intro session entries same member
    rw [← List.append_cancel_left (grown.symm.trans same), List.mem_singleton] at member
    exact restricted session member.symm
  · intro session same
    exact readied session (only same)
  · exact .inl library

theorem Deed.neutral {entries : List (Event N)} (grown : later.record = world.record ++ entries)
    (neutral : ∀ event ∈ entries, event.Neutral)
    (handled : ∀ session, later.sessions[session]? = world.sessions[session]? ∨
      Handling session world later)
    (library : later.library = world.library ∨
      ∃ config, later.library = (world.library.load setup.libraries config).2) :
    Deed setup world later := by
  have none {event : Event N} (same : later.record = world.record ++ [event]) : event.Neutral := by
    apply neutral
    simp [List.append_cancel_left (grown.symm.trans same)]
  constructor
  · exact handled
  · intro session script same
    cases (none same).1
  · intro session others same member
    rw [← List.append_cancel_left (grown.symm.trans same)] at member
    simpa [Record.turn] using (neutral _ member).2 []
  · intro session same
    cases (none same).1
  · exact library

theorem Deed.silent (record : later.record = world.record)
    (sessions : later.sessions = world.sessions) (library : later.library = world.library) :
    Deed setup world later := by
  apply Deed.neutral (record.trans (List.append_nil _).symm) (by simp)
  · intro session
    exact .inl (by rw [sessions])
  · exact .inl library

theorem Deed.refl (world : World σ H N) : Deed setup world world :=
  Deed.silent rfl rfl rfl

theorem Deed.push {event : Event N} (library : ∀ session, event ≠ .makeSafe session)
    (silent : event.session? = none) (world : World σ H N) :
    Deed setup world (world.push event) := by
  apply Deed.recorded (record_push world event)
  · exact fun session => .inl rfl
  · rfl
  · rintro session script rfl
    cases silent
  · exact fun session same => absurd same (library session)
  · rintro session rfl
    cases silent

theorem library_update (world : World σ H N) (session : SessionId)
    (change : Session H → Session H) : (world.update session change).library = world.library := by
  unfold update
  split <;> rfl

/-- A change of one session that is recorded. -/
theorem Deed.noted {change : Session H → Session H} {event : Event N}
    (handling : Handling session world ((world.update session change).push event))
    (evaluated : ∀ script, event = .evaluate session script → world.IsFresh session →
      script ∈ snapshotScripts)
    (readied : event = .ready session → ∀ code, .restricted session code ∈ world.record → code = 0)
    (about : event.session? = some session) :
    Deed setup world ((world.update session change).push event) := by
  apply Deed.recorded (record_noted world session change event)
  · intro other
    by_cases same : session = other
    · exact .inr (same ▸ handling)
    · left
      change (world.update session change).sessions[other]? = _
      rw [sessions_update, if_neg same]
  · exact library_update world session change
  · rintro other script rfl
    cases about
    exact evaluated script rfl
  · rintro other rfl
    cases about
  · rintro other rfl
    cases about
    exact readied rfl

/-- A change that comes with what is under way for the session. -/
theorem Deed.within {change : Session H → Session H} {event : Event N} {activity : Activity}
    (inside : world.innermost = some (activity, session)) (about : event.session? = some session)
    (script : ∀ script, event ≠ .evaluate session script) (unready : event ≠ .ready session) :
    Deed setup world ((world.update session change).push event) :=
  Deed.noted (.inside activity (.inr inside)) (fun text same => absurd same (script text))
    (fun same => absurd same unready) about

theorem Deed.unrecorded {change : Session H → Session H}
    (handling : Handling session world (world.update session change)) :
    Deed setup world (world.update session change) := by
  apply Deed.neutral ((record_update world session change).trans (List.append_nil _).symm) (by simp)
  · intro other
    by_cases same : session = other
    · exact .inr (same ▸ handling)
    · exact .inl (by rw [sessions_update, if_neg same])
  · exact .inl (library_update world session change)

theorem Deed.takeDown (world : World σ H N) (session : SessionId) :
    Deed setup world (world.takeDown session) := by
  have grown := record_takeDown world session
  apply Deed.recorded grown
  · intro other
    by_cases same : session = other
    · right
      apply Handling.inside .closing
      left
      rw [innermost, grown, Record.underWay_concat, same]
      rfl
    · exact .inl (by rw [sessions_takeDown, if_neg same])
  · rfl
  · intro other script same
    cases same
  · intro other same
    cases same
  · intro other same
    cases same

theorem Deed.enrol (absent : world.sessions[session]? = none) :
    Deed setup world (world.enrol session) := by
  apply Deed.neutral ((record_enrol world session).trans (List.append_nil _).symm) (by simp)
  · intro other
    rw [sessions_enrol]
    by_cases same : session = other
    · subst same
      exact .inr (.enrol absent (by rw [sessions_enrol, if_pos rfl]))
    · exact .inl (by rw [if_neg same])
  · left
    rw [World.enrol, keep_eq]

/-! What is left under way. -/

theorem not_prepares {event : Event N} (silent : event.session? = none) (session : SessionId) :
    ¬ event.Prepares session := by
  intro prepares
  rw [prepares.session?] at silent
  cases silent

theorem Idle.of_neutral {entries : List (Event N)} (grown : later.record = world.record ++ entries)
    (neutral : ∀ event ∈ entries, event.Neutral) : Idle world later := by
  refine ⟨entries, grown, fun event member => ?_⟩
  obtain ⟨silent, level⟩ := neutral event member
  exact ⟨level, not_prepares silent⟩

theorem Idle.of_record (record : later.record = world.record) : Idle world later :=
  Idle.of_neutral (record.trans (List.append_nil _).symm) (by simp)

theorem Idle.noted {change : Session H → Session H} {event : Event N}
    (level : ∀ underWay, Record.turn underWay event = underWay)
    (spares : ∀ session, ¬ event.Prepares session) :
    Idle world ((world.update session change).push event) := by
  refine ⟨[event], record_noted world session change event, ?_⟩
  intro other member
  rw [List.mem_singleton] at member
  exact member ▸ ⟨level, spares⟩

theorem Idle.refl : Idle world world :=
  Idle.of_record rfl

theorem Idle.trans (first : Idle world between) (second : Idle between later) :
    Idle world later := by
  obtain ⟨entries, grown, idle⟩ := first
  obtain ⟨others, grownOn, idleOn⟩ := second
  refine ⟨entries ++ others, ?_, ?_⟩
  · rw [grownOn, grown, List.append_assoc]
  · intro event member
    rcases List.mem_append.mp member with earlier | latest
    · exact idle event earlier
    · exact idleOn event latest

theorem Idle.passed (idle : Idle world later) : Passed waiting world later := by
  obtain ⟨entries, grown, idle⟩ := idle
  refine ⟨entries, grown, Record.rounded_of_forall fun event member => (idle event member).1, ?_⟩
  intro session _ _ event member
  exact (idle event member).2 session

theorem Passed.refl : Passed waiting world world :=
  Idle.refl.passed

/-- What is idle at the end is so whatever sessions there are. -/
theorem Passed.idle (passed : Passed waiting world between) (idle : Idle between later) :
    Passed waiting world later := by
  obtain ⟨entries, grown, rounded, spares⟩ := passed
  obtain ⟨others, grownOn, idle⟩ := idle
  have level := Record.rounded_of_forall fun event member => (idle event member).1
  refine ⟨entries ++ others, ?_, rounded.append level, ?_⟩
  · rw [grownOn, grown, List.append_assoc]
  · intro session held fresh event member
    rcases List.mem_append.mp member with earlier | latest
    · exact spares session held fresh event earlier
    · exact (idle event latest).2 session

theorem Passed.trans (first : Passed waiting world between)
    (guarded : ∀ session, waiting.any (·.holds session) = true → world.IsFresh session →
      between.IsFresh session)
    (second : Passed waiting between later) : Passed waiting world later := by
  obtain ⟨entries, grown, rounded, spares⟩ := first
  obtain ⟨others, grownOn, roundedOn, sparesOn⟩ := second
  refine ⟨entries ++ others, ?_, rounded.append roundedOn, ?_⟩
  · rw [grownOn, grown, List.append_assoc]
  · intro session held fresh event member
    rcases List.mem_append.mp member with earlier | latest
    · exact spares session held fresh event earlier
    · exact sparesOn session held (guarded session held fresh) event latest

theorem Passed.mono {inner : List Frame} (passed : Passed waiting world later)
    (fewer : ∀ session, inner.any (·.holds session) = true → waiting.any (·.holds session) = true) :
    Passed inner world later := by
  obtain ⟨entries, grown, rounded, spares⟩ := passed
  exact ⟨entries, grown, rounded, fun session held => spares session (fewer session held)⟩

theorem Passed.outer {frame : Frame} (passed : Passed (frame :: waiting) world later) :
    Passed waiting world later :=
  passed.mono fun session held => by simp [held]

theorem Passed.underWay (passed : Passed waiting world later) :
    Record.underWay later.record = Record.underWay world.record := by
  obtain ⟨entries, grown, rounded, _⟩ := passed
  rw [grown, rounded.underWay]

def Unfailed (session : SessionId) (world later : World σ H N) : Prop :=
  ∀ code, .restricted session code ∈ later.record →
    code = 0 ∨ .restricted session code ∈ world.record

theorem Unfailed.trans (first : Unfailed session world between)
    (second : Unfailed session between later) : Unfailed session world later := by
  intro code member
  rcases second code member with same | earlier
  · exact .inl same
  · exact first code earlier

theorem Passed.unfailed (passed : Passed waiting world later)
    (held : waiting.any (·.holds session) = true) (fresh : world.IsFresh session) :
    Unfailed session world later := by
  obtain ⟨entries, grown, _, spares⟩ := passed
  intro code member
  rw [grown, List.mem_append] at member
  rcases member with earlier | latest
  · exact .inr earlier
  · exact absurd (.restricted code) (spares session held fresh _ latest)

theorem Idle.unfailed (idle : Idle world later) : Unfailed session world later := by
  obtain ⟨entries, grown, idle⟩ := idle
  intro code member
  rw [grown, List.mem_append] at member
  rcases member with earlier | latest
  · exact .inr earlier
  · exact absurd (.restricted code) ((idle _ latest).2 session)

theorem unfailed_of_recorded {event : Event N} (grown : later.record = world.record ++ [event])
    (safe : ∀ code, event = .restricted session code → code = 0) :
    Unfailed session world later := by
  intro code member
  rw [grown, List.mem_append, List.mem_singleton] at member
  rcases member with earlier | rfl
  · exact .inr earlier
  · exact .inl (safe code rfl)

end World

end TclHost
