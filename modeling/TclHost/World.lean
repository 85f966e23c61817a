import TclHost.Desk
import TclHost.Library
import TclHost.Scene

/-!
The state of a running process: the library and its interpreters, the sessions, the handles on the
desk, and the handles that running programs hold.
-/

namespace TclHost

structure Frame where
  /-- The session whose command the program answers; the outermost program answers none. -/
  caller : Option SessionId := none
  /-- What the program took or opened itself, latest first. -/
  kept : List SessionId := []
  deriving Inhabited

def Frame.holds (frame : Frame) (session : SessionId) : Bool :=
  frame.caller == some session || frame.kept.contains session

structure World (σ H N : Type) where
  scene : Scene σ N
  library : Library := {}
  /-- How many interpreters were asked for. -/
  created : Nat := 0
  /-- The sessions that can be reached; one that is being taken down is gone already. -/
  sessions : Std.TreeMap SessionId (Session H) := ∅
  desk : Desk := {}
  frames : List Frame := [{}]

namespace World

variable {σ H N : Type}

def holds (world : World σ H N) (session : SessionId) : Bool :=
  world.desk.holds session || world.frames.any (·.holds session)

def mayUse (world : World σ H N) (session : SessionId) : Bool :=
  match world.frames with
  | [] => false
  | frame :: _ => frame.holds session

def record (world : World σ H N) : List (Event N) :=
  world.scene.events.toList

def push (world : World σ H N) (event : Event N) : World σ H N :=
  { world with scene := { world.scene with events := world.scene.events.push event } }

def depthOf (world : World σ H N) (session : SessionId) : Nat :=
  match world.sessions[session]? with
  | some state => state.depth
  | none => 0

def update (world : World σ H N) (session : SessionId) (change : Session H → Session H) :
    World σ H N :=
  match world.sessions[session]? with
  | none => world
  | some state => { world with sessions := world.sessions.insert session (change state) }

theorem sessions_update (world : World σ H N) (session other : SessionId)
    (change : Session H → Session H) :
    (world.update session change).sessions[other]? =
      if session = other then world.sessions[other]?.map change else world.sessions[other]? := by
  by_cases same : session = other
  · subst same
    cases found : world.sessions[session]? with
    | none => simp [update, found]
    | some state => simp [update, found]
  · cases found : world.sessions[session]? with
    | none => simp [update, found, same]
    | some state => simp [update, found, same, Std.TreeMap.getElem?_insert]

def keep (world : World σ H N) (session : SessionId) : World σ H N :=
  match world.frames with
  | [] => world
  | frame :: rest => { world with frames := { frame with kept := session :: frame.kept } :: rest }

/-! What happens to a session is recorded as it happens. -/

def enrol (world : World σ H N) (session : SessionId) : World σ H N :=
  { world with sessions := world.sessions.insert session {} }.keep session

def ready (world : World σ H N) (session : SessionId) : World σ H N :=
  (world.update session fun state => { state with stage := .ready }).push (.ready session)

theorem sessions_ready (world : World σ H N) (session : SessionId) :
    (world.ready session).sessions[session]? =
      world.sessions[session]?.map fun state => { state with stage := .ready } :=
  (sessions_update world session session _).trans (if_pos rfl)

def restrict (world : World σ H N) (session : SessionId) (code : Int) : World σ H N :=
  (world.update session fun state => { state with safe := state.safe || code = 0 }).push
    (.restricted session code)

def begin (world : World σ H N) (session : SessionId) (script : List UInt8) : World σ H N :=
  (world.update session Session.enter).push (.evaluate session script)

def complete (world : World σ H N) (session : SessionId) (depth : Nat) (code : Int) :
    World σ H N :=
  (world.update session (·.settle depth (Completion.ofCode code))).push (.completed session code)

def terminate (world : World σ H N) (session : SessionId) (code : Int) : World σ H N :=
  (world.update session Session.terminate).push (.completed session code)

def leave (world : World σ H N) (session : SessionId) : World σ H N :=
  (world.update session Session.leave).push (.returned session)

def answer (world : World σ H N) (session : SessionId) (outcome : Outcome) : World σ H N :=
  (world.update session (·.answer outcome)).push (.answered session outcome)

def takeDown (world : World σ H N) (session : SessionId) : World σ H N :=
  { world with sessions := world.sessions.erase session }.push (.delete session)

end World

inductive Halt where
  | exited (status : Int)
  /-- The program used a session of which it holds no handle. -/
  | unheld (session : SessionId)
  | outOfFuel
  deriving DecidableEq, Repr

end TclHost
