import TclHost.Proofs.Run.Answer
import TclHost.Proofs.Run.Evaluation
import TclHost.Proofs.Script.Words
import TclHost.Proofs.Serialise.Enumeration

/-!
Serialising a session gives the same text in whatever order the library enumerates, and so does
reading a variable.
-/

namespace TclHost

variable {σ τ H N : Type}

/-- The texts, or the errors, are the same in both runs, and so are the scripts that are handed over
one after another. -/
theorem TwoRuns.Enumerating.order_hidden {runs : TwoRuns σ τ H N} {format : ListFormat}
    {firstHeap : σ → Heap} {secondHeap : τ → Heap} {session other : SessionId}
    (alike : runs.Enumerating format firstHeap secondHeap session other) :
    runs.AgreeTrying (· = ·) (Host.serialise session) (Host.serialise other) ∧
      ∀ name kind,
        runs.AgreeTrying (· = ·) (Var.script ⟨session, name, kind⟩)
            (Var.script ⟨other, name, kind⟩) ∧
          runs.AgreeTrying (· = ·) (Var.elements ⟨session, name, kind⟩)
            (Var.elements ⟨other, name, kind⟩) :=
  ⟨alike.trying_serialise, fun name kind =>
    ⟨alike.trying_varScript name kind, alike.trying_elements name kind⟩⟩

/-! Two libraries that enumerate in opposite orders. -/

theorem Session.Permuted.change {session other : Session H} (permuted : session.Permuted other)
    (change : Session H → Session H)
    (blind : ∀ state builtins, change { state with builtins } = { change state with builtins }) :
    (change session).Permuted (change other) := by
  have kept (state : Session H) : (change state).builtins = state.builtins := by
    have same := congrArg Session.builtins (blind state state.builtins)
    exact same
  constructor
  · rw [← blind, ← blind, permuted.rest]
  · rw [kept, kept]
    exact permuted.builtins

theorem Session.Permuted.evaluated {session other : Session H}
    (permuted : session.Permuted other) :
    (session.enter.settle (session.depth + 1) .success).leave.Permuted
      (other.enter.settle (other.depth + 1) .success).leave := by
  refine permuted.change (fun state => (state.enter.settle (state.depth + 1) .success).leave)
    fun state builtins => ?_
  simp only [settle, dropExit, enter, leave, exitAt?]
  split <;> split <;> simp_all

namespace Ideal

open Heap

def answering (reply : List UInt8 → List UInt8) : Engine Heap :=
  { engine fun _ => false with
    evaluate := fun interp script heap => .finished 0
      ((heap.set heap.next { count := 1, text := some (reply script) }).assign interp heap.next) }

variable (reply : List UInt8 → List UInt8)

theorem readsLists : (answering reply).ReadsLists (id · = ·) .scripted where
  newObj := quotesLists.newObj
  newString := quotesLists.newString
  increment := quotesLists.increment
  decrement := quotesLists.decrement
  append := quotesLists.append
  bytes := quotesLists.bytes
  newList := quotesLists.newList
  appends := quotesLists.appends
  string := quotesLists.string
  list := quotesLists.list
  splits := quotesLists.splits
  rejects := by
    rintro heap _ object cell text interp rfl found own _ refused
    change (elements interp object heap).1 = none
    have unread : cell.text.bind Scripted.splitElements? = none := by
      rw [own]
      exact refused
    have known : heap.cells object = some cell := found
    simp only [elements, known, unread]

theorem exec_answering {dispatch : Dispatch Heap H N} {world : World Heap H N}
    {session : SessionId} {state : Session H} (present : world.sessions[session]? = some state)
    (script : String) :
    ∃ later, (Run.evaluate (answering reply) dispatch session script).exec world =
        .ok (.ok (some (Text.decode (reply (Text.encode script))))) later ∧
      later.frames = world.frames ∧
      later.sessions[session]? = some (state.enter.settle (state.depth + 1) .success).leave := by
  let begun := world.begin session (Text.encode script)
  let heap := begun.scene.store
  let told := (heap.set heap.next
    { count := 1, text := some (reply (Text.encode script)) }).assign session heap.next
  let left : World Heap H N := { begun with scene := { begun.scene with store := told } }
  have entered : begun.sessions[session]? = some state.enter := by
    simp [begun, World.begin, World.push, World.sessions_update, present]
  have level : begun.depthOf session = state.depth + 1 := by
    simp [World.depthOf, entered, Session.enter]
  have unasked : left.sessions[session]?.bind
      (·.exitStatus? (state.depth + 1) (Completion.ofCode 0)) = none := by
    rw [show left.sessions[session]? = some state.enter from entered]
    rfl
  let completed := left.complete session (state.depth + 1) 0
  let reading := (Call.result (answering reply) session : Call Heap N String).run completed.scene
  let last : World Heap H N := { completed with scene := reading.2 }
  have evaluated : (Run.evaluate (answering reply) dispatch session script).exec world =
      .ok (.ok (some reading.1)) (last.leave session) :=
    Run.exec_evaluate_ok level rfl unasked (by simp [Completion.ofCode])
  have spelled : told.textOf heap.next = some (reply (Text.encode script)) := by
    rw [show told = (heap.assign session heap.next).set heap.next _ from assign_set ..]
    simp [textOf]
  have given : (answering reply).result session completed.scene.store =
      (some heap.next, told) := by
    have stored : completed.scene.store = told := by
      simp [completed, World.complete, World.push, left]
    rw [stored]
    exact congrArg (·, told) (Function.update_self ..)
  have settled : last.sessions[session]? =
      some (state.enter.settle (state.depth + 1) .success) :=
    World.sessions_complete (show left.sessions[session]? = some state.enter from entered) _ 0
  refine ⟨last.leave session, ?_, ?_, ?_⟩
  · have read : ((answering reply).bytes (some heap.next) told).1 = reply (Text.encode script) :=
      bytes_of_textOf spelled
    rw [evaluated, show reading.1 = _ from (Call.result_eq given).1, read]
  · simp [last, completed, left, begun, World.leave, World.complete, World.begin, World.push]
  · rw [World.leave, World.push, World.sessions_update, if_pos rfl, settled]
    rfl

def opposite (reversed : Bool) (script : String) : String :=
  if script ∈ ["info procs", "info vars"] then if reversed then "b a" else "a b"
  else if script = "array get a" then if reversed then "l 2 k 1" else "k 1 l 2"
  else if script ∈ ["info exists a", "array exists a"] then "1"
  else ""

def enumerating (reversed : Bool) : Setup Heap Unit Empty :=
  { setup fun _ => false with
    engine := answering fun script => Text.encode (opposite reversed (Text.decode script)) }

def oppositeRuns : TwoRuns Heap Heap Unit Empty where
  first := enumerating false
  second := enumerating true
  firstFuel := 0
  secondFuel := 0
  related world otherWorld := world.mayUse 0 = true ∧ otherWorld.mayUse 0 = true ∧
    ∃ state otherState, world.sessions[0]? = some state ∧
      otherWorld.sessions[0]? = some otherState ∧ state.Permuted otherState

theorem reply_opposite (script : String) :
    ListFormat.scripted.Reply script (.ok (some (opposite false script)))
      (.ok (some (opposite true script))) := by
  by_cases names : script ∈ ["info procs", "info vars"]
  · have shuffled {words : List String} (asked : words ∈ enumerations) :
        Shuffled words ["a", "b"] ["b", "a"] := .names asked (.swap ..)
    have told {words : List String} (asked : words ∈ enumerations) :
        ListFormat.scripted.Told words "a b" "b a" :=
      .inr ⟨_, _, by decide +kernel, by decide +kernel, shuffled asked⟩
    simp only [opposite, names, if_true, Bool.false_eq_true, if_false]
    rcases List.mem_pair.mp names with rfl | rfl
    · exact .inr ⟨["info", "procs"], _, _, by decide +kernel, rfl, rfl, told (by decide)⟩
    · exact .inr ⟨["info", "vars"], _, _, by decide +kernel, rfl, rfl, told (by decide)⟩
  · by_cases elements : script = "array get a"
    · subst elements
      refine .inr ⟨["array", "get", "a"], _, _, by decide +kernel, rfl, rfl, .inr
        ⟨["k", "1", "l", "2"], ["l", "2", "k", "1"], by decide +kernel, by decide +kernel, ?_⟩⟩
      exact .elements ⟨"a", rfl⟩ (.swap ..)
    · refine .inl ?_
      simp [opposite, names, elements]

theorem exec_enumerating {world : World Heap Unit Empty} {state : Session Unit} (reversed : Bool)
    (mayUse : world.mayUse 0 = true) (present : world.sessions[0]? = some state)
    (script : String) :
    ∃ later, (Run.perform (enumerating reversed) (Run.dispatch (enumerating reversed) 0)
        (.evaluate 0 script)).exec world = .ok (.ok (some (opposite reversed script))) later ∧
      later.mayUse 0 = true ∧
      later.sessions[0]? = some (state.enter.settle (state.depth + 1) .success).leave := by
  obtain ⟨later, answered, frames, settled⟩ := exec_answering
    (fun script => Text.encode (opposite reversed (Text.decode script))) present script
  rw [Text.decode_encode, Text.decode_encode] at answered
  refine ⟨later, Run.exec_using_ok.mpr ⟨⟨state, present⟩, mayUse, answered⟩, ?_, settled⟩
  rw [World.mayUse, frames]
  exact mayUse

theorem enumerating_opposite :
    oppositeRuns.Enumerating .scripted id id 0 0 where
  first := readsLists _
  second := readsLists _
  readsProcs := by decide +kernel
  readsVars := by decide +kernel
  same related := related
  evaluated := by
    rintro world otherWorld ⟨mayUse, otherMayUse, state, otherState, present, otherPresent,
      permuted⟩ script
    obtain ⟨later, answered, usable, settled⟩ := exec_enumerating false mayUse present script
    obtain ⟨otherLater, otherAnswered, otherUsable, otherSettled⟩ :=
      exec_enumerating true otherMayUse otherPresent script
    change oppositeRuns.EndsAlike _
      ((Run.perform (enumerating false) (Run.dispatch (enumerating false) 0)
        (.evaluate 0 script)).exec world)
      ((Run.perform (enumerating true) (Run.dispatch (enumerating true) 0)
        (.evaluate 0 script)).exec otherWorld)
    rw [answered, otherAnswered]
    exact ⟨reply_opposite script, usable, otherUsable, _, _, settled, otherSettled,
      permuted.evaluated⟩
  quoted related _ := related
  split related _ _ := related

def enumerated (names : List String) : World Heap Unit Empty :=
  { opened with sessions := Std.TreeMap.insert ∅ 0 { builtins := some ⟨[], names⟩ } }

theorem order_hidden_opposite : oppositeRuns.Enumerating .scripted id id 0 0 ∧
    oppositeRuns.related (enumerated ["a", "c"]) (enumerated ["c", "a"]) ∧
    oppositeRuns.AgreeTrying (· = ·) (Host.serialise 0) (Host.serialise 0) := by
  have permuted : Session.Permuted ({ builtins := some ⟨[], ["a", "c"]⟩ } : Session Unit)
      { builtins := some ⟨[], ["c", "a"]⟩ } := ⟨rfl, .some ⟨.refl _, .swap ..⟩⟩
  exact ⟨enumerating_opposite, ⟨by decide +kernel, by decide +kernel, _, _, by rfl, by rfl, permuted⟩,
    (TwoRuns.Enumerating.order_hidden enumerating_opposite).1⟩

end Ideal

end TclHost
