import TclHost.Event
import TclHost.Session

/-!
What the record of a run says about the evaluations of a session and the exits asked for in them.
-/

namespace TclHost

variable {N : Type}

/-- The session to which an event happens. Calls of the library's own happen to none. -/
def Event.session? : Event N → Option SessionId
  | .ready session | .restricted session _ | .evaluate session _ | .completed session _
  | .returned session | .answered session _ | .delete session => some session
  | _ => none

def Event.begins (session : SessionId) : Event N → Bool
  | .evaluate other _ => other = session
  | _ => false

def Event.ends (session : SessionId) : Event N → Bool
  | .returned other => other = session
  | _ => false

namespace Record

def begun (session : SessionId) (record : List (Event N)) : Nat :=
  record.countP (Event.begins session)

def ended (session : SessionId) (record : List (Event N)) : Nat :=
  record.countP (Event.ends session)

/-- The library runs the command of a session only while it evaluates a script there, or when it
deletes the interpreter. -/
def CallsInside (record : List (Event N)) : Prop :=
  ∀ before session after, record = before ++ .called session :: after →
    ended session before < begun session before ∨ .delete session ∈ before

/-- The evaluations of a session that began inside another one and have not returned. Nothing is
left to say once more of them returned than began. -/
def stepInside (session : SessionId) (level : Nat) : Event N → Option Nat
  | .evaluate other _ => some (if other = session then level + 1 else level)
  | .returned other =>
      if other = session then if level = 0 then none else some (level - 1) else some level
  | _ => some level

def levelInside (session : SessionId) (record : List (Event N)) : Option Nat :=
  record.foldlM (stepInside session) 0

structure View where
  /-- How many evaluations of the same session run inside it. -/
  nested : Nat := 0
  /-- The exits asked for while it was the innermost of them. -/
  own : List Int := []
  /-- Whether an evaluation inside it asked for an exit later than that. -/
  overtaken : Bool := false

def View.request (view : View) (status : Int) : View :=
  if view.nested = 0 then { view with own := view.own ++ [status], overtaken := false }
  else { view with overtaken := true }

/-- The view ends when the library is done with the evaluation itself. -/
def View.next (session : SessionId) (view : View) : Event N → Option View
  | .evaluate other _ =>
      some (if other = session then { view with nested := view.nested + 1 } else view)
  | .completed other _ => if other = session ∧ view.nested = 0 then none else some view
  | .returned other =>
      if other = session then
        if view.nested = 0 then none else some { view with nested := view.nested - 1 }
      else some view
  | .answered other outcome =>
      if other = session then some ((outcome.exitStatus?.map view.request).getD view)
      else some view
  | _ => some view

def view? (session : SessionId) (record : List (Event N)) : Option View :=
  record.foldlM (View.next session) {}

/-- The exit that the process ends with if the evaluation fails. -/
def View.due? (view : View) : Option Int :=
  if view.overtaken then none else view.own.getLast?

theorem View.due?_eq_some_iff (view : View) (status : Int) :
    view.due? = some status ↔ view.own.getLast? = some status ∧ view.overtaken = false := by
  cases overtaken : view.overtaken <;> simp [due?, overtaken]

/-! Growing records. -/

variable {session : SessionId}

@[simp] theorem view?_nil : view? session ([] : List (Event N)) = some {} := rfl

theorem view?_append_singleton (record : List (Event N)) (event : Event N) :
    view? session (record ++ [event]) = (view? session record).bind (View.next session · event) := by
  simp [view?, List.foldlM_append, Option.bind_eq_bind]

theorem View.next_of_session?_ne {view : View} {event : Event N}
    (elsewhere : event.session? ≠ some session) : View.next session view event = some view := by
  cases event <;> simp_all [View.next, Event.session?]

theorem view?_append {record entries : List (Event N)}
    (elsewhere : ∀ event ∈ entries, event.session? ≠ some session) :
    view? session (record ++ entries) = view? session record := by
  induction entries generalizing record with
  | nil => simp
  | cons event rest ih =>
      have first := elsewhere event (by simp)
      rw [List.append_cons, ih fun other member => elsewhere other (by simp [member]),
        view?_append_singleton]
      cases view? session record with
      | none => rfl
      | some view => exact View.next_of_session?_ne first

@[simp] theorem begun_append (record entries : List (Event N)) :
    begun session (record ++ entries) = begun session record + begun session entries :=
  List.countP_append

@[simp] theorem ended_append (record entries : List (Event N)) :
    ended session (record ++ entries) = ended session record + ended session entries :=
  List.countP_append

theorem begun_eq_zero {entries : List (Event N)}
    (elsewhere : ∀ event ∈ entries, event.session? ≠ some session) :
    begun session entries = 0 := by
  refine List.countP_eq_zero.mpr fun event member => ?_
  have other := elsewhere event member
  cases event <;> simp_all [Event.begins, Event.session?]

theorem ended_eq_zero {entries : List (Event N)}
    (elsewhere : ∀ event ∈ entries, event.session? ≠ some session) :
    ended session entries = 0 := by
  refine List.countP_eq_zero.mpr fun event member => ?_
  have other := elsewhere event member
  cases event <;> simp_all [Event.ends, Event.session?]

/-- An event that is not among the latest entries was recorded before them. -/
theorem split_of_not_mem {record entries before after : List (Event N)} {event : Event N}
    (absent : event ∉ entries) (same : record ++ entries = before ++ event :: after) :
    ∃ inner, after = inner ++ entries ∧ record = before ++ event :: inner := by
  rcases List.append_eq_append_iff.mp same with ⟨shared, _, later⟩ | ⟨shared, earlier, later⟩
  · exact absurd (later ▸ List.mem_append_right _ List.mem_cons_self) absent
  · cases shared with
    | nil =>
        have member : event ∈ entries := by simp [← show event :: after = entries from later]
        exact absurd member absent
    | cons first inner =>
        simp only [List.cons_append, List.cons.injEq] at later
        obtain ⟨rfl, rfl⟩ := later
        exact ⟨inner, rfl, earlier⟩

theorem split_last {record before after : List (Event N)} {event last : Event N}
    (same : record ++ [last] = before ++ event :: after) :
    (after = [] ∧ event = last ∧ record = before) ∨
      ∃ inner, after = inner ++ [last] ∧ record = before ++ event :: inner := by
  rcases List.append_eq_append_iff.mp same with ⟨shared, front, back⟩ | ⟨shared, front, back⟩
  · cases shared with
    | nil =>
        simp only [List.nil_append, List.cons.injEq] at back
        exact Or.inl ⟨back.2.symm, back.1.symm, by simp [front]⟩
    | cons first rest => simp at back
  · cases shared with
    | nil =>
        simp only [List.nil_append, List.cons.injEq] at back
        exact Or.inl ⟨back.2, back.1, by simp [front]⟩
    | cons first inner =>
        simp only [List.cons_append, List.cons.injEq] at back
        obtain ⟨rfl, rfl⟩ := back
        exact Or.inr ⟨inner, rfl, front⟩

theorem CallsInside.of_append {record entries : List (Event N)}
    (inside : CallsInside (record ++ entries)) : CallsInside record := by
  intro before session after same
  exact inside before session (after ++ entries) (by simp [same])

theorem begun_eq_of_levelInside {record : List (Event N)} {level : Nat}
    (inside : levelInside session record = some level) :
    begun session record = level + ended session record := by
  suffices counted : ∀ start, record.foldlM (stepInside session) start = some level →
      start + begun session record = level + ended session record by
    simpa using counted 0 inside
  clear inside
  induction record with
  | nil =>
      intro start followed
      simp only [List.foldlM_nil, Option.pure_def, Option.some.injEq] at followed
      simp [begun, ended, followed]
  | cons event rest ih =>
      intro start followed
      rw [List.foldlM_cons, Option.bind_eq_bind, Option.bind_eq_some_iff] at followed
      obtain ⟨next, stepped, followed⟩ := followed
      have counted := ih next followed
      simp only [begun, ended, List.countP_cons] at counted ⊢
      cases event with
      | evaluate other script =>
          simp only [stepInside, Option.some.injEq] at stepped
          simp only [Event.begins, Event.ends, decide_eq_true_eq]
          split at stepped
          · simp_all
            omega
          · simp_all
      | returned other =>
          simp only [stepInside] at stepped
          simp only [Event.begins, Event.ends, decide_eq_true_eq]
          split at stepped
          · simp_all
            omega
          · simp_all
      | _ => simp_all [stepInside, Event.begins, Event.ends]

end Record

end TclHost
