import TclHost.Proofs.Run.Step

/-!
Calls into the library that cannot call back only add to the record, and what they add happens to no
session.
-/

namespace TclHost

variable {σ H N α β : Type}

def Event.IsObject : Event N → Prop
  | .newObj _ | .newString _ _ | .increment _ | .decrement _ | .append _ _ _ | .elements _ _
  | .bytes _ | .result _ | .setResult _ => True
  | _ => False

theorem Event.IsObject.session? {event : Event N} (object : event.IsObject) :
    event.session? = none := by
  cases event <;> first | rfl | exact object.elim

namespace Call

def Emits (among : Event N → Prop) (call : Call σ N α) : Prop :=
  ∀ scene, ∃ entries, (call.run scene).2.events.toList = scene.events.toList ++ entries ∧
    ∀ event ∈ entries, among event

def Quiet (call : Call σ N α) : Prop :=
  ∀ scene, ∃ entries, (call.run scene).2.events.toList = scene.events.toList ++ entries ∧
    ∀ event ∈ entries, event.session? = none

variable {among wider : Event N → Prop}

theorem Emits.mono {call : Call σ N α} (emits : Emits among call)
    (implies : ∀ event, among event → wider event) : Emits wider call := by
  intro scene
  obtain ⟨entries, grown, all⟩ := emits scene
  exact ⟨entries, grown, fun event member => implies event (all event member)⟩

theorem Emits.quiet {call : Call σ N α} (emits : Emits Event.IsObject call) : Quiet call :=
  emits.mono fun _ => Event.IsObject.session?

theorem Emits.lone {call : Call σ N α} {event : Event N} (emits : Emits (· = event) call)
    (silent : event.session? = none) : Quiet call :=
  emits.mono fun _ same => same ▸ silent

theorem emits_pure (answer : α) : Emits among (pure answer : Call σ N α) :=
  fun _ => ⟨[], (List.append_nil _).symm, by simp⟩

theorem Emits.bind {first : Call σ N α} {next : α → Call σ N β} (emits : Emits among first)
    (rest : ∀ answer, Emits among (next answer)) : Emits among (first >>= next) := by
  intro scene
  obtain ⟨earlier, grown, all⟩ := emits scene
  obtain ⟨later, grownAgain, allAgain⟩ := rest (first.run scene).1 (first.run scene).2
  refine ⟨earlier ++ later, ?_, ?_⟩
  · rw [← List.append_assoc, ← grown]
    exact grownAgain
  · intro event member
    rcases List.mem_append.mp member with old | new
    · exact all event old
    · exact allAgain event new

theorem Emits.map {call : Call σ N α} (emits : Emits among call) (change : α → β) :
    Emits among (change <$> call) := by
  rw [map_eq_pure_bind]
  exact emits.bind fun _ => emits_pure _

theorem emits_emit {event : Event N} (allowed : among event) :
    Emits among (emit event : Call σ N Unit) :=
  fun _ => ⟨[event], Array.toList_push, by simpa using allowed⟩

theorem emits_itself (event : Event N) : Emits (· = event) (emit event : Call σ N Unit) :=
  emits_emit rfl

theorem emits_act (call : σ → α × σ) : Emits among (act call : Call σ N α) :=
  fun _ => ⟨[], (List.append_nil _).symm, by simp⟩

theorem emits_change (call : σ → σ) : Emits among (change call : Call σ N Unit) :=
  fun _ => ⟨[], (List.append_nil _).symm, by simp⟩

theorem emits_mapM {items : List α} {body : α → Call σ N β}
    (emits : ∀ item, Emits among (body item)) : Emits among (items.mapM body) := by
  induction items with
  | nil => exact emits_pure []
  | cons item rest ih =>
      rw [List.mapM_cons]
      exact (emits item).bind fun _ => ih.bind fun _ => emits_pure _

theorem emits_forM {items : List α} {body : α → Call σ N PUnit}
    (emits : ∀ item, Emits among (body item)) : Emits among (items.forM body) := by
  induction items with
  | nil => exact emits_pure _
  | cons item rest ih => exact (emits item).bind fun _ => ih

variable (engine : Engine σ)

/-! The interpreter's own calls. -/

theorem emits_create (interp : InterpId) :
    Emits (· = .create interp) (create engine interp : Call σ N Bool) :=
  (emits_itself _).bind fun _ => emits_act _

theorem emits_init (interp : InterpId) :
    Emits (· = .init interp) (init engine interp : Call σ N Int) :=
  (emits_itself _).bind fun _ => emits_act _

theorem emits_preserve (interp : InterpId) :
    Emits (· = .preserve interp) (preserve engine interp : Call σ N Unit) :=
  (emits_itself _).bind fun _ => emits_change _

theorem emits_release (interp : InterpId) :
    Emits (· = .release interp) (release engine interp : Call σ N Unit) :=
  (emits_itself _).bind fun _ => emits_change _

theorem emits_createCommand (interp : InterpId) (name : String) :
    Emits (· = .command interp name) (createCommand engine interp name : Call σ N Unit) :=
  (emits_itself _).bind fun _ => emits_change _

/-! Calls on objects. -/

theorem emits_newObj : Emits Event.IsObject (newObj engine : Call σ N (Option Obj)) :=
  (emits_act _).bind fun _ => (emits_emit trivial).bind fun _ => emits_pure _

theorem emits_newText (text : String) : Emits Event.IsObject (newText engine text : Call σ N Obj) :=
  (emits_act _).bind fun _ => (emits_emit trivial).bind fun _ => emits_pure _

theorem emits_increment (object : Obj) :
    Emits Event.IsObject (increment engine object : Call σ N Unit) :=
  (emits_change _).bind fun _ => emits_emit trivial

theorem emits_decrement (object : Obj) :
    Emits Event.IsObject (decrement engine object : Call σ N Unit) :=
  (emits_change _).bind fun _ => emits_emit trivial

theorem emits_append (interp : InterpId) (list : Option Obj) (element : Obj) :
    Emits Event.IsObject (append engine interp list element : Call σ N Int) :=
  (emits_act _).bind fun _ => (emits_emit trivial).bind fun _ => emits_pure _

theorem emits_elements (interp : InterpId) (list : Obj) :
    Emits Event.IsObject (elements engine interp list : Call σ N (Option (List Obj))) :=
  (emits_act _).bind fun _ => (emits_emit trivial).bind fun _ => emits_pure _

theorem emits_text (object : Option Obj) :
    Emits Event.IsObject (text engine object : Call σ N String) :=
  (emits_act _).bind fun _ => (emits_emit trivial).bind fun _ => emits_pure _

theorem emits_result (interp : InterpId) :
    Emits Event.IsObject (result engine interp : Call σ N String) := by
  refine (emits_act _).bind fun object => (emits_emit trivial).bind fun _ => ?_
  cases object with
  | none => exact emits_pure ""
  | some object => exact emits_text engine (some object)

theorem emits_setResult (interp : InterpId) (text : String) :
    Emits Event.IsObject (setResult engine interp text : Call σ N Unit) :=
  (emits_newText engine text).bind fun _ => (emits_change _).bind fun _ => emits_emit trivial

theorem emits_withReference (object : Option Obj) {body : Call σ N α}
    (emits : Emits Event.IsObject body) :
    Emits Event.IsObject (withReference engine object body) := by
  cases object with
  | none => exact emits
  | some object =>
      exact (emits_increment engine object).bind fun _ => emits.bind fun _ =>
        (emits_decrement engine object).bind fun _ => emits_pure _

theorem emits_quoteList (interp : InterpId) (words : List String) :
    Emits Event.IsObject (quoteList engine interp words : Call σ N String) := by
  refine (emits_newObj engine).bind fun list => emits_withReference engine list ?_
  refine (emits_forM fun word => ?_).bind fun _ => emits_text engine list
  refine (emits_newText engine word).bind fun element => emits_withReference engine _ ?_
  exact (emits_append engine interp list element).map _

theorem emits_splitList (interp : InterpId) (list : String) :
    Emits Event.IsObject (splitList engine interp list : Call σ N (Option (List String))) := by
  refine (emits_newText engine list).bind fun object => emits_withReference engine _ ?_
  refine (emits_elements engine interp object).bind fun items => ?_
  cases items with
  | none => exact emits_pure none
  | some items =>
      refine (emits_mapM fun item => ?_).bind fun _ => emits_pure _
      exact emits_withReference engine _ (emits_text engine (some item))

end Call

end TclHost
