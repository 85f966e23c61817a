import Mathlib.Data.Prod.Lex
import Mathlib.Data.String.Basic
import TclHost.Host.Serialise
import TclHost.Proofs.Serialise.Agreement

/-!
The order in which a library enumerates names and array elements does not show. Two runs that
differ in nothing but that order serialise a session to the same text, and hand over the same
scripts on the way.
-/

namespace TclHost

variable {σ τ H N α : Type}

/-! What is sorted does not depend on the order in which it came. -/

namespace Host

theorem mergeSort_eq_of_perm {le : α → α → Bool} {items others : List α}
    (trans : ∀ first second third, le first second → le second third → le first third)
    (total : ∀ first second, le first second || le second first)
    (antisymm : ∀ first second, le first second → le second first → first = second)
    (permuted : items.Perm others) : items.mergeSort le = others.mergeSort le := by
  have sorted (given : List α) : (given.mergeSort le).Pairwise (le · ·) :=
    List.pairwise_mergeSort trans total given
  have both : (items.mergeSort le).Perm (others.mergeSort le) :=
    (List.mergeSort_perm items le).trans (permuted.trans (List.mergeSort_perm others le).symm)
  exact both.eq_of_pairwise (fun first second _ _ => antisymm first second) (sorted items)
    (sorted others)

theorem sortNames_eq_of_perm {names others : List String} (permuted : names.Perm others) :
    sortNames names = sortNames others := by
  refine mergeSort_eq_of_perm ?_ ?_ ?_ permuted
  · intro first second third
    simpa using le_trans
  · intro first second
    simpa using le_total first second
  · intro first second
    simpa using le_antisymm

theorem pairLe_iff (left right : String × String) :
    pairLe left right = true ↔ toLex left ≤ toLex right := by
  rw [pairLe, Prod.Lex.toLex_le_toLex, Bool.or_eq_true, Bool.and_eq_true, decide_eq_true_iff,
    decide_eq_true_iff, decide_eq_true_iff]

theorem pairLe_trans (first second third : String × String) :
    pairLe first second → pairLe second third → pairLe first third := by
  simp only [pairLe_iff]
  exact le_trans

theorem pairLe_total (first second : String × String) :
    (pairLe first second || pairLe second first) = true := by
  rw [Bool.or_eq_true, pairLe_iff, pairLe_iff]
  exact le_total ..

theorem sortPairs_eq_of_perm {pairs others : List (String × String)}
    (permuted : pairs.Perm others) : sortPairs pairs = sortPairs others := by
  refine mergeSort_eq_of_perm pairLe_trans pairLe_total ?_ permuted
  intro first second
  simp only [pairLe_iff]
  exact fun before after => toLex.injective (le_antisymm before after)

end Host

/-! Lists are written and read by the library, in a format that does not change. -/

structure Engine.ReadsLists (engine : Engine σ) (shows : σ → Heap → Prop) (format : ListFormat) :
    Prop extends engine.QuotesLists shows format where
  rejects : ∀ {store heap object cell text} interp, shows store heap →
    heap.cells object = some cell → cell.text = some text → cell.elements = [] →
      format.split text = none → (engine.elements interp object store).1 = none

namespace Call

variable {engine : Engine σ} {heap : σ → Heap} {format : ListFormat}

theorem quoteList_answer (laws : engine.ReadsLists (heap · = ·) format) (interp : InterpId)
    (words : List String) (scene : Scene σ N) :
    ((quoteList engine interp words).run scene).1 =
        Text.decode (format.render (words.map Text.encode)) ∧
      format.Reads ((quoteList engine interp words).run scene).1 words := by
  have shown : heap scene.store = heap scene.store := rfl
  obtain ⟨spelled, _⟩ := meets_quoteList laws.toQuotesLists interp shown words
  constructor
  · rw [← spelled, Text.decode_encode]
  · rw [ListFormat.Reads, spelled, format.split_render]

theorem splitList_refused {interp : InterpId} {list : String} {scene : Scene σ N} {object : Obj}
    {store : σ} (made : engine.newString (Text.encode list) scene.store = (object, store))
    (refused : (engine.elements interp object (engine.increment object store)).1 = none) :
    (splitList engine interp list).Meets (fun answer _ => answer = none) scene := by
  have opened : (newText engine list).Meets (fun answer later => answer = object ∧
      later.store = store) scene :=
    ⟨congrArg Prod.fst made, congrArg Prod.snd made⟩
  refine opened.bind ?_
  rintro object ⟨store, events⟩ ⟨rfl, rfl⟩
  have taken : (increment engine object).Meets (fun _ later =>
      later.store = engine.increment object store) ⟨store, events⟩ := rfl
  refine taken.bind ?_
  rintro _ ⟨_, events⟩ rfl
  have answered : (elements engine interp object).Meets (fun answer _ => answer = none)
      ⟨engine.increment object store, events⟩ := congrArg (Option.map Elements.items) refused
  refine Meets.bind (answered.bind ?_) fun answer later same => same
  rintro _ later rfl
  exact meets_pure rfl

theorem splitList_answer (laws : engine.ReadsLists (heap · = ·) format) (interp : InterpId)
    (list : String) (scene : Scene σ N) :
    ((splitList engine interp list).run scene).1 =
      (format.split (Text.encode list)).map (List.map Text.decode) := by
  have shown : heap scene.store = heap scene.store := rfl
  cases splits : format.split (Text.encode list) with
  | some texts => exact (meets_splitList laws.toQuotesLists interp shown splits).1
  | none =>
      obtain ⟨_, made⟩ := laws.newString (Text.encode list) shown
      have held := laws.increment made Heap.mem_live_set_self
      rw [Heap.retain_set] at held
      have found := (Heap.cells_set (heap scene.store) (engine.newString (Text.encode list)
        scene.store).1 _ { count := 1, text := some (Text.encode list) }).trans (if_pos rfl)
      exact splitList_refused rfl (laws.rejects interp held found rfl rfl splits)

end Call

namespace Run

variable {setup : Setup σ H N} {dispatch : Dispatch σ H N} {world : World σ H N}
  {session : SessionId}

theorem exec_usedCall (usable : world.usable session = true) (call : Call σ N α) :
    (discard (held session) >>= fun _ => Run.call call : Run σ H N α).exec world =
      .ok (call.run world.scene).1 { world with scene := (call.run world.scene).2 } := by
  obtain ⟨present, mayUse⟩ := World.usable_iff.mp usable
  exact exec_using_ok.mpr ⟨present, mayUse, exec_call_ok.mpr ⟨rfl, rfl⟩⟩

theorem exec_quoteList_eq (usable : world.usable session = true) (words : List String) :
    (perform setup dispatch (.quoteList session words)).exec world =
      .ok ((Call.quoteList setup.engine session words).run world.scene).1
        { world with
          scene := ((Call.quoteList setup.engine session words).run world.scene).2 } :=
  exec_usedCall usable _

theorem exec_splitList_eq (usable : world.usable session = true) (list : String) :
    (perform setup dispatch (.splitList session list)).exec world =
      .ok ((Call.splitList setup.engine session list).run world.scene).1
        { world with
          scene := ((Call.splitList setup.engine session list).run world.scene).2 } :=
  exec_usedCall usable _

end Run

/-! What may differ between the two libraries. -/

def enumerations : List (List String) :=
  [["info", "procs"], ["info", "vars"]]

/-- The elements that these words are answered with may come in another order: those of the
enumerations in any, those of an array in any that keeps each key with its value. -/
inductive Shuffled (words : List String) : List String → List String → Prop where
  | names {items others : List String} (asked : words ∈ enumerations)
      (permuted : items.Perm others) : Shuffled words items others
  | elements {items others : List String} (asked : ∃ name, words = ["array", "get", name])
      (permuted : (Host.pairUp items).Perm (Host.pairUp others)) : Shuffled words items others

namespace ListFormat

variable (format : ListFormat)

def Told (words : List String) (text other : String) : Prop :=
  text = other ∨ ∃ items others, format.Reads text items ∧ format.Reads other others ∧
    Shuffled words items others

def Reply (script : String) (answer other : Except Error (Option String)) : Prop :=
  answer = other ∨ ∃ words text otherText, format.Reads script words ∧ answer = .ok (some text) ∧
    other = .ok (some otherText) ∧ format.Told words text otherText

variable {format}

theorem Reads.unique {list : String} {words others : List String}
    (reads : format.Reads list words) (also : format.Reads list others) : words = others := by
  have same := Option.some.inj (reads.symm.trans also)
  exact List.map_injective_iff.mpr Text.encode_injective same

theorem Reads.decoded {list : String} {words : List String} (reads : format.Reads list words) :
    (format.split (Text.encode list)).map (List.map Text.decode) = some words := by
  rw [reads, Option.map_some, List.map_map]
  simp [Function.comp_def, Text.decode_encode]

theorem Told.eq {words : List String} {text other : String} (told : format.Told words text other)
    (unlisted : words ∉ enumerations) (single : ∀ name, words ≠ ["array", "get", name]) :
    text = other := by
  rcases told with same | ⟨items, others, _, _, shuffled⟩
  · exact same
  · cases shuffled with
    | names asked => exact absurd asked unlisted
    | elements asked =>
        obtain ⟨name, same⟩ := asked
        exact absurd same (single name)

end ListFormat

structure Session.Permuted {H : Type} (session other : Session H) : Prop where
  rest : { session with builtins := none } = { other with builtins := none }
  builtins : Option.Rel (fun own others => own.procs.Perm others.procs ∧ own.vars.Perm others.vars)
    session.builtins other.builtins

theorem Session.Permuted.any_builtins {H : Type} {session other : Session H}
    (permuted : session.Permuted other) {asked : Builtins → Bool}
    (unordered : ∀ own others : Builtins, own.procs.Perm others.procs → own.vars.Perm others.vars →
      asked own = asked others) :
    session.builtins.any asked = other.builtins.any asked := by
  have related := permuted.builtins
  generalize session.builtins = own at related
  generalize other.builtins = others at related
  cases related with
  | none => rfl
  | some both => exact unordered _ _ both.1 both.2

namespace TwoRuns

/-- The sessions of related worlds are the same, and are held. The libraries write and read lists
in one format, and give the same reply to every script but for the order of what they enumerate;
lists that the host writes or reads meanwhile make no difference to that. -/
structure Enumerating (runs : TwoRuns σ τ H N) (format : ListFormat) (firstHeap : σ → Heap)
    (secondHeap : τ → Heap) (session other : SessionId) : Prop where
  first : runs.first.engine.ReadsLists (firstHeap · = ·) format
  second : runs.second.engine.ReadsLists (secondHeap · = ·) format
  readsProcs : format.Reads "info procs" ["info", "procs"]
  readsVars : format.Reads "info vars" ["info", "vars"]
  same : ∀ {world otherWorld}, runs.related world otherWorld →
    world.mayUse session = true ∧ otherWorld.mayUse other = true ∧
      ∃ state otherState, world.sessions[session]? = some state ∧
        otherWorld.sessions[other]? = some otherState ∧ state.Permuted otherState
  evaluated : ∀ {world otherWorld}, runs.related world otherWorld → ∀ script,
    runs.EndsAlike (format.Reply script)
      ((Run.perform runs.first (Run.dispatch runs.first runs.firstFuel)
        (.evaluate session script)).exec world)
      ((Run.perform runs.second (Run.dispatch runs.second runs.secondFuel)
        (.evaluate other script)).exec otherWorld)
  quoted : ∀ {world otherWorld}, runs.related world otherWorld → ∀ words,
    runs.related
      { world with
        scene := ((Call.quoteList runs.first.engine session words).run world.scene).2 }
      { otherWorld with
        scene := ((Call.quoteList runs.second.engine other words).run otherWorld.scene).2 }
  split : ∀ {world otherWorld}, runs.related world otherWorld → ∀ list otherList,
    runs.related
      { world with
        scene := ((Call.splitList runs.first.engine session list).run world.scene).2 }
      { otherWorld with
        scene := ((Call.splitList runs.second.engine other otherList).run otherWorld.scene).2 }

def SameVar (session other : SessionId) (name : String) (var otherVar : Var) : Prop :=
  ∃ kind, var = ⟨session, name, kind⟩ ∧ otherVar = ⟨other, name, kind⟩

namespace Enumerating

variable {runs : TwoRuns σ τ H N} {format : ListFormat} {firstHeap : σ → Heap}
  {secondHeap : τ → Heap} {session other : SessionId}
  (alike : runs.Enumerating format firstHeap secondHeap session other)
include alike

theorem usable {world : World σ H N} {otherWorld : World τ H N}
    (related : runs.related world otherWorld) :
    world.usable session = true ∧ otherWorld.usable other = true := by
  obtain ⟨mayUse, otherMayUse, state, otherState, present, otherPresent, _⟩ := alike.same related
  exact ⟨World.usable_iff.mpr ⟨⟨state, present⟩, mayUse⟩,
    World.usable_iff.mpr ⟨⟨otherState, otherPresent⟩, otherMayUse⟩⟩

theorem agree_evaluate (script : String) :
    runs.Agree (format.Reply script)
      (Program.question (Request.evaluate session script) : Host H N (Except Error (Option String)))
      (Program.question (Request.evaluate other script)) := by
  refine agree_question (.evaluate session script) (.evaluate other script)
    (fun _ _ related => alike.evaluated related script) fun _ _ related => ?_
  obtain ⟨usable, otherUsable⟩ := alike.usable related
  simp [Request.script?, Option.filter, scripts, usable, otherUsable]

theorem agree_quoteList (words : List String) :
    runs.Agree (fun list others => list = others ∧ format.Reads list words)
      (Host.quoteList session words) (Host.quoteList other words) := by
  refine agree_question (.quoteList session words) (.quoteList other words)
    (fun world otherWorld related => ?_) fun _ _ _ => rfl
  obtain ⟨usable, otherUsable⟩ := alike.usable related
  obtain ⟨answer, reads⟩ := Call.quoteList_answer alike.first session words world.scene
  have otherAnswer := (Call.quoteList_answer alike.second other words otherWorld.scene).1
  rw [Run.exec_quoteList_eq usable, Run.exec_quoteList_eq otherUsable]
  exact ⟨⟨answer.trans otherAnswer.symm, reads⟩, alike.quoted related words⟩

theorem agree_splitList (list otherList : String) :
    runs.Agree (fun answer others =>
        answer = (format.split (Text.encode list)).map (List.map Text.decode) ∧
          others = (format.split (Text.encode otherList)).map (List.map Text.decode))
      (Host.splitList session list) (Host.splitList other otherList) := by
  refine agree_question (.splitList session list) (.splitList other otherList)
    (fun world otherWorld related => ?_) fun _ _ _ => rfl
  obtain ⟨usable, otherUsable⟩ := alike.usable related
  have answer := Call.splitList_answer alike.first session list world.scene
  have otherAnswer := Call.splitList_answer alike.second other otherList otherWorld.scene
  rw [Run.exec_splitList_eq usable, Run.exec_splitList_eq otherUsable]
  exact ⟨⟨answer, otherAnswer⟩, alike.split related list otherList⟩

theorem agree_inspect :
    runs.Agree Session.Permuted (Host.inspect session) (Host.inspect other) := by
  refine agree_question (.inspect session) (.inspect other)
    (fun world otherWorld related => ?_) fun _ _ _ => rfl
  obtain ⟨mayUse, otherMayUse, state, otherState, present, otherPresent, permuted⟩ :=
    alike.same related
  have found : (Run.perform runs.first (Run.dispatch runs.first runs.firstFuel)
      (.inspect session)).exec world = .ok state world :=
    Run.exec_held_ok.mpr ⟨rfl, present, mayUse⟩
  have otherFound : (Run.perform runs.second (Run.dispatch runs.second runs.secondFuel)
      (.inspect other)).exec otherWorld = .ok otherState otherWorld :=
    Run.exec_held_ok.mpr ⟨rfl, otherPresent, otherMayUse⟩
  rw [found, otherFound]
  exact ⟨permuted, related⟩

/-! From here on the parts of a serialisation, the smaller ones first. -/

theorem trying_eval {script : String} {words : List String} (reads : format.Reads script words) :
    runs.AgreeTrying (format.Told words) (Host.eval session script) (Host.eval other script) := by
  have evaluated : runs.AgreeTrying (fun answer others =>
      format.Told words (answer.getD "") (others.getD ""))
      (Host.evaluate? session script) (Host.evaluate? other script) := by
    refine (alike.agree_evaluate script).mono fun answer others reply => ?_
    rcases reply with rfl | ⟨given, text, otherText, also, rfl, rfl, told⟩
    · cases answer with
      | ok text => exact .ok (.inl rfl)
      | error cause => exact .error cause
    · obtain rfl := reads.unique also
      exact .ok told
  exact evaluated.bind fun _ _ told => trying_pure told

theorem trying_invoke (words : List String) :
    runs.AgreeTrying (format.Told words) (Host.invoke session words) (Host.invoke other words) := by
  refine (alike.agree_quoteList words).lift.bind ?_
  rintro script _ ⟨rfl, reads⟩
  exact alike.trying_eval reads

theorem trying_invoke_fixed (words : List String) (unlisted : words ∉ enumerations)
    (single : ∀ name, words ≠ ["array", "get", name]) :
    runs.AgreeTrying (· = ·) (Host.invoke session words) (Host.invoke other words) := by
  refine (alike.trying_invoke words).mono fun answer others both => ?_
  cases both with
  | ok told => exact .ok (told.eq unlisted single)
  | error cause => exact .error cause

/-- Two replies to the same words are split into the same elements, or into shuffled ones. -/
theorem agree_splitLenient {words : List String} {text otherText : String}
    (told : format.Told words text otherText) :
    runs.Agree (fun items others => items = others ∨ Shuffled words items others)
      (Host.splitLenient session text) (Host.splitLenient other otherText) := by
  refine (alike.agree_splitList text otherText).bind ?_
  rintro _ _ ⟨rfl, rfl⟩
  refine agree_done ?_
  rcases told with rfl | ⟨items, others, reads, otherReads, shuffled⟩
  · exact .inl rfl
  · rw [reads.decoded, otherReads.decoded]
    exact .inr shuffled

theorem trying_listResult {script : String} {words : List String}
    (reads : format.Reads script words) (listed : words ∈ enumerations) :
    runs.AgreeTrying List.Perm (Host.listResult session script) (Host.listResult other script) := by
  refine (alike.trying_eval reads).bind fun text otherText told => ?_
  refine ((alike.agree_splitLenient told).mono ?_).lift
  rintro items others (rfl | shuffled)
  · exact .refl _
  · cases shuffled with
    | names _ permuted => exact permuted
    | elements asked =>
        obtain ⟨name, rfl⟩ := asked
        simp [enumerations] at listed

theorem agree_isBuiltinVar (name : String) :
    runs.Agree (· = ·) (Host.isBuiltinVar session name) (Host.isBuiltinVar other name) := by
  refine alike.agree_inspect.bind fun state otherState permuted => agree_done ?_
  exact congrArg (_ || ·) (permuted.any_builtins fun _ _ _ vars => vars.contains_eq)

theorem agree_isSnapshotProc (name : String) :
    runs.Agree (· = ·) (Host.isSnapshotProc session name) (Host.isSnapshotProc other name) := by
  refine alike.agree_inspect.bind fun state otherState permuted => agree_done ?_
  exact permuted.any_builtins fun _ _ procs _ => procs.contains_eq

theorem trying_varExists (name : String) :
    runs.AgreeTrying (· = ·) (Host.varExists session name) (Host.varExists other name) := by
  refine (alike.trying_invoke_fixed _ (by simp [enumerations]) (by simp)).bind ?_
  rintro reply _ rfl
  exact trying_pure rfl

theorem trying_findVar (name : String) :
    runs.AgreeTrying (SameVar session other name) (Host.findVar session name)
      (Host.findVar other name) := by
  refine (alike.trying_invoke_fixed _ (by simp [enumerations]) (by simp)).bind ?_
  rintro reply _ rfl
  split
  · exact trying_pure ⟨.array, rfl, rfl⟩
  · refine (alike.trying_invoke_fixed _ (by simp [enumerations]) (by simp)).bind ?_
    exact fun _ _ _ => trying_pure ⟨.scalar, rfl, rfl⟩

theorem trying_elements (name : String) (kind : VarKind) :
    runs.AgreeTrying (· = ·) (Var.elements ⟨session, name, kind⟩)
      (Var.elements ⟨other, name, kind⟩) := by
  cases kind with
  | scalar => exact trying_pure rfl
  | array =>
      refine (alike.trying_invoke ["array", "get", name]).bind fun text otherText told => ?_
      refine (alike.agree_splitLenient told).lift.bind fun items others shuffled => ?_
      refine trying_pure (Host.sortPairs_eq_of_perm ?_)
      rcases shuffled with rfl | shuffled
      · exact .refl _
      · cases shuffled with
        | names asked => simp [enumerations] at asked
        | elements _ permuted => exact permuted

theorem trying_quoteList (words : List String) :
    runs.AgreeTrying (· = ·) (ExceptT.lift (Host.quoteList session words))
      (ExceptT.lift (Host.quoteList other words)) :=
  ((alike.agree_quoteList words).mono fun _ _ quoted => quoted.1).lift

theorem trying_varScript (name : String) (kind : VarKind) :
    runs.AgreeTrying (· = ·) (Var.script ⟨session, name, kind⟩)
      (Var.script ⟨other, name, kind⟩) := by
  cases kind with
  | scalar =>
      refine (alike.trying_invoke_fixed _ (by simp [enumerations]) (by simp)).bind ?_
      rintro value _ rfl
      exact alike.trying_quoteList _
  | array =>
      refine (alike.trying_elements name .array).bind ?_
      rintro pairs _ rfl
      refine (alike.trying_quoteList _).bind ?_
      rintro contents _ rfl
      exact alike.trying_quoteList _

omit alike in
theorem trying_linesOf {line otherLine : String → Attempt H N (Option String)}
    (each : ∀ name, runs.AgreeTrying (· = ·) (line name) (otherLine name)) (names : List String) :
    runs.AgreeTrying (· = ·) (Host.linesOf line names) (Host.linesOf otherLine names) := by
  induction names with
  | nil => exact trying_pure rfl
  | cons name rest ih =>
      refine (each name).bind ?_
      rintro text _ rfl
      cases text with
      | none => exact ih
      | some text =>
          refine ih.bind ?_
          rintro lines _ rfl
          exact trying_pure rfl

theorem trying_varLine (name : String) :
    runs.AgreeTrying (· = ·) (Host.varLine session name) (Host.varLine other name) := by
  refine (alike.agree_isBuiltinVar name).lift.bind ?_
  rintro known _ rfl
  cases known with
  | true => exact trying_pure rfl
  | false =>
      refine (alike.trying_varExists name).bind ?_
      rintro found _ rfl
      cases found with
      | false => exact trying_pure rfl
      | true =>
          refine (alike.trying_findVar name).bind ?_
          rintro _ _ ⟨kind, rfl, rfl⟩
          refine (alike.trying_varScript name kind).bind ?_
          rintro script _ rfl
          exact trying_pure rfl

theorem trying_split (list : String) :
    runs.AgreeTrying (· = ·) (ExceptT.lift (Host.splitLenient session list))
      (ExceptT.lift (Host.splitLenient other list)) := by
  refine Agree.lift ((alike.agree_splitList list list).bind ?_)
  rintro _ _ ⟨rfl, rfl⟩
  exact agree_done rfl

theorem trying_parameters (name : String) :
    runs.AgreeTrying (· = ·) (Proc.parameters ⟨session, name⟩)
      (Proc.parameters ⟨other, name⟩) := by
  refine (alike.trying_invoke_fixed _ (by simp [enumerations]) (by simp)).bind ?_
  rintro list _ rfl
  exact alike.trying_split list

theorem trying_defaultOf (name parameter : String) :
    runs.AgreeTrying (· = ·) (Proc.defaultOf ⟨session, name⟩ parameter)
      (Proc.defaultOf ⟨other, name⟩ parameter) := by
  refine (alike.trying_invoke_fixed _ (by simp [enumerations]) (by simp)).bind ?_
  rintro list _ rfl
  refine (alike.trying_split list).bind ?_
  rintro parts _ rfl
  exact trying_pure rfl

theorem trying_declarations (name : String) (parameters : List String) :
    runs.AgreeTrying (· = ·) (Proc.declarations ⟨session, name⟩ parameters)
      (Proc.declarations ⟨other, name⟩ parameters) := by
  induction parameters with
  | nil => exact trying_pure rfl
  | cons parameter rest ih =>
      refine (alike.trying_defaultOf name parameter).bind ?_
      rintro value _ rfl
      have onward (declaration : String) : runs.AgreeTrying (· = ·)
          (do return declaration :: (← Proc.declarations ⟨session, name⟩ rest))
          (do return declaration :: (← Proc.declarations ⟨other, name⟩ rest)) := by
        refine ih.bind ?_
        rintro declared _ rfl
        exact trying_pure rfl
      cases value with
      | none => exact onward parameter
      | some value =>
          refine (alike.trying_quoteList _).bind ?_
          rintro declaration _ rfl
          exact onward declaration

theorem trying_procScript (name : String) :
    runs.AgreeTrying (· = ·) (Proc.script ⟨session, name⟩) (Proc.script ⟨other, name⟩) := by
  refine (alike.trying_parameters name).bind ?_
  rintro parameters _ rfl
  refine (alike.trying_declarations name parameters).bind ?_
  rintro declared _ rfl
  refine (alike.trying_quoteList declared).bind ?_
  rintro list _ rfl
  refine (alike.trying_invoke_fixed _ (by simp [enumerations]) (by simp)).bind ?_
  rintro body _ rfl
  exact alike.trying_quoteList _

theorem agree_isBuiltin (name : String) :
    runs.Agree (· = ·) (Proc.isBuiltin ⟨session, name⟩) (Proc.isBuiltin ⟨other, name⟩) := by
  refine (alike.agree_isSnapshotProc name).bind ?_
  rintro known _ rfl
  cases known with
  | true => exact agree_done rfl
  | false =>
      refine Agree.bind (alike.trying_invoke_fixed _ (by simp [enumerations]) (by simp))
        fun reply otherReply both => ?_
      cases both with
      | ok same =>
          subst same
          split
          · exact agree_done rfl
          · exact agree_done rfl
      | error cause => exact agree_done rfl

theorem trying_findProc (name : String) :
    runs.AgreeTrying (fun proc otherProc => proc = ⟨session, name⟩ ∧ otherProc = ⟨other, name⟩)
      (Host.findProc session name) (Host.findProc other name) :=
  (alike.trying_invoke_fixed _ (by simp [enumerations]) (by simp)).bind fun _ _ _ =>
    trying_pure ⟨rfl, rfl⟩

theorem trying_procLine (name : String) :
    runs.AgreeTrying (· = ·) (Host.procLine session name) (Host.procLine other name) := by
  refine (alike.trying_findProc name).bind ?_
  rintro _ _ ⟨rfl, rfl⟩
  refine (alike.agree_isBuiltin name).lift.bind ?_
  rintro known _ rfl
  cases known with
  | true => exact trying_pure rfl
  | false =>
      refine (alike.trying_procScript name).bind ?_
      rintro script _ rfl
      exact trying_pure rfl

theorem trying_serialise :
    runs.AgreeTrying (· = ·) (Host.serialise session) (Host.serialise other) := by
  refine (alike.trying_listResult alike.readsVars (by simp [enumerations])).bind
    fun names otherNames permuted => ?_
  rw [Host.sortNames_eq_of_perm permuted]
  refine (trying_linesOf alike.trying_varLine _).bind ?_
  rintro varLines _ rfl
  refine (alike.trying_listResult alike.readsProcs (by simp [enumerations])).bind
    fun procs otherProcs permutedProcs => ?_
  rw [Host.sortNames_eq_of_perm permutedProcs]
  refine (trying_linesOf alike.trying_procLine _).bind ?_
  rintro procLines _ rfl
  exact trying_pure rfl

end Enumerating

end TwoRuns

end TclHost
