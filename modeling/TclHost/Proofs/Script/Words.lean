import TclHost.Host.Command
import TclHost.Host.Serialise
import TclHost.Proofs.Script.Handed

/-!
Data never becomes code: whatever strings an operation is given, the library gets each of them as
one whole word of a command.
-/

namespace TclHost

variable {σ H N α β : Type}

inductive Operation (H : Type) where
  | invoke (session : SessionId) (words : List Word)
  | expose (session : SessionId) (name : String) (handler : H)
  | unexpose (session : SessionId) (name : String)
  | findProc (session : SessionId) (name : String)
  | defineProc (session : SessionId) (name : String) (parameters : List Word) (body : String)
  | findVar (session : SessionId) (name : String)
  | setVar (session : SessionId) (name value : String)
  | parameters (proc : Proc)
  | body (proc : Proc)
  | defaultOf (proc : Proc) (parameter : String)
  | callWith (proc : Proc) (arguments : List Word)
  | procScript (proc : Proc)
  | isBuiltin (proc : Proc)
  | value (var : Var)
  | elements (var : Var)
  | varScript (var : Var)
  | serialise (session : SessionId)

namespace Operation

def session : Operation H → SessionId
  | invoke session _ | expose session _ _ | unexpose session _ | findProc session _
  | defineProc session _ _ _ | findVar session _ | setVar session _ _ | serialise session => session
  | parameters proc | body proc | defaultOf proc _ | callWith proc _ | procScript proc
  | isBuiltin proc => proc.session
  | value var | elements var | varScript var => var.session

def program : Operation H → Host H N Unit
  | invoke session words => discard (Host.invokeWords session words).run
  | expose session name handler => discard (Host.expose session name handler).run
  | unexpose session name => discard (Host.unexpose session name).run
  | findProc session name => discard (Host.findProc session name).run
  | defineProc session name given text => discard (Host.defineProc session name given text).run
  | findVar session name => discard (Host.findVar session name).run
  | setVar session name text => discard (Host.setVar session name text).run
  | parameters proc => discard proc.parameters.run
  | body proc => discard proc.body.run
  | defaultOf proc parameter => discard (proc.defaultOf parameter).run
  | callWith proc arguments => discard (proc.callWith arguments).run
  | procScript proc => discard proc.script.run
  | isBuiltin proc => discard proc.isBuiltin
  | value var => discard var.value.run
  | elements var => discard var.elements.run
  | varScript var => discard var.script.run
  | serialise session => discard (Host.serialise session).run

def sought (name : String) : List (List String) :=
  [["array", "exists", name], ["set", name]]

def read (var : Var) : List String :=
  match var.kind with
  | .scalar => ["set", var.name]
  | .array => ["array", "get", var.name]

def described (name : String) (words : List String) : Prop :=
  words ∈ [["info", "args", name], ["info", "body", name]] ∨
    ∃ parameter, words = ["apply", Host.defaultLambda, name, parameter]

def indexed (name : String) : List String :=
  ["info", "exists", "::auto_index(" ++ name ++ ")"]

def Intends (format : ListFormat) : Operation H → List String → Prop
  | invoke _ words, given => given = words.map Word.render
  | expose _ name _, given => given = ["interp", "alias", "", name, "", sendCommand, name]
  | unexpose _ name, given => ∃ delete, given = ["catch", delete] ∧
      format.Reads delete ["interp", "alias", "", name, ""]
  | findProc _ name, given => given = ["info", "args", name]
  | defineProc _ name declared text, given => given = ["info", "args", name] ∨
      ∃ list, given = ["proc", name, list, text] ∧ format.Reads list (declared.map Word.render)
  | findVar _ name, given => given ∈ sought name
  | setVar _ name text, given => given = ["set", name, text] ∨ given ∈ sought name
  | parameters proc, given => given = ["info", "args", proc.name]
  | body proc, given => given = ["info", "body", proc.name]
  | defaultOf proc parameter, given =>
      given = ["apply", Host.defaultLambda, proc.name, parameter]
  | callWith proc arguments, given => given = proc.name :: arguments.map Word.render
  | procScript proc, given => described proc.name given
  | isBuiltin proc, given => given = indexed proc.name
  | value var, given | varScript var, given => given = read var
  | elements var, given => var.kind = .array ∧ given = read var
  | serialise _, given => ∃ name, given = ["info", "exists", name] ∨ given ∈ sought name ∨
      (∃ var : Var, var.name = name ∧ given = read var) ∨ given = indexed name ∨
      described name given

end Operation

def fixedScripts : List String :=
  ["info procs", "info vars"]

def Handing (format : ListFormat) (session : SessionId) (intends : List String → Prop)
    (given : SessionId) (script : String) : Prop :=
  given = session ∧ (script ∈ fixedScripts ∨ ∃ words, intends words ∧ format.Reads script words)

namespace Host

section Wrappers

variable {format : ListFormat} {session : SessionId} {intends : List String → Prop}

theorem hands_eval {script : String} (allowed : Handing format session intends session script) :
    Hands format (Handing format session intends)
      (eval session script : Attempt H N String).run := by
  have asked : Hands format (Handing format session intends)
      (evaluate? session script : Attempt H N (Option String)).run := by
    refine ⟨fun given same => ?_, fun _ _ => trivial⟩
    cases same
    exact allowed
  exact hands_attempt asked fun _ => trivial

theorem hands_invoke {words : List String} (intended : intends words) :
    Hands format (Handing format session intends)
      (invoke session words : Attempt H N String).run :=
  hands_quoteList fun _ reads => hands_eval ⟨rfl, Or.inr ⟨words, intended, reads⟩⟩

theorem hands_splitLenient (given : SessionId) (list : String) :
    Hands format (Handing format session intends)
      (splitLenient given list : Host H N (List String)) :=
  hands_bind (hands_question rfl) fun _ => trivial

theorem hands_listResult {script : String} (fixed : script ∈ fixedScripts) :
    Hands format (Handing format session intends)
      (listResult session script : Attempt H N (List String)).run :=
  hands_attempt (hands_eval ⟨rfl, Or.inl fixed⟩) fun _ => hands_lifted (hands_splitLenient _ _)

theorem hands_expose {name : String} (handler : H)
    (intended : intends ["interp", "alias", "", name, "", sendCommand, name]) :
    Hands format (Handing format session intends)
      (expose session name handler : Attempt H N Unit).run := by
  have registering : Hands format (Handing format session intends)
      (register session name handler : Attempt H N Unit).run := by
    unfold register
    split
    · trivial
    · exact hands_lift (hands_question rfl) fun _ => trivial
  refine hands_attempt registering fun _ => hands_lift (hands_invoke intended) fun created => ?_
  cases created with
  | ok _ => trivial
  | error cause => exact hands_lift (hands_question rfl) fun _ => trivial

theorem hands_unexpose {name : String} (intended : ∀ delete,
    format.Reads delete ["interp", "alias", "", name, ""] → intends ["catch", delete]) :
    Hands format (Handing format session intends)
      (unexpose session name : Attempt H N Bool).run := by
  refine hands_lift (hands_question rfl) fun existed => ?_
  cases existed with
  | false => trivial
  | true =>
      refine hands_quoteList fun delete reads => ?_
      exact hands_attempt (hands_invoke (intended delete reads)) fun _ => trivial

theorem hands_findProc {name : String} (intended : intends ["info", "args", name]) :
    Hands format (Handing format session intends)
      (findProc session name : Attempt H N Proc).run :=
  hands_attempt (hands_invoke intended) fun _ => trivial

theorem yields_findProc (session : SessionId) (name : String) :
    Yields (· = ⟨session, name⟩) (findProc session name : Attempt H N Proc) :=
  yields_attempt fun _ => yields_pure rfl

theorem hands_defineProc {name body : String} {parameters : List Word}
    (defining : ∀ list, format.Reads list (parameters.map Word.render) →
      intends ["proc", name, list, body])
    (finding : intends ["info", "args", name]) :
    Hands format (Handing format session intends)
      (defineProc session name parameters body : Attempt H N Proc).run :=
  hands_quoteList fun list reads =>
    hands_attempt (hands_invoke (defining list reads)) fun _ => hands_findProc finding

theorem hands_findVar {name : String} (intended : ∀ words ∈ Operation.sought name, intends words) :
    Hands format (Handing format session intends)
      (findVar session name : Attempt H N Var).run := by
  refine hands_attempt (hands_invoke (intended _ (by simp [Operation.sought]))) fun answer => ?_
  split
  · trivial
  · exact hands_attempt (hands_invoke (intended _ (by simp [Operation.sought]))) fun _ => trivial

theorem yields_findVar (session : SessionId) (name : String) :
    Yields (fun var => var.session = session ∧ var.name = name)
      (findVar session name : Attempt H N Var) := by
  refine yields_attempt fun answer => ?_
  split
  · exact yields_pure ⟨rfl, rfl⟩
  · exact yields_attempt fun _ => yields_pure ⟨rfl, rfl⟩

theorem hands_setVar {name value : String} (setting : intends ["set", name, value])
    (finding : ∀ words ∈ Operation.sought name, intends words) :
    Hands format (Handing format session intends)
      (setVar session name value : Attempt H N Var).run :=
  hands_attempt (hands_invoke setting) fun _ => hands_findVar finding

end Wrappers

section Procedures

variable {format : ListFormat} {intends : List String → Prop} {proc : Proc}

theorem hands_parameters (intended : intends ["info", "args", proc.name]) :
    Hands format (Handing format proc.session intends)
      (proc.parameters : Attempt H N (List String)).run :=
  hands_attempt (hands_invoke intended) fun _ => hands_lifted (hands_splitLenient _ _)

theorem hands_defaultOf {parameter : String}
    (intended : intends ["apply", defaultLambda, proc.name, parameter]) :
    Hands format (Handing format proc.session intends)
      (proc.defaultOf parameter : Attempt H N (Option String)).run :=
  hands_attempt (hands_invoke intended) fun _ =>
    hands_lift (hands_splitLenient _ _) fun _ => trivial

theorem hands_declarations
    (intended : ∀ parameter, intends ["apply", defaultLambda, proc.name, parameter])
    (names : List String) :
    Hands format (Handing format proc.session intends)
      (proc.declarations names : Attempt H N (List String)).run := by
  induction names with
  | nil => trivial
  | cons parameter rest ih =>
      refine hands_attempt (hands_defaultOf (intended parameter)) fun answer => ?_
      cases answer with
      | none => exact hands_attempt trivial fun _ => hands_attempt ih fun _ => trivial
      | some value => exact hands_quoteList fun _ _ => hands_attempt ih fun _ => trivial

theorem hands_procScript (intended : ∀ words, Operation.described proc.name words → intends words) :
    Hands format (Handing format proc.session intends)
      (proc.script : Attempt H N String).run := by
  have listed : intends ["info", "args", proc.name] := intended _ (Or.inl (by simp))
  have body : intends ["info", "body", proc.name] := intended _ (Or.inl (by simp))
  refine hands_attempt (hands_parameters listed) fun names => ?_
  refine hands_attempt (hands_declarations (fun parameter => ?_) names) fun declared => ?_
  · exact intended _ (Or.inr ⟨parameter, rfl⟩)
  · refine hands_quoteList fun _ _ => hands_attempt (hands_invoke body) fun _ => ?_
    exact hands_lifted (hands_question rfl)

theorem hands_isBuiltin (intended : intends (Operation.indexed proc.name)) :
    Hands format (Handing format proc.session intends) (proc.isBuiltin : Host H N Bool) := by
  refine hands_bind (hands_bind (hands_question rfl) fun _ => trivial) fun known => ?_
  cases known with
  | true => trivial
  | false =>
      refine hands_bind (hands_invoke intended) fun reply => ?_
      split <;> trivial

end Procedures

section Variables

variable {format : ListFormat} {intends : List String → Prop} {var : Var}

theorem hands_value (intended : intends (Operation.read var)) :
    Hands format (Handing format var.session intends) (var.value : Attempt H N String).run := by
  unfold Var.value
  unfold Operation.read at intended
  split
  · rename_i scalar
    rw [scalar] at intended
    exact hands_invoke intended
  · rename_i array
    rw [array] at intended
    exact hands_invoke intended

theorem hands_elements (intended : var.kind = .array → intends (Operation.read var)) :
    Hands format (Handing format var.session intends)
      (var.elements : Attempt H N (List (String × String))).run := by
  unfold Var.elements
  split
  · trivial
  · rename_i array
    exact hands_attempt (hands_value (intended array)) fun _ =>
      hands_lift (hands_splitLenient _ _) fun _ => trivial

theorem hands_varScript (intended : intends (Operation.read var)) :
    Hands format (Handing format var.session intends) (var.script : Attempt H N String).run := by
  unfold Var.script
  split
  · exact hands_attempt (hands_value intended) fun _ => hands_lifted (hands_question rfl)
  · refine hands_attempt (hands_elements fun _ => intended) fun _ => hands_quoteList fun _ _ => ?_
    exact hands_lifted (hands_question rfl)

end Variables

section Whole

variable {format : ListFormat} {session : SessionId} {intends : List String → Prop}

theorem hands_linesOf {line : String → Attempt H N (Option String)}
    (each : ∀ name, Hands format (Handing format session intends) (line name).run)
    (names : List String) :
    Hands format (Handing format session intends)
      (linesOf line names : Attempt H N (List String)).run := by
  induction names with
  | nil => trivial
  | cons name rest ih =>
      refine hands_attempt (each name) fun text => ?_
      cases text with
      | none => exact ih
      | some text => exact hands_attempt ih fun _ => trivial

theorem hands_varLine (name : String) (present : intends ["info", "exists", name])
    (sought : ∀ words ∈ Operation.sought name, intends words)
    (read : ∀ var : Var, var.name = name → intends (Operation.read var)) :
    Hands format (Handing format session intends)
      (varLine session name : Attempt H N (Option String)).run := by
  refine hands_lift (hands_bind (hands_question rfl) fun _ => trivial) fun known => ?_
  cases known with
  | true => trivial
  | false =>
      refine hands_attempt (hands_attempt (hands_invoke present) fun _ => trivial) fun found => ?_
      cases found with
      | false => trivial
      | true =>
          refine hands_yielding (hands_findVar sought) (yields_findVar session name) ?_
          rintro var ⟨rfl, named⟩
          exact hands_attempt (hands_varScript (read var named)) fun _ => trivial

theorem hands_procLine (name : String) (indexed : intends (Operation.indexed name))
    (described : ∀ words, Operation.described name words → intends words) :
    Hands format (Handing format session intends)
      (procLine session name : Attempt H N (Option String)).run := by
  have listed : intends ["info", "args", name] := described _ (Or.inl (by simp))
  refine hands_yielding (hands_findProc listed) (yields_findProc session name) ?_
  rintro proc rfl
  have asked : Hands format (Handing format session intends)
      (Proc.isBuiltin ⟨session, name⟩ : Host H N Bool) := hands_isBuiltin indexed
  refine hands_lift asked fun known => ?_
  cases known with
  | true => trivial
  | false => exact hands_attempt (hands_procScript described) fun _ => trivial

theorem hands_serialise (vars : ∀ name, intends ["info", "exists", name] ∧
      (∀ words ∈ Operation.sought name, intends words) ∧
      ∀ var : Var, var.name = name → intends (Operation.read var))
    (procs : ∀ name, intends (Operation.indexed name) ∧
      ∀ words, Operation.described name words → intends words) :
    Hands format (Handing format session intends)
      (serialise session : Attempt H N String).run := by
  refine hands_attempt (hands_listResult (by simp [fixedScripts])) fun names => ?_
  refine hands_attempt (hands_linesOf (fun name => ?_) _) fun lines => ?_
  · obtain ⟨present, sought, read⟩ := vars name
    exact hands_varLine name present sought read
  · refine hands_attempt (hands_listResult (by simp [fixedScripts])) fun others => ?_
    refine hands_attempt (hands_linesOf (fun name => ?_) _) fun _ => trivial
    exact hands_procLine name (procs name).1 (procs name).2

end Whole

theorem hands_operation (format : ListFormat) (operation : Operation H) :
    Hands format (Handing format operation.session (operation.Intends format))
      (operation.program : Host H N Unit) := by
  cases operation with
  | invoke session words => exact Hands.discard (hands_invoke (by rfl))
  | expose session name handler => exact Hands.discard (hands_expose handler (by rfl))
  | unexpose session name =>
      exact Hands.discard (hands_unexpose fun delete reads => ⟨delete, rfl, reads⟩)
  | findProc session name => exact Hands.discard (hands_findProc (by rfl))
  | defineProc session name parameters body =>
      exact Hands.discard
        (hands_defineProc (fun list reads => Or.inr ⟨list, rfl, reads⟩) (Or.inl rfl))
  | findVar session name => exact Hands.discard (hands_findVar fun _ member => member)
  | setVar session name value =>
      exact Hands.discard (hands_setVar (Or.inl rfl) fun _ member => Or.inr member)
  | parameters proc => exact Hands.discard (hands_parameters (by rfl))
  | body proc => exact Hands.discard (hands_invoke (by rfl))
  | defaultOf proc parameter => exact Hands.discard (hands_defaultOf (by rfl))
  | callWith proc arguments => exact Hands.discard (hands_invoke (by rfl))
  | procScript proc => exact Hands.discard (hands_procScript fun _ intended => intended)
  | isBuiltin proc => exact Hands.discard (hands_isBuiltin (by rfl))
  | value var => exact Hands.discard (hands_value (by rfl))
  | elements var => exact Hands.discard (hands_elements fun array => ⟨array, rfl⟩)
  | varScript var => exact Hands.discard (hands_varScript (by rfl))
  | serialise session =>
      refine Hands.discard (hands_serialise (fun name => ⟨?_, ?_, ?_⟩) fun name => ⟨?_, ?_⟩)
      · exact ⟨name, Or.inl rfl⟩
      · exact fun words member => ⟨name, Or.inr (Or.inl member)⟩
      · exact fun var named => ⟨name, Or.inr (Or.inr (Or.inl ⟨var, named, rfl⟩))⟩
      · exact ⟨name, Or.inr (Or.inr (Or.inr (Or.inl rfl)))⟩
      · exact fun words described => ⟨name, Or.inr (Or.inr (Or.inr (Or.inr described)))⟩

variable {heap : σ → Heap} {format : ListFormat} {setup : Setup σ H N}

theorem callWith_eq (proc : Proc) (arguments : List Word) :
    (proc.callWith arguments : Attempt H N String).run =
      .ask (.quoteList proc.session (proc.name :: arguments.map Word.render)) fun script =>
        (eval proc.session script).run :=
  rfl

theorem handed_callWith (laws : setup.engine.QuotesLists (heap · = ·) format) (fuel : Nat)
    {world : World σ H N} {proc : Proc} (usable : world.usable proc.session = true)
    (arguments : List Word) :
    ∃ script, handed setup fuel (proc.callWith arguments).run world = [(proc.session, script)] ∧
      format.Reads script (proc.name :: arguments.map Word.render) ∧
      ∃ scene, Run.Submits setup.engine (Run.dispatch setup fuel) proc.session (Text.encode script)
        { world with scene } (·.map (·.getD ""))
        ((Host.run setup fuel (proc.callWith arguments).run).exec world) := by
  obtain ⟨script, scene, quoting⟩ := Run.exec_quoteList_of_usable usable setup
    (Run.dispatch setup fuel) (proc.name :: arguments.map Word.render)
  have reads := Run.answered_of_exec laws quoting
  have usableStill : ({ world with scene } : World σ H N).usable proc.session = true := usable
  refine ⟨script, ?_, reads, scene, ?_⟩
  · rw [callWith_eq, handed, quoting]
    exact handed_eval usableStill script
  · obtain ⟨present, mayUse⟩ := World.usable_iff.mp usableStill
    rw [callWith_eq, exec_run_ask, quoting]
    exact submits_eval present mayUse

/-- Whatever the operation and the strings that it is given, each script that it hands over is a
command in which each of them is one whole word. A call hands over one script. The library is given
every script that is handed over. -/
theorem handed_as_words (laws : setup.engine.QuotesLists (heap · = ·) format) (fuel : Nat)
    (world : World σ H N) :
    (∀ operation : Operation H, ∀ script ∈ handed setup fuel operation.program world,
      script.1 = operation.session ∧ (script.2 ∈ fixedScripts ∨
        ∃ words, operation.Intends format words ∧ format.Reads script.2 words)) ∧
    (∀ (proc : Proc) (arguments : List Word), world.usable proc.session = true →
      ∃ script, handed setup fuel (proc.callWith arguments).run world = [(proc.session, script)] ∧
        format.Reads script (proc.name :: arguments.map Word.render) ∧
        ∃ scene, Run.Submits setup.engine (Run.dispatch setup fuel) proc.session
          (Text.encode script) { world with scene } (·.map (·.getD ""))
          ((Host.run setup fuel (proc.callWith arguments).run).exec world)) ∧
    ∀ (between : World σ H N) (session : SessionId) (script : String),
      between.usable session = true →
      Run.Submits setup.engine (Run.dispatch setup fuel) session (Text.encode script) between id
        ((Run.perform setup (Run.dispatch setup fuel) (.evaluate session script)).exec between) :=
  ⟨fun operation _ member => (hands_operation format operation).of_mem_handed laws member,
    fun _ arguments usable => handed_callWith laws fuel usable arguments,
    fun _ _ script usable => Run.submits_perform usable setup (Run.dispatch setup fuel) script⟩

end Host

namespace Ideal

def opened : World Heap Unit Empty where
  scene := { store := Heap.empty.enter 0 }
  created := 1
  sessions := Std.TreeMap.insert ∅ 0 {}
  frames := [{ kept := [0] }]

theorem call_as_words : opened.usable 0 = true ∧
    ∃ script, Host.handed (setup fun _ => false) 1
        (Proc.callWith ⟨0, "puts"⟩ [.text "a\x00b", .integer 7]).run opened = [(0, script)] ∧
      ListFormat.scripted.Reads script ["puts", "a\x00b", "7"] ∧
      ∃ scene, Run.Submits (engine fun _ => false) (Run.dispatch (setup fun _ => false) 1) 0
        (Text.encode script) { opened with scene } (·.map (·.getD ""))
        ((Host.run (setup fun _ => false) 1
          (Proc.callWith ⟨0, "puts"⟩ [.text "a\x00b", .integer 7]).run).exec opened) :=
  have usable : opened.usable 0 = true := by decide +kernel
  ⟨usable, (Host.handed_as_words quotesLists 1 opened).2.1 ⟨0, "puts"⟩
    [.text "a\x00b", .integer 7] usable⟩

end Ideal

end TclHost
