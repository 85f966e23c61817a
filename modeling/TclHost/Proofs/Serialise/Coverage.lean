import Mathlib.Data.List.Sort
import Mathlib.Data.String.Basic
import TclHost.Proofs.Serialise.Findings
import TclHost.Proofs.Serialise.Unordered

/-!
What the script that recreates a session consists of. Whatever the library answers, there is a line
for each variable that is set and each procedure, as often as the library lists it, unless it is
built in; and the first evaluation that fails decides how serialising fails.
-/

namespace TclHost

variable {σ H N : Type}

/-! Variables. -/

def builtinVar (builtins : Option Builtins) (name : String) : Bool :=
  Host.knownVars.contains name || builtins.any (·.vars.contains name)

inductive VarLine (builtins : Option Builtins) (name : String) :
    List (Finding H) → Option String → Prop
  | builtin (state : Session H) (known : builtinVar builtins name = true) :
      VarLine builtins name [.inspected state] none
  | unset (state : Session H) (script : String) (found : Option String)
      (new : builtinVar builtins name = false) (unset : found.getD "" ≠ "1") :
      VarLine builtins name [.inspected state, .asked (.isSet name) script (.ok found)] none
  | scalar (state : Session H) (script kindScript checkScript valueScript line : String)
      (found kind checked value : Option String) (new : builtinVar builtins name = false)
      (set : found.getD "" = "1") (single : kind.getD "" ≠ "1") :
      VarLine builtins name
        [.inspected state, .asked (.isSet name) script (.ok found),
          .asked (.isArray name) kindScript (.ok kind),
          .asked (.scalar name) checkScript (.ok checked),
          .asked (.scalar name) valueScript (.ok value),
          .quoted ["set", name, value.getD ""] line]
        (some line)
  | array (state : Session H) (script kindScript valueScript contents line : String)
      (found kind value : Option String) (elements : Option (List String))
      (new : builtinVar builtins name = false) (set : found.getD "" = "1")
      (many : kind.getD "" = "1") :
      VarLine builtins name
        [.inspected state, .asked (.isSet name) script (.ok found),
          .asked (.isArray name) kindScript (.ok kind),
          .asked (.elements name) valueScript (.ok value), .split (value.getD "") elements,
          .quoted (Host.flattenPairs (Host.sortPairs (Host.pairUp (elements.getD [])))) contents,
          .quoted ["array", "set", name, contents] line]
        (some line)

namespace Host

variable {session : SessionId} {builtins : Option Builtins}

theorem reveals_isBuiltinVar (name : String) : Reveals session builtins
    (fun (findings : List (Finding H)) known => ∃ state,
      findings = [.inspected state] ∧ known = builtinVar builtins name)
    (ExceptT.lift (isBuiltinVar session name) : Attempt H N Bool) := by
  rw [isBuiltinVar, lift_bind]
  refine reveals_inspect.bind ?_
  rintro _ state ⟨rfl, rfl⟩
  exact reveals_pure ⟨state, rfl, rfl⟩

theorem reveals_varExists (name : String) : Reveals session builtins
    (fun (findings : List (Finding H)) exist => ∃ script found,
      findings = [.asked (.isSet name) script (.ok found)] ∧
        exist = decide (found.getD "" = "1"))
    (varExists session name : Attempt H N Bool) := by
  refine (reveals_query (.isSet name) (by simp)).bind ?_
  rintro _ _ ⟨script, found, rfl, rfl⟩
  exact reveals_pure ⟨script, found, rfl, rfl⟩

theorem reveals_findVar (name : String) : Reveals session builtins
    (fun (findings : List (Finding H)) var => ∃ script kind,
      (kind.getD "" = "1" ∧ var = ⟨session, name, .array⟩ ∧
        findings = [.asked (.isArray name) script (.ok kind)]) ∨
      (kind.getD "" ≠ "1" ∧ var = ⟨session, name, .scalar⟩ ∧ ∃ checkScript checked,
        findings = [.asked (.isArray name) script (.ok kind),
          .asked (.scalar name) checkScript (.ok checked)]))
    (findVar session name : Attempt H N Var) := by
  refine (reveals_query (.isArray name) (by simp)).bind ?_
  rintro _ _ ⟨script, kind, rfl, rfl⟩
  split
  · rename_i many
    exact reveals_pure ⟨script, kind, .inl ⟨many, rfl, rfl⟩⟩
  · rename_i single
    refine (reveals_query (.scalar name) (by simp)).bind ?_
    rintro _ _ ⟨checkScript, checked, rfl, rfl⟩
    exact reveals_pure ⟨script, kind, .inr ⟨single, rfl, checkScript, checked, rfl⟩⟩

theorem reveals_scalarScript (name : String) : Reveals session builtins
    (fun (findings : List (Finding H)) line => ∃ script value,
      findings = [.asked (.scalar name) script (.ok value),
        .quoted ["set", name, value.getD ""] line])
    (Var.script ⟨session, name, .scalar⟩ : Attempt H N String) := by
  refine (reveals_query (.scalar name) (by simp)).bind ?_
  rintro _ _ ⟨script, value, rfl, rfl⟩
  refine (reveals_quoteList _).mono ?_
  rintro _ line rfl
  exact ⟨script, value, rfl⟩

theorem reveals_elements (name : String) : Reveals session builtins
    (fun (findings : List (Finding H)) pairs => ∃ script value elements,
      findings = [.asked (.elements name) script (.ok value),
        .split (value.getD "") elements] ∧
      pairs = sortPairs (pairUp (elements.getD [])))
    (Var.elements ⟨session, name, .array⟩ : Attempt H N (List (String × String))) := by
  refine (reveals_query (.elements name) (by simp)).bind ?_
  rintro _ _ ⟨script, value, rfl, rfl⟩
  refine (reveals_splitLenient _).bind ?_
  rintro _ _ ⟨elements, rfl, rfl⟩
  exact reveals_pure ⟨script, value, elements, rfl, rfl⟩

theorem reveals_arrayScript (name : String) : Reveals session builtins
    (fun (findings : List (Finding H)) line => ∃ script value elements contents,
      findings = [.asked (.elements name) script (.ok value), .split (value.getD "") elements,
        .quoted (flattenPairs (sortPairs (pairUp (elements.getD [])))) contents,
        .quoted ["array", "set", name, contents] line])
    (Var.script ⟨session, name, .array⟩ : Attempt H N String) := by
  refine (reveals_elements name).bind ?_
  rintro _ _ ⟨script, value, elements, rfl, rfl⟩
  refine (reveals_quoteList _).bind ?_
  rintro _ contents rfl
  refine (reveals_quoteList _).mono ?_
  rintro _ line rfl
  exact ⟨script, value, elements, contents, rfl⟩

theorem reveals_varLine (name : String) :
    Reveals session builtins (fun (findings : List (Finding H)) => VarLine builtins name findings)
      (varLine session name : Attempt H N (Option String)) := by
  refine (reveals_isBuiltinVar name).bind ?_
  rintro _ known ⟨state, rfl, same⟩
  cases known with
  | true => exact reveals_pure (.builtin state same.symm)
  | false =>
      refine (reveals_varExists name).bind ?_
      rintro _ found ⟨script, answer, rfl, exist⟩
      cases found with
      | false => exact reveals_pure (.unset state script answer same.symm (by simpa using exist))
      | true =>
          have set : answer.getD "" = "1" := by simpa using exist
          refine (reveals_findVar name).bind ?_
          rintro _ var ⟨kindScript, kind, ⟨many, rfl, rfl⟩ |
            ⟨single, rfl, checkScript, checked, rfl⟩⟩
          · refine (reveals_arrayScript name).bind ?_
            rintro _ line ⟨valueScript, value, elements, contents, rfl⟩
            exact reveals_pure (.array state script kindScript valueScript contents line answer
              kind value elements same.symm set many)
          · refine (reveals_scalarScript name).bind ?_
            rintro _ line ⟨valueScript, value, rfl⟩
            exact reveals_pure (.scalar state script kindScript checkScript valueScript line answer
              kind checked value same.symm set single)

end Host

/-! Procedures. -/

def builtinProc (builtins : Option Builtins) (name : String) : Bool :=
  builtins.any (·.procs.contains name)

inductive Declared (name : String) : List String → List (Finding H) → List String → Prop
  | nil : Declared name [] [] []
  | required {parameters : List String} {findings : List (Finding H)} {declared : List String}
      (parameter script : String) (answer : Option String) (elements : Option (List String))
      (without : Proc.readDefault (elements.getD []) = none)
      (later : Declared name parameters findings declared) :
      Declared name (parameter :: parameters)
        ([.asked (.default name parameter) script (.ok answer),
          .split (answer.getD "") elements] ++ findings)
        (parameter :: declared)
  | optional {parameters : List String} {findings : List (Finding H)} {declared : List String}
      (parameter script value declaration : String) (answer : Option String)
      (elements : Option (List String))
      (default : Proc.readDefault (elements.getD []) = some value)
      (later : Declared name parameters findings declared) :
      Declared name (parameter :: parameters)
        ([.asked (.default name parameter) script (.ok answer), .split (answer.getD "") elements,
          .quoted [parameter, value] declaration] ++ findings)
        (declaration :: declared)

inductive ProcLine (builtins : Option Builtins) (name : String) :
    List (Finding H) → Option String → Prop
  | builtin (state : Session H) (script : String) (checked : Option String)
      (known : builtinProc builtins name = true) :
      ProcLine builtins name
        [.asked (.parameters name) script (.ok checked), .inspected state] none
  | autoLoaded (state : Session H) (script loadScript : String) (checked loaded : Option String)
      (new : builtinProc builtins name = false) (indexed : loaded.getD "" = "1") :
      ProcLine builtins name
        [.asked (.parameters name) script (.ok checked), .inspected state,
          .asked (.autoLoaded name) loadScript (.ok loaded)] none
  | defined {findings : List (Finding H)} {declared : List String} (state : Session H)
      (script loadScript parameterScript list bodyScript line : String)
      (checked parameters body : Option String) (loaded : Except Error (Option String))
      (elements : Option (List String)) (new : builtinProc builtins name = false)
      (unindexed : ∀ answer, loaded = .ok answer → answer.getD "" ≠ "1")
      (declares : Declared name (elements.getD []) findings declared) :
      ProcLine builtins name
        ([.asked (.parameters name) script (.ok checked), .inspected state,
          .asked (.autoLoaded name) loadScript loaded,
          .asked (.parameters name) parameterScript (.ok parameters),
          .split (parameters.getD "") elements] ++ findings ++
          [.quoted declared list, .asked (.body name) bodyScript (.ok body),
          .quoted ["proc", name, list, body.getD ""] line])
        (some line)

namespace Host

variable {session : SessionId} {builtins : Option Builtins}

theorem reveals_findProc (name : String) : Reveals session builtins
    (fun (findings : List (Finding H)) proc => ∃ script checked,
      findings = [.asked (.parameters name) script (.ok checked)] ∧ proc = ⟨session, name⟩)
    (findProc session name : Attempt H N Proc) := by
  refine (reveals_query (.parameters name) (by simp)).bind ?_
  rintro _ _ ⟨script, checked, rfl, rfl⟩
  exact reveals_pure ⟨script, checked, rfl, rfl⟩

theorem reveals_isSnapshotProc (name : String) : Reveals session builtins
    (fun (findings : List (Finding H)) known => ∃ state,
      findings = [.inspected state] ∧ known = builtinProc builtins name)
    (ExceptT.lift (isSnapshotProc session name) : Attempt H N Bool) := by
  rw [isSnapshotProc, lift_bind]
  refine reveals_inspect.bind ?_
  rintro _ state ⟨rfl, rfl⟩
  exact reveals_pure ⟨state, rfl, rfl⟩

/-- Whether the query for the index fails or denies it makes no difference. -/
theorem reveals_isBuiltin (name : String) : Reveals session builtins
    (fun (findings : List (Finding H)) known => ∃ state,
      (builtinProc builtins name = true ∧ known = true ∧ findings = [.inspected state]) ∨
      (builtinProc builtins name = false ∧ ∃ script loaded,
        findings = [.inspected state, .asked (.autoLoaded name) script loaded] ∧
        (known = true ↔ ∃ answer, loaded = .ok answer ∧ answer.getD "" = "1")))
    (ExceptT.lift (Proc.isBuiltin ⟨session, name⟩) : Attempt H N Bool) := by
  rw [Proc.isBuiltin, lift_bind]
  refine (reveals_isSnapshotProc name).bind ?_
  rintro _ known ⟨state, rfl, same⟩
  cases known with
  | true => exact reveals_pure ⟨state, .inl ⟨same.symm, rfl, rfl⟩⟩
  | false =>
      rw [if_neg Bool.false_ne_true, lift_bind]
      refine (reveals_autoLoaded name).bind ?_
      rintro _ _ ⟨script, loaded, rfl, rfl⟩
      cases loaded with
      | error cause =>
          exact reveals_pure ⟨state, .inr ⟨same.symm, script, .error cause, rfl, by simp⟩⟩
      | ok answer =>
          have told : (Except.ok answer : Except Error (Option String)).map (·.getD "") =
              .ok (answer.getD "") := rfl
          rw [told]
          split
          · rename_i one
            exact reveals_pure ⟨state, .inr ⟨same.symm, script, .ok answer, rfl,
              by simpa using Except.ok.inj one⟩⟩
          · rename_i other
            refine reveals_pure ⟨state, .inr ⟨same.symm, script, .ok answer, rfl, ?_⟩⟩
            simpa using other

theorem reveals_defaultOf (name parameter : String) : Reveals session builtins
    (fun (findings : List (Finding H)) default => ∃ script answer elements,
      findings = [.asked (.default name parameter) script (.ok answer),
        .split (answer.getD "") elements] ∧ default = Proc.readDefault (elements.getD []))
    (Proc.defaultOf ⟨session, name⟩ parameter : Attempt H N (Option String)) := by
  refine (reveals_query (.default name parameter) (by simp)).bind ?_
  rintro _ _ ⟨script, answer, rfl, rfl⟩
  refine (reveals_splitLenient _).bind ?_
  rintro _ _ ⟨elements, rfl, rfl⟩
  exact reveals_pure ⟨script, answer, elements, rfl, rfl⟩

theorem reveals_declarations (name : String) (parameters : List String) :
    Reveals session builtins
      (fun (findings : List (Finding H)) => Declared name parameters findings)
      (Proc.declarations ⟨session, name⟩ parameters : Attempt H N (List String)) := by
  induction parameters with
  | nil => exact reveals_pure .nil
  | cons parameter rest ih =>
      refine (reveals_defaultOf name parameter).bind ?_
      rintro _ default ⟨script, answer, elements, rfl, same⟩
      cases default with
      | none =>
          refine ih.bind ?_
          rintro findings declared later
          refine reveals_pure ?_
          rw [List.append_nil]
          exact .required parameter script answer elements same.symm later
      | some value =>
          refine (reveals_quoteList _).bind ?_
          rintro _ declaration rfl
          refine ih.bind ?_
          rintro findings declared later
          refine reveals_pure ?_
          rw [List.append_nil]
          exact .optional parameter script value declaration answer elements same.symm later

theorem reveals_procScript (name : String) : Reveals session builtins
    (fun (findings : List (Finding H)) line => ∃ script parameters elements more declared list
        bodyScript body, Declared name (elements.getD []) more declared ∧
      findings = [.asked (.parameters name) script (.ok parameters),
        .split (parameters.getD "") elements] ++ more ++
        [.quoted declared list, .asked (.body name) bodyScript (.ok body),
          .quoted ["proc", name, list, body.getD ""] line])
    (Proc.script ⟨session, name⟩ : Attempt H N String) := by
  have named : Reveals session builtins
      (fun (findings : List (Finding H)) items => ∃ script parameters elements,
        findings = [.asked (.parameters name) script (.ok parameters),
          .split (parameters.getD "") elements] ∧ items = elements.getD [])
      (Proc.parameters ⟨session, name⟩ : Attempt H N (List String)) := by
    refine (reveals_query (.parameters name) (by simp)).bind ?_
    rintro _ _ ⟨script, parameters, rfl, rfl⟩
    refine (reveals_splitLenient _).mono ?_
    rintro _ _ ⟨elements, rfl, rfl⟩
    exact ⟨script, parameters, elements, rfl, rfl⟩
  refine named.bind ?_
  rintro _ _ ⟨script, parameters, elements, rfl, rfl⟩
  refine (reveals_declarations name _).bind ?_
  rintro more declared declares
  refine (reveals_quoteList _).bind ?_
  rintro _ list rfl
  refine (reveals_query (.body name) (by simp)).bind ?_
  rintro _ _ ⟨bodyScript, body, rfl, rfl⟩
  refine (reveals_quoteList _).mono ?_
  rintro _ line rfl
  exact ⟨script, parameters, elements, more, declared, list, bodyScript, body, declares, by simp⟩

theorem reveals_procLine (name : String) :
    Reveals session builtins
      (fun (findings : List (Finding H)) => ProcLine builtins name findings)
      (procLine session name : Attempt H N (Option String)) := by
  refine (reveals_findProc name).bind ?_
  rintro _ _ ⟨script, checked, rfl, rfl⟩
  refine (reveals_isBuiltin name).bind ?_
  rintro _ known ⟨state, ⟨builtin, rfl, rfl⟩ | ⟨new, loadScript, loaded, rfl, indexed⟩⟩
  · exact reveals_pure (.builtin state script checked builtin)
  · cases known with
    | true =>
        obtain ⟨answer, rfl, one⟩ := indexed.mp rfl
        exact reveals_pure (.autoLoaded state script loadScript checked answer new one)
    | false =>
        refine (reveals_procScript name).bind ?_
        rintro _ line ⟨parameterScript, parameters, elements, more, declared, list, bodyScript,
          body, declares, rfl⟩
        refine reveals_pure ?_
        have unindexed : ∀ answer, loaded = .ok answer → answer.getD "" ≠ "1" := by
          intro answer same one
          exact Bool.false_ne_true (indexed.mpr ⟨answer, same, one⟩)
        simpa using ProcLine.defined state script loadScript parameterScript list bodyScript line
          checked parameters body loaded elements new unindexed declares

end Host

/-! The whole script. -/

namespace Host

theorem sortNames_perm (names : List String) : (sortNames names).Perm names :=
  List.mergeSort_perm names _

theorem sorted_sortNames (names : List String) : (sortNames names).Pairwise (· ≤ ·) :=
  List.pairwise_mergeSort' (· ≤ ·) names

theorem sortNames_eq_insertionSort (names : List String) :
    sortNames names = names.insertionSort (· ≤ ·) :=
  List.mergeSort_eq_insertionSort (· ≤ ·) names

end Host

structure Account (H : Type) where
  name : String
  findings : List (Finding H)
  line : Option String

def Account.IsSet (account : Account H) : Prop :=
  ∃ script found, .asked (.isSet account.name) script (.ok found) ∈ account.findings ∧
    found.getD "" = "1"

def Account.AutoLoaded (account : Account H) : Prop :=
  ∃ script loaded, .asked (.autoLoaded account.name) script (.ok loaded) ∈ account.findings ∧
    loaded.getD "" = "1"

/-- What serialising goes through if nothing fails: the replies that list the names, the names they
are read as, and the accounts of them, in order. -/
structure Survey (H : Type) where
  varReply : Option String
  varNames : Option (List String)
  vars : List (Account H)
  procReply : Option String
  procNames : Option (List String)
  procs : List (Account H)

namespace Survey

variable {survey : Survey H} {builtins : Option Builtins}

def findings (survey : Survey H) : List (Finding H) :=
  [.listed "info vars" (.ok survey.varReply),
    .split (survey.varReply.getD "") survey.varNames] ++ survey.vars.flatMap Account.findings ++
  [.listed "info procs" (.ok survey.procReply),
    .split (survey.procReply.getD "") survey.procNames] ++ survey.procs.flatMap Account.findings

def text (survey : Survey H) : String :=
  String.intercalate "\n"
    (survey.vars.filterMap Account.line ++ survey.procs.filterMap Account.line)

structure Accounts (builtins : Option Builtins) (survey : Survey H) : Prop where
  varNames : survey.vars.map Account.name = Host.sortNames (survey.varNames.getD [])
  vars : ∀ account ∈ survey.vars, VarLine builtins account.name account.findings account.line
  procNames : survey.procs.map Account.name = Host.sortNames (survey.procNames.getD [])
  procs : ∀ account ∈ survey.procs, ProcLine builtins account.name account.findings account.line

/-- No name is missing or accounted for more often than it is listed, and those that get a line are
the ones that are not built in. -/
structure Covers (builtins : Option Builtins) (survey : Survey H) : Prop
    extends survey.Accounts builtins where
  varsListed : (survey.vars.map Account.name).Perm (survey.varNames.getD [])
  varsSorted : (survey.vars.map Account.name).Pairwise (· ≤ ·)
  varLines : ∀ account ∈ survey.vars,
    account.line.isSome ↔ builtinVar builtins account.name = false ∧ account.IsSet
  procsListed : (survey.procs.map Account.name).Perm (survey.procNames.getD [])
  procsSorted : (survey.procs.map Account.name).Pairwise (· ≤ ·)
  procLines : ∀ account ∈ survey.procs,
    account.line.isSome ↔ builtinProc builtins account.name = false ∧ ¬ account.AutoLoaded

end Survey

theorem VarLine.isSome_iff {builtins : Option Builtins} {name : String}
    {findings : List (Finding H)} {line : Option String}
    (told : VarLine builtins name findings line) :
    line.isSome ↔ builtinVar builtins name = false ∧ ∃ script found,
      .asked (.isSet name) script (.ok found) ∈ findings ∧ found.getD "" = "1" := by
  cases told with
  | builtin state known => simp [known]
  | unset state script found new unset => simp [unset]
  | scalar state script _ _ _ _ found _ _ _ new set
  | array state script _ _ _ _ found _ _ _ new set =>
      exact ⟨fun _ => ⟨new, script, found, by simp, set⟩, fun _ => rfl⟩

theorem Declared.asks_default {name : String} {parameters declared : List String}
    {findings : List (Finding H)} (declares : Declared name parameters findings declared)
    {query : Query} {script : String} {reply : Except Error (Option String)}
    (asked : .asked query script reply ∈ findings) :
    ∃ parameter, query = .default name parameter := by
  induction declares with
  | nil => cases asked
  | required parameter _ _ _ _ _ ih =>
      rcases List.mem_append.mp asked with here | later
      · exact ⟨parameter, by simp_all⟩
      · exact ih later
  | optional parameter _ _ _ _ _ _ _ ih =>
      rcases List.mem_append.mp asked with here | later
      · exact ⟨parameter, by simp_all⟩
      · exact ih later

theorem ProcLine.isSome_iff {builtins : Option Builtins} {name : String}
    {findings : List (Finding H)} {line : Option String}
    (told : ProcLine builtins name findings line) :
    line.isSome ↔ builtinProc builtins name = false ∧ ∀ script loaded,
      .asked (.autoLoaded name) script (.ok loaded) ∈ findings → loaded.getD "" ≠ "1" := by
  cases told with
  | builtin state script checked known => simp [known]
  | autoLoaded state script loadScript checked loaded new indexed =>
      refine ⟨nofun, fun ⟨_, unindexed⟩ => ?_⟩
      exact absurd indexed (unindexed loadScript loaded (by simp))
  | defined state script loadScript parameterScript list bodyScript line checked parameters body
      loaded elements new unindexed declares =>
      refine ⟨fun _ => ⟨new, fun other answer asked => ?_⟩, fun _ => rfl⟩
      rcases List.mem_append.mp asked with before | after
      · rcases List.mem_append.mp before with first | among
        · exact unindexed answer (by simp_all)
        · obtain ⟨parameter, same⟩ := declares.asks_default among
          cases same
      · simp at after

theorem Survey.Accounts.covers {survey : Survey H} {builtins : Option Builtins}
    (accounts : survey.Accounts builtins) : survey.Covers builtins where
  toAccounts := accounts
  varsListed := accounts.varNames ▸ Host.sortNames_perm _
  varsSorted := accounts.varNames ▸ Host.sorted_sortNames _
  varLines account member := (accounts.vars account member).isSome_iff
  procsListed := accounts.procNames ▸ Host.sortNames_perm _
  procsSorted := accounts.procNames ▸ Host.sorted_sortNames _
  procLines account member := by
    rw [(accounts.procs account member).isSome_iff, Account.AutoLoaded]
    simp only [not_exists, not_and, ne_eq]

namespace Host

variable {session : SessionId} {builtins : Option Builtins}

theorem reveals_linesOf {told : String → List (Finding H) → Option String → Prop}
    {line : String → Attempt H N (Option String)}
    (each : ∀ name, Reveals session builtins (told name) (line name)) (names : List String) :
    Reveals session builtins
      (fun findings lines => ∃ accounts : List (Account H), accounts.map Account.name = names ∧
        (∀ account ∈ accounts, told account.name account.findings account.line) ∧
        findings = accounts.flatMap Account.findings ∧
        lines = accounts.filterMap Account.line)
      (linesOf line names) := by
  induction names with
  | nil => exact reveals_pure ⟨[], rfl, by simp, rfl, rfl⟩
  | cons name rest ih =>
      refine (each name).bind ?_
      intro findings text first
      cases text with
      | none =>
          refine ih.mono ?_
          rintro _ _ ⟨accounts, rfl, others, rfl, rfl⟩
          exact ⟨⟨name, findings, none⟩ :: accounts, rfl, List.forall_mem_cons.mpr ⟨first, others⟩,
            rfl, rfl⟩
      | some text =>
          refine ih.bind ?_
          rintro _ _ ⟨accounts, rfl, others, rfl, rfl⟩
          refine reveals_pure ⟨⟨name, findings, some text⟩ :: accounts, rfl,
            List.forall_mem_cons.mpr ⟨first, others⟩, ?_, rfl⟩
          rw [List.append_nil]
          rfl

theorem reveals_serialise : Reveals session builtins
    (fun findings text => ∃ survey : Survey H, findings = survey.findings ∧ text = survey.text ∧
      survey.Covers builtins)
    (serialise session : Attempt H N String) := by
  refine (reveals_listResult "info vars").bind ?_
  rintro _ _ ⟨varReply, varNames, rfl, rfl⟩
  refine (reveals_linesOf reveals_varLine _).bind ?_
  rintro _ _ ⟨vars, varsNamed, varsTold, rfl, rfl⟩
  refine (reveals_listResult "info procs").bind ?_
  rintro _ _ ⟨procReply, procNames, rfl, rfl⟩
  refine (reveals_linesOf reveals_procLine _).bind ?_
  rintro _ _ ⟨procs, procsNamed, procsTold, rfl, rfl⟩
  refine reveals_pure ⟨⟨varReply, varNames, vars, procReply, procNames, procs⟩, ?_, rfl,
    Survey.Accounts.covers ⟨varsNamed, varsTold, procsNamed, procsTold⟩⟩
  simp [Survey.findings]

/-- Whatever happened since the session was made ready, serialising it goes by what was built in
then. The script has a line for exactly what a survey found to be the user's. If an evaluation fails
that counts, the survey ends there, and serialising fails with its error. -/
theorem serialise_covers {setup : Setup σ H N} {fuel : Nat} {session : SessionId}
    {caller : Option SessionId} {rest : List Frame} {made world final : World σ H N}
    {state : Session H} {outcome : Except Error String} (sound : made.Sound)
    (present : made.sessions[session]? = some state) (settled : state.stage ≠ .fresh)
    (reached : World.rules.Reaches made world) (standing : World.Standing caller rest world)
    (returned : (Host.run setup fuel (serialise session).run).exec world = .ok outcome final) :
    ∃ findings : List (Finding H),
      exchanges setup fuel (serialise session).run world =
        findings.flatMap (Finding.exchanges session) ∧
      Ends (fun findings text => ∃ survey : Survey H, findings = survey.findings ∧
        text = survey.text ∧ survey.Covers state.builtins) findings outcome ∧
      findings.findSome? Finding.failure? = failed? outcome := by
  have soundNow : world.Sound := reached.preserved (fun _ _ step => step.sound) sound
  have lasts : made.Lasts session fun now => now.builtins = state.builtins :=
    sound.lasts present settled rfl
  have shown : ∀ exchange ∈ exchanges setup fuel (serialise session).run world,
      exchange.Shows session state.builtins :=
    exchanges_show _ soundNow standing (lasts.builtins sound reached)
  obtain ⟨findings, made, ends⟩ := reveals_serialise.ends _ _ (converses_of_exec returned) shown
  exact ⟨findings, made, ends, ends.findSome?_eq⟩

end Host

/-! A session that had one variable and one procedure when it was made ready, and has more since. -/

namespace Ideal

def contents (grown : Bool) (script : String) : String :=
  if script = "info procs" then if grown then "q p l" else "p"
  else if script = "info vars" then if grown then "x env a n v" else "v"
  else if script = "array get a" then "k 1"
  else if script = "set x" then "7"
  else if script = "info body q" then "return"
  else if script ∈ ["info exists a", "info exists x", "array exists a",
    "info exists ::auto_index(l)"] then "1"
  else ""

def holding (grown : Bool) : Setup Heap Unit Empty :=
  { setup fun _ => false with
    engine := answering fun script => Text.encode (contents grown (Text.decode script)) }

def shelf : Library where
  outcome := some (.ok "")

def held : World Heap Unit Empty :=
  Process.finalState ((Host.run (holding false) 0 (Host.openSession {})).exec
    (World.start Heap.empty shelf))

theorem held_stands : held.Sound ∧ World.Standing none [] held := by
  have ran : Process.result? ((Host.run (holding false) 0
      (Host.openSession {} : Host Unit Empty (Except Error SessionId))).exec
      (World.start Heap.empty shelf)) = some (.ok 0) := by decide +kernel
  exact Host.stands_finally (Process.result?_eq_some_iff.mp ran)

/-- The variable that was there before and the known one are left out, and so is the one that is
not set. -/
theorem grown_covered : ∃ final,
    (Host.run (holding true) 0 (Host.serialise 0).run).exec held =
      .ok (.ok "array set a k\\s1\nset x 7\nproc q \\e return") final ∧
    ∃ state findings, held.sessions[0]? = some state ∧ state.builtins = some ⟨["p"], ["v"]⟩ ∧
      Host.exchanges (holding true) 0 (Host.serialise 0).run held =
        findings.flatMap (Finding.exchanges 0) ∧
      ∃ survey : Survey Unit, findings = survey.findings ∧
        survey.text = "array set a k\\s1\nset x 7\nproc q \\e return" ∧
        survey.Covers state.builtins := by
  obtain ⟨sound, standing⟩ := held_stands
  have made : held.sessions[0]?.map (fun state => (state.stage, state.builtins)) =
      some (.ready, some ⟨["p"], ["v"]⟩) := by decide +kernel
  obtain ⟨state, present, same⟩ := Option.map_eq_some_iff.mp made
  obtain ⟨ready, builtins⟩ := Prod.mk.inj same
  have written : Process.result? ((Host.run (holding true) 0
      (Host.serialise 0 : Attempt Unit Empty String).run).exec held) =
        some (.ok "array set a k\\s1\nset x 7\nproc q \\e return") := by
    simp only [Host.serialise, Host.sortNames_eq_insertionSort]
    decide +kernel
  obtain ⟨final, returned⟩ := Process.result?_eq_some_iff.mp written
  obtain ⟨findings, exchanged, ends, _⟩ := Host.serialise_covers sound present (by simp [ready])
    Relation.ReflTransGen.refl standing returned
  cases ends with
  | ok covers clean =>
      obtain ⟨survey, found, text, covered⟩ := covers
      exact ⟨final, returned, state, findings, present, builtins, exchanged, survey, found,
        text.symm, covered⟩

end Ideal

end TclHost
