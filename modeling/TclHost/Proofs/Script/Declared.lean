import TclHost.Proofs.Serialise.Unordered

/-!
The command that defines a procedure again, read as a list. A parameter with a default is declared
by a list of the two; one without is declared by its name as it stands, which is a list of that name
only if the name reads as one.
-/

namespace TclHost

open Process

variable {σ H N α β : Type} {setup : Setup σ H N} {fuel : Nat}

namespace Host

def Attains (setup : Setup σ H N) (fuel : Nat) (attempt : Attempt H N α) (world : World σ H N)
    (result : α) (final : World σ H N) : Prop :=
  (Host.run setup fuel attempt.run).exec world = .ok (.ok result) final

theorem attains_pure {result answer : α} {world final : World σ H N} :
    Attains setup fuel (pure answer) world result final ↔ answer = result ∧ world = final := by
  refine exec_done_ok.trans (and_congr_left' ?_)
  rw [Except.ok.injEq]

theorem attains_bind {attempt : Attempt H N α} {next : α → Attempt H N β} {world final : World σ H N}
    {result : β} :
    Attains setup fuel (attempt >>= next) world result final ↔
      ∃ answer later, Attains setup fuel attempt world answer later ∧
        Attains setup fuel (next answer) later result final := by
  unfold Attains
  rw [ExceptT.run_bind, exec_run_bind]
  constructor
  · intro returned
    cases ending : (Host.run setup fuel attempt.run).exec world with
    | error cause last =>
        rw [ending] at returned
        cases returned
    | ok outcome later =>
        rw [ending] at returned
        cases outcome with
        | error cause => cases returned
        | ok answer => exact ⟨answer, later, rfl, returned⟩
  · rintro ⟨answer, later, attained, onward⟩
    rw [attained]
    exact onward

theorem attains_lift {program : Host H N α} {world final : World σ H N} {result : α} :
    Attains setup fuel (ExceptT.lift program) world result final ↔
      (Host.run setup fuel program).exec world = .ok result final := by
  have lifted : (ExceptT.lift program : Attempt H N α).run =
      program >>= fun answer => .done (.ok answer) := rfl
  rw [Attains, lifted, exec_run_bind]
  constructor
  · intro returned
    cases ending : (Host.run setup fuel program).exec world with
    | error cause last =>
        rw [ending] at returned
        cases returned
    | ok answer later =>
        rw [ending] at returned
        cases returned
        rfl
  · intro returned
    rw [returned]
    rfl

theorem attains_quoteList {heap : σ → Heap} {format : ListFormat}
    (laws : setup.engine.QuotesLists (heap · = ·) format) {session : SessionId}
    {words : List String} {world final : World σ H N} {list : String}
    (attained : Attains setup fuel (ExceptT.lift (quoteList session words)) world list final) :
    format.Reads list words ∧ ∃ scene, final = { world with scene } := by
  have performed : (Host.run setup fuel (quoteList session words)).exec world = .ok list final :=
    attains_lift.mp attained
  obtain ⟨answer, later, quoted, returned⟩ := exec_ask_ok.mp performed
  obtain ⟨rfl, rfl⟩ := exec_done_ok.mp returned
  have reads : format.Reads answer words := Run.answered_of_exec laws quoted
  obtain ⟨_, _, _, same⟩ := Run.exec_quoteList_ok.mp quoted
  exact ⟨reads, _, same⟩

end Host

namespace Proc

open Host

/-- The parameters are asked for their defaults one after the other, and each is reported as the
library answers. What is quoted in between leaves all but the library as it was. -/
inductive Reported (setup : Setup σ H N) (fuel : Nat) (proc : Proc) :
    World σ H N → List (String × Option String) → World σ H N → Prop where
  | nil {world : World σ H N} : Reported setup fuel proc world [] world
  | cons {world between last : World σ H N} {parameter : String} {default : Option String}
      {others : List (String × Option String)} (scene : Scene σ N)
      (asked : Attains setup fuel (proc.defaultOf parameter) world default between)
      (rest : Reported setup fuel proc { between with scene } others last) :
      Reported setup fuel proc world ((parameter, default) :: others) last

inductive Declares (format : ListFormat) : String × Option String → String → Prop where
  | default {parameter value specifier : String}
      (reads : format.Reads specifier [parameter, value]) :
      Declares format (parameter, some value) specifier
  | bare (parameter : String) : Declares format (parameter, none) parameter

def Specifies (format : ListFormat) (declared : String × Option String) (specifier : String) :
    Prop :=
  format.Reads specifier (declared.1 :: declared.2.toList)

/-- The command that was put together from the parameters, each with the default that was reported
for it, and from the body. -/
structure Rebuilt (setup : Setup σ H N) (fuel : Nat) (format : ListFormat) (proc : Proc)
    (world : World σ H N) (text : String) (declared : List (String × Option String))
    (specifiers : List String) : Prop where
  reported : ∃ named surveyed scene read body,
    Attains setup fuel proc.parameters world (declared.map Prod.fst) named ∧
      Reported setup fuel proc named declared surveyed ∧
      Attains setup fuel proc.body { surveyed with scene } body read ∧
      ∃ list, format.Reads text ["proc", proc.name, list, body] ∧ format.Reads list specifiers
  declares : List.Forall₂ (Declares format) declared specifiers
  /-- All parameters come back from the text just if each bare one reads as itself. -/
  specifies : List.Forall₂ (Specifies format) declared specifiers ↔
    ∀ parameter, (parameter, none) ∈ declared → format.Reads parameter [parameter]

section

variable {heap : σ → Heap} {format : ListFormat}
  (laws : setup.engine.QuotesLists (heap · = ·) format) {proc : Proc}

theorem Declares.specifies_iff {declared : String × Option String} {specifier : String}
    (declares : Declares format declared specifier) :
    Specifies format declared specifier ↔
      ∀ parameter, (parameter, none) = declared → format.Reads parameter [parameter] := by
  cases declares with
  | default reads =>
      constructor
      · intro _ _ same
        cases same
      · exact fun _ => reads
  | bare =>
      constructor
      · intro reads _ same
        cases same
        exact reads
      · exact fun all => all specifier rfl

theorem specifies_iff {declared : List (String × Option String)} {specifiers : List String}
    (declares : List.Forall₂ (Declares format) declared specifiers) :
    List.Forall₂ (Specifies format) declared specifiers ↔
      ∀ parameter, (parameter, none) ∈ declared → format.Reads parameter [parameter] := by
  induction declares with
  | nil => simp
  | cons first _ ih =>
      rw [List.forall₂_cons, first.specifies_iff, ih]
      simp only [List.mem_cons, or_imp, forall_and]

include laws in
theorem reported_of_declarations {parameters specifiers : List String} {world last : World σ H N}
    (attained : Attains setup fuel (proc.declarations parameters) world specifiers last) :
    ∃ declared : List (String × Option String), declared.map Prod.fst = parameters ∧
      Reported setup fuel proc world declared last ∧
        List.Forall₂ (Declares format) declared specifiers := by
  induction parameters generalizing specifiers world with
  | nil =>
      obtain ⟨rfl, rfl⟩ := attains_pure.mp attained
      exact ⟨[], rfl, .nil, .nil⟩
  | cons parameter rest ih =>
      obtain ⟨default, between, asked, attained⟩ := attains_bind.mp attained
      have onward {declaration : String} {scene : Scene σ N}
          (declares : Declares format (parameter, default) declaration)
          (attained : Attains setup fuel
            (do return declaration :: (← proc.declarations rest)) { between with scene }
            specifiers last) :
          ∃ declared : List (String × Option String), declared.map Prod.fst = parameter :: rest ∧
            Reported setup fuel proc world declared last ∧
              List.Forall₂ (Declares format) declared specifiers := by
        obtain ⟨others, final, survey, returned⟩ := attains_bind.mp attained
        obtain ⟨rfl, rfl⟩ := attains_pure.mp returned
        obtain ⟨declared, names, reported, all⟩ := ih survey
        exact ⟨(parameter, default) :: declared, congrArg _ names, .cons scene asked reported,
          .cons declares all⟩
      cases default with
      | none => exact onward (.bare parameter) attained
      | some value =>
          obtain ⟨declaration, later, quoted, attained⟩ := attains_bind.mp attained
          obtain ⟨reads, scene, rfl⟩ := attains_quoteList laws quoted
          exact onward (.default reads) attained

include laws in
/-- Whatever the parameters are called, the text is the four words of the command, with one
specifier for each parameter, in order. -/
theorem rebuilt_of_script {world final : World σ H N} {text : String}
    (attained : Attains setup fuel proc.script world text final) :
    ∃ declared specifiers, Rebuilt setup fuel format proc world text declared specifiers := by
  obtain ⟨names, named, parameters, attained⟩ := attains_bind.mp attained
  obtain ⟨specifiers, surveyed, declarations, attained⟩ := attains_bind.mp attained
  obtain ⟨list, quoted, listed, attained⟩ := attains_bind.mp attained
  obtain ⟨body, read, bodied, written⟩ := attains_bind.mp attained
  obtain ⟨declared, rfl, reported, declares⟩ := reported_of_declarations laws declarations
  obtain ⟨readsList, scene, rfl⟩ := attains_quoteList laws listed
  obtain ⟨readsText, _⟩ := attains_quoteList laws written
  refine ⟨declared, specifiers, ?_, declares, specifies_iff declares⟩
  exact ⟨named, surveyed, scene, read, body, parameters, reported, bodied, list, readsText,
    readsList⟩

end

end Proc

/-! A procedure with one parameter, whose name holds a space. -/

namespace Ideal

def spaced (script : String) : String :=
  if script = "info args p" then "a\\sb" else if script = "info body p" then "return" else "0"

def asking : Setup Heap Unit Empty :=
  { Ideal.setup fun _ => false with
    engine := answering fun script => Text.encode (spaced (Text.decode script)) }

/-- The name was not quoted once more, so it comes back as a name and a default. -/
theorem rebuilt_spaced : ∃ text final,
    Host.Attains asking 1 (Proc.script ⟨0, "p"⟩) opened text final ∧
      (∃ declared specifiers, Proc.Rebuilt asking 1 .scripted ⟨0, "p"⟩ opened text declared
        specifiers) ∧
      text = "proc p a\\\\sb return" ∧ ListFormat.scripted.Reads "a\\sb" ["a b"] ∧
        ListFormat.scripted.Reads "a b" ["a", "b"] := by
  have written : Process.result?
      ((Host.run asking 1 (Proc.script ⟨0, "p"⟩).run).exec opened) =
        some (.ok "proc p a\\\\sb return") := by decide +kernel
  obtain ⟨final, attained⟩ := result?_eq_some_iff.mp written
  exact ⟨_, final, attained, Proc.rebuilt_of_script (readsLists _).toQuotesLists attained, rfl,
    by decide +kernel, by decide +kernel⟩

end Ideal

end TclHost
