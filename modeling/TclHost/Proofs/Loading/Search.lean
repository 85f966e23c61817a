import TclHost.Library

/-!
What a search for the library comes to, by the state of the files alone: which of them are opened,
which one is taken, and what is reported where none is.
-/

namespace TclHost

namespace LibraryFile

inductive Usable : LibraryFile → Prop
  | complete : Usable .complete
  | lacking {symbols : List String} (reason : String)
      (others : ∀ symbol ∈ entryPoints, symbol ∉ symbols) : Usable (.lacking symbols reason)

/-- Entry points are resolved in order, so the first one that is missing is reported. -/
structure FirstMissing (symbols : List String) (symbol : String) : Prop where
  missing : symbol ∈ symbols
  first : ∃ before after, entryPoints = before ++ symbol :: after ∧
    ∀ earlier ∈ before, earlier ∉ symbols

inductive Refuses (path : String) : LibraryFile → LoadError → Prop
  | unusable (reason : String) : Refuses path (.unusable reason) (.openFailed path reason)
  | lacking {symbols : List String} {symbol : String} (reason : String)
      (missing : FirstMissing symbols symbol) :
      Refuses path (.lacking symbols reason) (.missingSymbol symbol reason)

def mention (path : String) : LibraryFile → String
  | .lacking _ reason => path ++ " (" ++ reason ++ ")"
  | _ => path

variable {file : LibraryFile} {path : String} {cause : LoadError}

theorem firstMissing_iff {symbols : List String} {symbol : String} :
    entryPoints.find? symbols.contains = some symbol ↔ FirstMissing symbols symbol := by
  rw [List.find?_eq_some_iff_append]
  simp only [Bool.not_eq_true', List.contains_eq_mem, decide_eq_false_iff_not,
    decide_eq_true_eq]
  constructor
  · rintro ⟨missing, before, after, split, earlier⟩
    exact ⟨missing, before, after, split, earlier⟩
  · rintro ⟨missing, before, after, split, earlier⟩
    exact ⟨missing, before, after, split, earlier⟩

theorem usable_lacking_iff {symbols : List String} {reason : String} :
    (lacking symbols reason).Usable ↔ entryPoints.find? symbols.contains = none := by
  rw [List.find?_eq_none]
  simp only [List.contains_eq_mem, decide_eq_true_eq]
  constructor
  · rintro ⟨⟩
    assumption
  · exact .lacking reason

theorem open?_cases (file : LibraryFile) (path : String) :
    (file.Usable ∧ file.open? path = .ok path) ∨
      ∃ cause, ¬ file.Usable ∧ file.Refuses path cause ∧ file.open? path = .error cause := by
  cases file with
  | complete => exact .inl ⟨.complete, rfl⟩
  | unusable reason => exact .inr ⟨_, nofun, .unusable reason, rfl⟩
  | lacking symbols reason =>
      rw [usable_lacking_iff, open?]
      cases found : entryPoints.find? symbols.contains with
      | none => exact .inl ⟨rfl, rfl⟩
      | some symbol => exact .inr ⟨_, nofun, .lacking reason (firstMissing_iff.mp found), rfl⟩

theorem Refuses.triedEntry_eq (refuses : file.Refuses path cause) :
    triedEntry path cause = file.mention path := by
  cases refuses <;> rfl

end LibraryFile

namespace Library

variable {files : String → LibraryFile} {config : Config} {library : Library}

inductive Finds (files : String → LibraryFile) (config : Config) :
    Except LoadError String → List String → Prop
  | explicit {path : String} (asked : config.library = some path) (usable : (files path).Usable) :
      Finds files config (.ok path) [path]
  | refused {path : String} {cause : LoadError} (asked : config.library = some path)
      (refuses : (files path).Refuses path cause) : Finds files config (.error cause) [path]
  | usual {before after : List String} {path : String} (unasked : config.library = none)
      (order : defaultLibraries = before ++ path :: after)
      (earlier : ∀ other ∈ before, ¬ (files other).Usable) (usable : (files path).Usable) :
      Finds files config (.ok path) (before ++ [path])
  | nowhere (unasked : config.library = none)
      (none : ∀ path ∈ defaultLibraries, ¬ (files path).Usable) :
      Finds files config (.error (.notFound (defaultLibraries.map fun path =>
        (files path).mention path))) defaultLibraries

def settled (outcome : Except LoadError String) (opened : List String) : Library where
  outcome := some outcome
  opened
  located := if outcome.isOk then 1 else 0

theorem loaded?_settled {outcome : Except LoadError String} {opened : List String}
    {path : String} : (settled outcome opened).loaded? = some path ↔ outcome = .ok path := by
  cases outcome <;> simp [loaded?, settled]

theorem load_settled (outcome : Except LoadError String) (opened : List String)
    (files : String → LibraryFile) (config : Config) :
    (settled outcome opened).load files config = (outcome, settled outcome opened) := rfl

theorem search_candidates (files : String → LibraryFile) (candidates tried : List String) (library : Library) :
    (∃ before path after, candidates = before ++ path :: after ∧
        (∀ other ∈ before, ¬ (files other).Usable) ∧ (files path).Usable ∧
        library.search files false candidates tried = (.ok path,
          { library with
            opened := library.opened ++ (before ++ [path])
            located := library.located + 1 })) ∨
      (∀ path ∈ candidates, ¬ (files path).Usable) ∧
        library.search files false candidates tried =
          (.error (.notFound (tried ++ candidates.map fun path => (files path).mention path)),
            { library with opened := library.opened ++ candidates }) := by
  induction candidates generalizing tried library with
  | nil =>
      right
      simp [search]
  | cons candidate rest ih =>
      rcases (files candidate).open?_cases candidate with
        ⟨usable, opens⟩ | ⟨cause, unusable, refuses, fails⟩
      · exact .inl ⟨[], candidate, rest, rfl, by simp, usable, by simp [search, opens]⟩
      · have onward : library.search files false (candidate :: rest) tried =
            search files false { library with opened := library.opened ++ [candidate] } rest
              (tried ++ [(files candidate).mention candidate]) := by
          simp [search, fails, refuses.triedEntry_eq]
        rw [onward]
        rcases ih (tried ++ [(files candidate).mention candidate])
            { library with opened := library.opened ++ [candidate] } with
          ⟨before, path, after, split, earlier, usable, found⟩ | ⟨none, failed⟩
        · left
          refine ⟨candidate :: before, path, after, by rw [split, List.cons_append], ?_, usable, ?_⟩
          · exact List.forall_mem_cons.mpr ⟨unusable, earlier⟩
          · simp [found]
        · right
          refine ⟨List.forall_mem_cons.mpr ⟨unusable, none⟩, ?_⟩
          simp [failed]

theorem search_explicit (files : String → LibraryFile) (library : Library) (path : String) :
    ∃ outcome, library.search files true [path] [] = (outcome,
        { library with
          opened := library.opened ++ [path]
          located := library.located + if outcome.isOk then 1 else 0 }) ∧
      ((outcome = .ok path ∧ (files path).Usable) ∨
        ∃ cause, outcome = .error cause ∧ (files path).Refuses path cause) := by
  rcases (files path).open?_cases path with ⟨usable, opens⟩ | ⟨cause, _, refuses, fails⟩
  · exact ⟨.ok path, by simp [search, opens, Except.isOk, Except.toBool], .inl ⟨rfl, usable⟩⟩
  · exact ⟨.error cause, by simp [search, fails, Except.isOk, Except.toBool], .inr ⟨cause, rfl, refuses⟩⟩

/-- The first request decides, and its configuration and the files at that moment are all that
matters. -/
theorem load_first (files : String → LibraryFile) (config : Config) :
    ∃ outcome opened, Finds files config outcome opened ∧
      ({} : Library).load files config = (outcome, settled outcome opened) := by
  cases asked : config.library with
  | some path =>
      obtain ⟨outcome, found, ends⟩ := search_explicit files {} path
      refine ⟨outcome, [path], ?_, ?_⟩
      · rcases ends with ⟨rfl, usable⟩ | ⟨cause, rfl, refuses⟩
        · exact .explicit asked usable
        · exact .refused asked refuses
      · simp [load, Config.candidates, asked, found, settled]
  | none =>
      have unasked : config.candidates = defaultLibraries := by simp [Config.candidates, asked]
      rcases search_candidates files defaultLibraries [] {} with
        ⟨before, path, after, order, earlier, usable, found⟩ | ⟨none, failed⟩
      · refine ⟨.ok path, before ++ [path], .usual asked order earlier usable, ?_⟩
        simp [load, unasked, asked, found, settled, Except.isOk, Except.toBool]
      · refine ⟨_, defaultLibraries, .nowhere asked none, ?_⟩
        simp [load, unasked, asked, failed, settled, Except.isOk, Except.toBool]

end Library

end TclHost
