import TclHost.Config
import TclHost.Error

/-!
Finding the interpreter library. It is looked for once per process, and what the first request
found, a library or the reason why there is none, answers every later request.
-/

namespace TclHost

def entryPoints : List String :=
  ["Tcl_FindExecutable", "Tcl_CreateInterp", "Tcl_Init", "Tcl_Preserve", "Tcl_Release",
    "Tcl_DeleteInterp", "Tcl_MakeSafe", "Tcl_EvalEx", "Tcl_CreateObjCommand", "Tcl_NewObj",
    "Tcl_NewStringObj", "Tcl_ListObjGetElements", "Tcl_ListObjAppendElement",
    "Tcl_GetStringFromObj", "Tcl_GetObjResult", "Tcl_SetObjResult", "Tcl_DbIncrRefCount",
    "Tcl_DbDecrRefCount"]

inductive LibraryFile where
  | complete
  | lacking (symbols : List String) (reason : String)
  | unusable (reason : String)
  deriving DecidableEq, Repr

def LibraryFile.open? (path : String) : LibraryFile → Except LoadError String
  | .unusable reason => .error (.openFailed path reason)
  | .complete => .ok path
  | .lacking symbols reason =>
      match entryPoints.find? symbols.contains with
      | some symbol => .error (.missingSymbol symbol reason)
      | none => .ok path

def describeLibrary (path : String) : String :=
  "TclApi \x7b path: " ++ Text.quoted path ++ ", .. \x7d"

structure Library where
  outcome : Option (Except LoadError String) := none
  opened : List String := []
  located : Nat := 0
  deriving Inhabited

def triedEntry (candidate : String) : LoadError → String
  | .missingSymbol _ reason => candidate ++ " (" ++ reason ++ ")"
  | _ => candidate

def Library.search (files : String → LibraryFile) (explicit : Bool) (library : Library) :
    List String → List String → Except LoadError String × Library
  | [], tried => (.error (.notFound tried), library)
  | candidate :: rest, tried =>
      let library := { library with opened := library.opened ++ [candidate] }
      match (files candidate).open? candidate with
      | .ok path => (.ok path, { library with located := library.located + 1 })
      | .error cause =>
          if explicit then (.error cause, library)
          else library.search files explicit rest (tried ++ [triedEntry candidate cause])

/-- The first request searches; later ones get the same answer whatever they ask for. -/
def Library.load (library : Library) (files : String → LibraryFile) (config : Config) :
    Except LoadError String × Library :=
  match library.outcome with
  | some outcome => (outcome, library)
  | none =>
      let (outcome, library) := library.search files config.library.isSome config.candidates []
      (outcome, { library with outcome := some outcome })

def Library.loaded? (library : Library) : Option String :=
  match library.outcome with
  | some (.ok path) => some path
  | _ => none

theorem Library.outcome_load (library : Library) (files : String → LibraryFile) (config : Config) :
    (library.load files config).2.outcome = some (library.load files config).1 := by
  cases asked : library.outcome with
  | none => simp [load, asked]
  | some outcome => simp [load, asked]

theorem Library.load_load (library : Library) (files others : String → LibraryFile)
    (config other : Config) :
    (library.load files config).2.load others other = library.load files config := by
  cases asked : library.outcome with
  | none => simp [load, asked]
  | some outcome => simp [load, asked]

end TclHost
