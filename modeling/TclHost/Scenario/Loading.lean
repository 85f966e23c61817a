import TclHost.Scenario.Session

/-!
Runs that only load the library, from files of several states.
-/

namespace TclHost.Scenario

structure LoadRequest where
  library : Option String := none
  fromEnvironment : Bool := false
  opens : Bool := false

structure LoadReport where
  result : Except Error String
  loaded : Option String

def loaderName? (path : String) : Option String :=
  let name := if path.endsWith "\x00" then String.ofList path.toList.dropLast else path
  if name.toList.contains '\x00' then none else some name

/-- What the loader makes of a path, given what stands under each name. The empty name is the
running program itself, which offers no entry point. -/
def libraryNamed (find : String → LibraryFile) (path : String) : LibraryFile :=
  match loaderName? path with
  | none => .unusable "invalid name"
  | some name => if name.isEmpty then .lacking entryPoints "undefined symbol" else find name

def libraryAt (files : Files.Tree LibraryFile) : String → LibraryFile :=
  libraryNamed fun name =>
    match files.read name with
    | .ok file => file
    | .error problem => .unusable problem.message

def LoadRequest.config (environment : String → Option String) (request : LoadRequest) : Config :=
  let config := if request.fromEnvironment then Config.ofLookup environment else {}
  match request.library with
  | none => config
  | some path => config.withLibrary path

def loadingSetup (files : Files.Tree LibraryFile) (environment : String → Option String) :
    Setup Scripted.State SessionHandler SessionNote :=
  { ({ roles := [], environment } : Surroundings).setup with
    engine := Scripted.engine (fun _ => { granted := false }) false
    libraries := libraryAt files }

def LoadRequest.perform (setup : Setup Scripted.State SessionHandler SessionNote)
    (config : Config) (opens : Bool) (world : SessionWorld) :
    Except Error String × SessionWorld :=
  if opens then
    match (Host.run setup 1 (Host.openSession config).run).exec world with
    | .ok (.ok _) world => (.ok "", world)
    | .ok (.error cause) world => (.error cause, world)
    | .error _ world => (.ok "", world)
  else
    match world.library.load setup.libraries config with
    | (.ok path, library) => (.ok path, { world with library })
    | (.error cause, library) => (.error (.load cause), { world with library })

def runLoads (files : Files.Tree LibraryFile) (environment : String → Option String) :
    List LoadRequest → SessionWorld → List LoadReport
  | [], _ => []
  | request :: rest, world =>
      let (result, world) := LoadRequest.perform (loadingSetup files environment)
        (request.config environment) request.opens world
      ⟨result, world.library.loaded?⟩ :: runLoads files environment rest world

def loadAll (files : Files.Tree LibraryFile) (environment : String → Option String)
    (requests : List LoadRequest) : List LoadReport :=
  runLoads files environment requests { scene := { store := {} } }

end TclHost.Scenario
