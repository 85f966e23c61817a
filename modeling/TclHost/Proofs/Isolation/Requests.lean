import TclHost.Proofs.Isolation.Working

/-!
Programs that work for two parties, and what they ask for on behalf of either.
-/

namespace TclHost

open World

variable {σ H N κ δ α β : Type}

def taking (ours : Bool) (place : Place) : Option κ → Place
  | some _ => place.keep ours
  | none => place

inductive Place.Leads : Place → Place → Prop
  | outermost (keepers others : List Bool) : Leads (.outermost keepers) (.outermost others)
  | inside (ours : Bool) (outer : Place) : Leads (.inside ours outer) (.inside ours outer)

theorem Place.Leads.refl (place : Place) : place.Leads place := by
  cases place <;> constructor

theorem Place.Leads.trans {place between later : Place} (first : place.Leads between)
    (second : between.Leads later) : place.Leads later := by
  cases first with
  | outermost => cases second with | outermost => constructor
  | inside => exact second

theorem Place.leads_keep (ours : Bool) (place : Place) : place.Leads (place.keep ours) := by
  cases place <;> constructor

theorem Place.keep_leads (ours : Bool) (place : Place) : (place.keep ours).Leads place := by
  cases place <;> constructor

theorem Lies.sessions {roster : Roster} {ours : Bool} {session : κ → SessionId} {rest : κ → δ}
    {handle other : Option κ} (lies : Lies roster ours session rest handle other) :
    Lies roster ours id (fun _ => ()) (handle.map session) (other.map session) := by
  cases lies with
  | nothing => exact .nothing
  | ours mine meets _ => exact .ours mine meets rfl
  | theirs others meets => exact .theirs others meets

namespace Parties

/-- What a program may ask for a party, and what a process of our own is asked instead: about
sessions of that party only, and under its names. It says how the answers compare, and where the
program is then. -/
inductive Asks (parties : Parties σ H N) (ours : Bool) (roster : Roster) :
    (place : Place) → (request another : Request H N) →
    (Roster → request.Answer → another.Answer → Prop) → (request.Answer → Place) → Prop
  | evaluate {place : Place} {session counterpart : SessionId}
      (meets : roster ours session counterpart) (script : String) :
      Asks parties ours roster place (.evaluate session script) (.evaluate counterpart script) Same
        fun _ => place
  | makeSafe {place : Place} {session counterpart : SessionId}
      (meets : roster ours session counterpart) :
      Asks parties ours roster place (.makeSafe session) (.makeSafe counterpart) Same fun _ => place
  | result {place : Place} {session counterpart : SessionId}
      (meets : roster ours session counterpart) :
      Asks parties ours roster place (.result session) (.result counterpart) Same fun _ => place
  | quoteList {place : Place} {session counterpart : SessionId}
      (meets : roster ours session counterpart) (words : List String) :
      Asks parties ours roster place (.quoteList session words) (.quoteList counterpart words) Same
        fun _ => place
  | splitList {place : Place} {session counterpart : SessionId}
      (meets : roster ours session counterpart) (list : String) :
      Asks parties ours roster place (.splitList session list) (.splitList counterpart list) Same
        fun _ => place
  | inspect {place : Place} {session counterpart : SessionId}
      (meets : roster ours session counterpart) :
      Asks parties ours roster place (.inspect session) (.inspect counterpart) Same fun _ => place
  | insertCommand {place : Place} {session counterpart : SessionId}
      (meets : roster ours session counterpart) (name : String) {handler : H}
      (owned : parties.handler handler = ours) :
      Asks parties ours roster place (.insertCommand session name handler)
        (.insertCommand counterpart name handler) Same fun _ => place
  | eraseCommand {place : Place} {session counterpart : SessionId}
      (meets : roster ours session counterpart) (name : String) :
      Asks parties ours roster place (.eraseCommand session name) (.eraseCommand counterpart name)
        Same fun _ => place
  | setReceiver {place : Place} {session counterpart : SessionId}
      (meets : roster ours session counterpart) {receiver : Option H}
      (owned : ∀ handler ∈ receiver, parties.handler handler = ours) :
      Asks parties ours roster place (.setReceiver session receiver)
        (.setReceiver counterpart receiver) Same fun _ => place
  | openSession {place : Place} {config : Config} (asks : ours = true → parties.asks config) :
      Asks parties ours roster place (.openSession config) (.openSession config) (Handed ours)
        (handing ours place)
  | takeInterp {place : Place} {name : String} (owned : parties.name name = ours) :
      Asks parties ours roster place (.takeInterp name) (.takeInterp name)
        (fun roster => Lies roster ours id fun _ => ()) (taking ours place)
  | takeProc {place : Place} {name : String} (owned : parties.name name = ours) :
      Asks parties ours roster place (.takeProc name) (.takeProc name)
        (fun roster => Lies roster ours Proc.session Proc.name) (taking ours place)
  | takeVar {place : Place} {name : String} (owned : parties.name name = ours) :
      Asks parties ours roster place (.takeVar name) (.takeVar name)
        (fun roster => Lies roster ours Var.session fun var => (var.name, var.kind))
        (taking ours place)
  /-- The handle that was kept last is one of this party. -/
  | letGo {place : Place} : Asks parties ours roster (place.keep ours) .letGo .letGo Same fun _ => place
  | putInterp {place : Place} {name : String} (owned : parties.name name = ours)
      {session counterpart : SessionId} (meets : roster ours session counterpart) :
      Asks parties ours roster place (.putInterp name session) (.putInterp name counterpart) Same
        fun _ => place
  | putProc {place : Place} {name : String} (owned : parties.name name = ours) {proc other : Proc}
      (meets : roster ours proc.session other.session) (same : proc.name = other.name) :
      Asks parties ours roster place (.putProc name proc) (.putProc name other) Same fun _ => place
  | putVar {place : Place} {name : String} (owned : parties.name name = ours) {var other : Var}
      (meets : roster ours var.session other.session)
      (same : (var.name, var.kind) = (other.name, other.kind)) :
      Asks parties ours roster place (.putVar name var) (.putVar name other) Same fun _ => place
  | dropInterp {place : Place} {name : String} (owned : parties.name name = ours) :
      Asks parties ours roster place (.dropInterp name) (.dropInterp name) Same fun _ => place
  | dropProc {place : Place} {name : String} (owned : parties.name name = ours) :
      Asks parties ours roster place (.dropProc name) (.dropProc name) Same fun _ => place
  | dropVar {place : Place} {name : String} (owned : parties.name name = ours) :
      Asks parties ours roster place (.dropVar name) (.dropVar name) Same fun _ => place
  | environment {place : Place} :
      Asks parties ours roster place .environment .environment Same fun _ => place
  | readFile {place : Place} (path : String) :
      Asks parties ours roster place (.readFile path) (.readFile path) Same fun _ => place
  | note {place : Place} (entry another : N) :
      Asks parties ours roster place (.note entry) (.note another) Same fun _ => place

variable {parties : Parties σ H N} {ours : Bool} {roster : Roster} {place : Place}
  {world other : World σ H N} {session counterpart : SessionId} {dispatch : Dispatch σ H N}
  (answers : parties.Answers dispatch) (separates : parties.setup.engine.Separates N parties.like)

theorem Asks.leads {request another : Request H N}
    {related : Roster → request.Answer → another.Answer → Prop} {next : request.Answer → Place}
    (asks : parties.Asks ours roster place request another related next) (answer : request.Answer) :
    place.Leads (next answer) := by
  cases asks with
  | openSession => cases answer with
    | error cause => exact .refl place
    | ok session => exact place.leads_keep ours
  | takeInterp | takeProc | takeVar => cases answer with
    | none => exact .refl place
    | some handle => exact place.leads_keep ours
  | letGo => exact Place.keep_leads ours _
  | _ => exact .refl place

/-! Handles on the desk. -/

section Desk

variable {map mine : Std.TreeMap String SessionId} {procs procsThere : Std.TreeMap String Proc}
  {vars varsThere : Std.TreeMap String Var} (alike : parties.Alike roster place world other)
include alike

theorem Alike.fileInterps {map mine : Std.TreeMap String SessionId}
    (filed : parties.Filed roster id (fun _ => ()) map (cond ours mine other.desk.interps)) :
    parties.Alike roster place { world with desk.interps := map }
      (cond ours { other with desk.interps := mine } other) := by
  cases ours <;> exact { alike with interps := filed }

theorem Alike.fileProcs {map mine : Std.TreeMap String Proc}
    (filed : parties.Filed roster Proc.session Proc.name map (cond ours mine other.desk.procs)) :
    parties.Alike roster place { world with desk.procs := map }
      (cond ours { other with desk.procs := mine } other) := by
  cases ours <;> exact { alike with procs := filed }

theorem Alike.fileVars {map mine : Std.TreeMap String Var}
    (filed : parties.Filed roster Var.session (fun var => (var.name, var.kind)) map
      (cond ours mine other.desk.vars)) :
    parties.Alike roster place { world with desk.vars := map }
      (cond ours { other with desk.vars := mine } other) := by
  cases ours <;> exact { alike with vars := filed }

end Desk

section Handles

variable {keySession : κ → SessionId} {rest : κ → δ} {handle mine : Option κ}
  (lies : Lies roster ours keySession rest handle mine)
include lies

theorem tracks_take {take own : Run σ H N (Option κ)} (serves : place.Serves ours)
    (alike : parties.Alike roster place world other)
    (takes : take = handle.elim (pure none) fun handle => do
      modify (·.keep (keySession handle))
      return some handle)
    (takesOwn : own = mine.elim (pure none) fun handle => do
      modify (·.keep (keySession handle))
      return some handle) :
    parties.Tracks ours roster (taking ours place) (fun roster => Lies roster ours keySession rest)
      take own world other := by
  subst takes takesOwn
  cases lies with
  | nothing => exact tracks_pure alike .nothing
  | ours mine meets same =>
      subst mine
      exact tracks_modify_bind (tracks_pure (alike.keep meets serves) (.ours rfl meets same))
  | theirs others meets =>
      subst others
      apply tracks_theirs (modify id >>= fun _ => pure none)
      exact tracks_modify_bind (tracks_pure (alike.keep meets serves) (.theirs rfl meets))

include answers separates

theorem tracks_put (change changeOwn : Desk → Desk)
    (alike : parties.Alike roster place { world with desk := change world.desk }
      (cond ours { other with desk := changeOwn other.desk } other)) :
    parties.Tracks ours roster (fun _ => place) Same
      (do
        modify fun world => { world with desk := change world.desk }
        Run.sweepReplaced parties.setup.engine dispatch (handle.map keySession))
      (do
        modify fun world => { world with desk := changeOwn world.desk }
        Run.sweepReplaced parties.setup.engine dispatch (mine.map keySession)) world other := by
  refine tracks_modify_bind ?_
  cases lies with
  | nothing => exact tracks_pure alike rfl
  | ours mine meets _ =>
      subst mine
      exact tracks_sweep answers separates meets alike
  | theirs others meets =>
      subst others
      exact tracks_theirs _ (tracks_sweep answers separates meets alike)

theorem tracks_drop (alike : parties.Alike roster place world other)
    (change changeOwn : Desk → Desk) {drop own : Run σ H N Bool}
    (erased : parties.Alike roster place { world with desk := change world.desk }
      (cond ours { other with desk := changeOwn other.desk } other))
    (drops : drop = handle.elim (pure false) fun handle => do
      modify fun world => { world with desk := change world.desk }
      Run.sweep parties.setup.engine dispatch (keySession handle)
      return true)
    (dropsOwn : own = mine.elim (pure false) fun handle => do
      modify fun world => { world with desk := changeOwn world.desk }
      Run.sweep parties.setup.engine dispatch (keySession handle)
      return true) :
    parties.Tracks ours roster (fun _ => place) Same drop own world other := by
  have dropping {session counterpart : SessionId} (meets : roster ours session counterpart) :
      parties.Tracks ours roster (fun _ => place) Same
        (do
          modify fun world => { world with desk := change world.desk }
          Run.sweep parties.setup.engine dispatch session
          return true)
        (do
          modify fun world => { world with desk := changeOwn world.desk }
          Run.sweep parties.setup.engine dispatch counterpart
          return true) world other := by
    refine tracks_modify_bind ((tracks_sweep answers separates meets erased).bind ?_)
    intro grown _ _ later there _ alikeOn _
    exact tracks_pure alikeOn rfl
  subst drops dropsOwn
  cases lies with
  | nothing => exact tracks_pure alike rfl
  | ours mine meets _ =>
      subst mine
      exact dropping meets
  | theirs others meets =>
      subst others
      exact tracks_theirs _ (dropping meets)

end Handles

section Perform

include answers separates

/-- A request of either party leaves the processes alike. -/
theorem tracks_perform {request another : Request H N}
    {related : Roster → request.Answer → another.Answer → Prop} {next : request.Answer → Place}
    (asks : parties.Asks ours roster place request another related next)
    (serves : place.Serves ours) (alike : parties.Alike roster place world other) :
    parties.Tracks ours roster next related (Run.perform parties.setup dispatch request)
      (Run.perform parties.setup dispatch another) world other := by
  cases asks with
  | evaluate meets script =>
      apply tracks_using alike meets serves
      intro grown later there grows alikeOn
      exact tracks_evaluate answers separates script (grows meets) alikeOn
  | makeSafe meets =>
      apply tracks_using alike meets serves
      intro grown later there grows alikeOn
      exact tracks_makeSafe answers separates (grows meets) alikeOn
  | result meets =>
      apply tracks_using alike meets serves
      intro grown later there grows alikeOn
      exact tracks_errand separates .result (grows meets) alikeOn
  | quoteList meets words =>
      apply tracks_using alike meets serves
      intro grown later there grows alikeOn
      exact tracks_errand separates (.quoteList words) (grows meets) alikeOn
  | splitList meets list =>
      apply tracks_using alike meets serves
      intro grown later there grows alikeOn
      exact tracks_errand separates (.splitList list) (grows meets) alikeOn
  | inspect meets => exact tracks_held alike meets serves
  | insertCommand meets name owned =>
      refine (tracks_held alike meets serves).bind ?_
      intro grown state mine later there grows alikeOn same
      obtain rfl := same
      refine tracks_modify_bind (tracks_pure ?_ rfl)
      exact alikeOn.update (grows meets) _ fun state within => within.insert owned name
  | eraseCommand meets name =>
      refine (tracks_held alike meets serves).bind ?_
      intro grown state mine later there grows alikeOn same
      obtain rfl := same
      refine tracks_modify_bind (tracks_pure ?_ rfl)
      exact alikeOn.update (grows meets) _ fun state within => within.erase name
  | setReceiver meets owned =>
      apply tracks_using alike meets serves
      intro grown later there grows alikeOn
      apply tracks_modify
      exact alikeOn.update (grows meets) _ fun state within => within.withReceiver owned
  | openSession asks => exact tracks_openSession answers separates asks serves alike
  | @takeInterp _ name owned =>
      refine tracks_get_bind (tracks_take (owned ▸ alike.interps name) serves alike ?_ ?_)
      · cases world.desk.interps[name]? <;> rfl
      · cases other.desk.interps[name]? <;> rfl
  | @takeProc _ name owned =>
      refine tracks_get_bind (tracks_take (owned ▸ alike.procs name) serves alike ?_ ?_)
      · cases world.desk.procs[name]? <;> rfl
      · cases other.desk.procs[name]? <;> rfl
  | @takeVar _ name owned =>
      refine tracks_get_bind (tracks_take (owned ▸ alike.vars name) serves alike ?_ ?_)
      · cases world.desk.vars[name]? <;> rfl
      · cases other.desk.vars[name]? <;> rfl
  | letGo =>
      exact tracks_letGo answers separates (Place.serves_keep.mp serves) alike
  | @putInterp _ name owned session counterpart meets =>
      apply tracks_using alike meets serves
      intro grown later there grows alikeOn
      have filed := alikeOn.interps.insert owned (grows meets) fun _ => rfl
      have put := tracks_put answers separates (owned ▸ alikeOn.interps name)
        (fun desk => { desk with interps := later.desk.interps.insert name session })
        (fun desk => { desk with interps := there.desk.interps.insert name counterpart })
        (alikeOn.fileInterps filed)
      rw [Option.map_id] at put
      exact tracks_get_bind put
  | @putProc _ name owned proc counterpart meets same =>
      apply tracks_using alike meets serves
      intro grown later there grows alikeOn
      have filed := alikeOn.procs.insert owned (grows meets) fun _ => same
      have put := tracks_put answers separates (owned ▸ alikeOn.procs name)
        (fun desk => { desk with procs := later.desk.procs.insert name proc })
        (fun desk => { desk with procs := there.desk.procs.insert name counterpart })
        (alikeOn.fileProcs filed)
      exact tracks_get_bind put
  | @putVar _ name owned var counterpart meets same =>
      apply tracks_using alike meets serves
      intro grown later there grows alikeOn
      have filed := alikeOn.vars.insert owned (grows meets) fun _ => same
      have put := tracks_put answers separates (owned ▸ alikeOn.vars name)
        (fun desk => { desk with vars := later.desk.vars.insert name var })
        (fun desk => { desk with vars := there.desk.vars.insert name counterpart })
        (alikeOn.fileVars filed)
      exact tracks_get_bind put
  | @dropInterp _ name owned =>
      refine tracks_get_bind (tracks_drop answers separates (owned ▸ alike.interps name) alike
        (fun desk => { desk with interps := world.desk.interps.erase name })
        (fun desk => { desk with interps := other.desk.interps.erase name })
        (alike.fileInterps (alike.interps.erase owned)) ?_ ?_)
      · dsimp only
        cases world.desk.interps[name]? <;> rfl
      · dsimp only
        cases other.desk.interps[name]? <;> rfl
  | @dropProc _ name owned =>
      refine tracks_get_bind (tracks_drop answers separates (owned ▸ alike.procs name) alike
        (fun desk => { desk with procs := world.desk.procs.erase name })
        (fun desk => { desk with procs := other.desk.procs.erase name })
        (alike.fileProcs (alike.procs.erase owned)) ?_ ?_)
      · dsimp only
        cases world.desk.procs[name]? <;> rfl
      · dsimp only
        cases other.desk.procs[name]? <;> rfl
  | @dropVar _ name owned =>
      refine tracks_get_bind (tracks_drop answers separates (owned ▸ alike.vars name) alike
        (fun desk => { desk with vars := world.desk.vars.erase name })
        (fun desk => { desk with vars := other.desk.vars.erase name })
        (alike.fileVars (alike.vars.erase owned)) ?_ ?_)
      · dsimp only
        cases world.desk.vars[name]? <;> rfl
      · dsimp only
        cases other.desk.vars[name]? <;> rfl
  | environment => exact tracks_pure alike rfl
  | readFile path => exact tracks_pure alike rfl
  | note entry another => exact tracks_emit alike _ _

end Perform

end Parties

end TclHost
