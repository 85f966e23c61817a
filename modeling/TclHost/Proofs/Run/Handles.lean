import TclHost.World

/-!
Whose handles lie on the desk. Putting a handle there adds its session and may take away that of the
handle it replaces; dropping one adds none. All three kinds of handles lie there in the same way.
-/

namespace TclHost

section Filing

variable {κ : Type} {owner : κ → SessionId} {map : Std.TreeMap String κ} {session : SessionId}

def Filed (owner : κ → SessionId) (map : Std.TreeMap String κ) (session : SessionId) : Prop :=
  ∃ name : String, ∃ handle, map[name]? = some handle ∧ owner handle = session

theorem Filed.of_insert {name : String} {handle : κ}
    (filed : Filed owner (map.insert name handle) session) :
    Filed owner map session ∨ session = owner handle := by
  obtain ⟨key, entry, found, owned⟩ := filed
  rw [Std.TreeMap.getElem?_insert] at found
  split at found
  · cases found
    exact .inr owned.symm
  · exact .inl ⟨key, entry, found, owned⟩

theorem Filed.insert (filed : Filed owner map session) (name : String) (handle : κ) :
    Filed owner (map.insert name handle) session ∨ map[name]?.map owner = some session := by
  obtain ⟨key, entry, found, owned⟩ := filed
  by_cases same : name = key
  · subst same
    exact .inr (by rw [found, Option.map_some, owned])
  · exact .inl ⟨key, entry, by simp [Std.TreeMap.getElem?_insert, same, found], owned⟩

theorem Filed.of_erase {name : String} (filed : Filed owner (map.erase name) session) :
    Filed owner map session := by
  obtain ⟨key, entry, found, owned⟩ := filed
  rw [Std.TreeMap.getElem?_erase] at found
  split at found
  · cases found
  · exact ⟨key, entry, found, owned⟩

theorem Filed.erase {name : String} {handle : κ} (filed : Filed owner map session)
    (dropped : map[name]? = some handle) :
    Filed owner (map.erase name) session ∨ owner handle = session := by
  obtain ⟨key, entry, found, owned⟩ := filed
  by_cases same : name = key
  · subst same
    cases dropped.symm.trans found
    exact .inr owned
  · exact .inl ⟨key, entry, by simp [Std.TreeMap.getElem?_erase, same, found], owned⟩

end Filing

namespace Desk

variable {desk : Desk} {name : String}

theorem holds_iff_filed (desk : Desk) (session : SessionId) : desk.holds session = true ↔
    Filed id desk.interps session ∨ Filed Proc.session desk.procs session ∨
      Filed Var.session desk.vars session := by
  simp [holds_iff, Filed]

theorem holds_interp {session : SessionId} (found : desk.interps[name]? = some session) :
    desk.holds session = true :=
  (desk.holds_iff session).mpr (.inl ⟨name, found⟩)

theorem holds_proc {proc : Proc} (found : desk.procs[name]? = some proc) :
    desk.holds proc.session = true :=
  (desk.holds_iff proc.session).mpr (.inr (.inl ⟨name, proc, found, rfl⟩))

theorem holds_var {var : Var} (found : desk.vars[name]? = some var) :
    desk.holds var.session = true :=
  (desk.holds_iff var.session).mpr (.inr (.inr ⟨name, var, found, rfl⟩))

structure Puts (desk later : Desk) (session : SessionId) (replaced : Option SessionId) : Prop where
  added : ∀ other, later.holds other = true → desk.holds other = true ∨ other = session
  kept : ∀ other, desk.holds other = true → later.holds other = true ∨ replaced = some other

structure Drops (desk later : Desk) (session : SessionId) : Prop where
  fewer : ∀ other, later.holds other = true → desk.holds other = true
  kept : ∀ other, desk.holds other = true → later.holds other = true ∨ session = other

theorem puts_interp (desk : Desk) (name : String) (session : SessionId) :
    desk.Puts { desk with interps := desk.interps.insert name session } session
      desk.interps[name]? := by
  constructor <;> intro other held <;> rw [holds_iff_filed] at held ⊢
  · grind [Filed.of_insert]
  · grind [Filed.insert]

theorem puts_proc (desk : Desk) (name : String) (proc : Proc) :
    desk.Puts { desk with procs := desk.procs.insert name proc } proc.session
      (desk.procs[name]?.map Proc.session) := by
  constructor <;> intro other held <;> rw [holds_iff_filed] at held ⊢
  · grind [Filed.of_insert]
  · grind [Filed.insert]

theorem puts_var (desk : Desk) (name : String) (var : Var) :
    desk.Puts { desk with vars := desk.vars.insert name var } var.session
      (desk.vars[name]?.map Var.session) := by
  constructor <;> intro other held <;> rw [holds_iff_filed] at held ⊢
  · grind [Filed.of_insert]
  · grind [Filed.insert]

theorem drops_interp {session : SessionId} (dropped : desk.interps[name]? = some session) :
    desk.Drops { desk with interps := desk.interps.erase name } session := by
  constructor <;> intro other held <;> rw [holds_iff_filed] at held ⊢
  · grind [Filed.of_erase]
  · grind [Filed.erase]

theorem drops_proc {proc : Proc} (dropped : desk.procs[name]? = some proc) :
    desk.Drops { desk with procs := desk.procs.erase name } proc.session := by
  constructor <;> intro other held <;> rw [holds_iff_filed] at held ⊢
  · grind [Filed.of_erase]
  · grind [Filed.erase]

theorem drops_var {var : Var} (dropped : desk.vars[name]? = some var) :
    desk.Drops { desk with vars := desk.vars.erase name } var.session := by
  constructor <;> intro other held <;> rw [holds_iff_filed] at held ⊢
  · grind [Filed.of_erase]
  · grind [Filed.erase]

end Desk

/-- A program puts nothing on the desk but what it may use itself. -/
theorem World.usable_of_puts {σ H N : Type} {world : World σ H N} {later : Desk}
    {session : SessionId} {replaced : Option SessionId}
    (puts : world.desk.Puts later session replaced) (usable : world.mayUse session = true)
    (other : SessionId) (held : later.holds other = true) :
    world.desk.holds other = true ∨ world.mayUse other = true := by
  rcases puts.added other held with before | rfl
  · exact .inl before
  · exact .inr usable

end TclHost
