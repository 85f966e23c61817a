import Mathlib.Algebra.BigOperators.Group.List.Basic
import Mathlib.Algebra.Order.Group.Int
import Mathlib.Algebra.Ring.Int.Defs
import TclHost.Proofs.Reference.Moments

/-!
Guards are closed in the reverse of the order in which they were opened, however the bodies end. At
each moment the guards that are open are those of the bodies under way.
-/

namespace TclHost.Reference

/-! Events as brackets. -/

/-- An increment opens a guard. A decrement closes the one that was opened last, which is on the
same object. -/
def Event.adjust (held : List Address) : Event → Option (List Address)
  | .increment address => some (address :: held)
  | .decrement address =>
      match held with
      | [] => none
      | latest :: earlier => if latest = address then some earlier else none
  | _ => some held

def opened (held : List Address) (events : List Event) : Option (List Address) :=
  events.foldlM Event.adjust held

theorem opened_append (held : List Address) (before after : List Event) :
    opened held (before ++ after) = (opened held before).bind (opened · after) :=
  List.foldlM_append

def Event.shift (address : Address) : Event → Int
  | .increment other => if other = address then 1 else 0
  | .decrement other => if other = address then -1 else 0
  | _ => 0

def netChange (address : Address) (events : List Event) : Int :=
  (events.map (Event.shift address)).sum

theorem Event.shift_of_adjust {held later : List Address} {event : Event}
    (adjusted : event.adjust held = some later) (address : Address) :
    (held.count address : Int) + event.shift address = later.count address := by
  cases event with
  | increment other =>
      cases adjusted
      by_cases same : other = address <;> simp [shift, same]
  | decrement other =>
      cases held with
      | nil => cases adjusted
      | cons latest earlier =>
          simp only [adjust, Option.ite_none_right_eq_some, Option.some.injEq] at adjusted
          obtain ⟨rfl, rfl⟩ := adjusted
          by_cases same : latest = address <;> simp [shift, same]
  | enter | refuse =>
      cases adjusted
      exact Int.add_zero _

theorem netChange_of_opened {held later : List Address} {events : List Event}
    (replayed : opened held events = some later) (address : Address) :
    (held.count address : Int) + netChange address events = later.count address := by
  induction events generalizing held with
  | nil =>
      cases replayed
      exact Int.add_zero _
  | cons event rest ih =>
      obtain ⟨next, adjusted, onward⟩ := Option.bind_eq_some_iff.mp
        (show (event.adjust held).bind (opened · rest) = some later from replayed)
      have first := Event.shift_of_adjust adjusted address
      have others := ih onward
      simp only [netChange, List.map_cons, List.sum_cons] at others ⊢
      omega

/-! The guards that ought to be open. -/

def counted (running : List Address) : List Address :=
  running.filter (· ≠ 0)

theorem counted_null (running : List Address) : counted (0 :: running) = counted running := by
  simp [counted]

theorem counted_cons {address : Address} (object : address ≠ 0) (running : List Address) :
    counted (address :: running) = address :: counted running := by
  simp [counted, object]

def Moment.guards (moment : Moment) : List Address :=
  match moment.event? with
  | some (.decrement address) => address :: counted moment.running
  | _ => counted moment.running

def Moment.adjust (moment : Moment) : Option (List Address) :=
  match moment.event? with
  | some event => event.adjust moment.guards
  | none => some moment.guards

def Moment.Fits (moment : Moment) : Prop :=
  match moment.event? with
  | some (.enter address) => moment.running.head? = some address
  | some (.increment address) | some (.decrement address) => address ≠ 0
  | _ => True

/-- From these open guards to those, each moment finds those guards open that ought to be. -/
inductive Tracks : List Address → List Moment → List Address → Prop where
  | nil (held : List Address) : Tracks held [] held
  | cons (moment : Moment) {rest : List Moment} {next final : List Address} (fits : moment.Fits)
      (adjusted : moment.adjust = some next) (onward : Tracks next rest final) :
      Tracks moment.guards (moment :: rest) final

theorem Tracks.append {held between final : List Address} {before after : List Moment}
    (first : Tracks held before between) (second : Tracks between after final) :
    Tracks held (before ++ after) final := by
  induction first with
  | nil => exact second
  | cons moment fits adjusted _ ih => exact .cons moment fits adjusted (ih second)

theorem Tracks.opened {held final : List Address} {moments : List Moment}
    (tracks : Tracks held moments final) : opened held (recorded moments) = some final := by
  induction tracks with
  | nil held => rfl
  | @cons moment rest next final fits adjusted _ ih =>
      obtain ⟨running, event⟩ := moment
      cases event with
      | none =>
          cases adjusted
          exact ih
      | some event =>
          refine Option.bind_eq_some_iff.mpr ⟨next, adjusted, ih⟩

theorem Tracks.fits {held final : List Address} {moments : List Moment}
    (tracks : Tracks held moments final) : ∀ moment ∈ moments, moment.Fits := by
  induction tracks with
  | nil => simp
  | cons _ fits _ _ ih => exact List.forall_mem_cons.mpr ⟨fits, ih⟩

theorem Tracks.opened_before {held final : List Address} {before after : List Moment}
    {moment : Moment} (tracks : Tracks held (before ++ moment :: after) final) :
    Reference.opened held (recorded before) = some moment.guards := by
  induction before generalizing held with
  | nil =>
      cases tracks
      rfl
  | cons first rest ih =>
      cases tracks with
      | cons _ fits adjusted onward =>
          have later := ih onward
          obtain ⟨running, event⟩ := first
          cases event with
          | none =>
              cases adjusted
              exact later
          | some event => exact Option.bind_eq_some_iff.mpr ⟨_, adjusted, later⟩

theorem tracks_watched {running : List Address} {address : Address} {inner : List Moment}
    (tracks : Tracks (counted (address :: running)) inner (counted (address :: running))) :
    Tracks (counted running) (watched running address inner) (counted running) := by
  unfold watched
  split
  · rename_i null
    subst null
    rwa [counted_null] at tracks
  · rename_i object
    rw [counted_cons object] at tracks
    have closing : Tracks (address :: counted running) [⟨running, some (.decrement address)⟩]
        (counted running) :=
      .cons ⟨running, some (.decrement address)⟩ object
        (by simp [Moment.adjust, Moment.guards, Event.adjust]) (.nil _)
    exact .cons ⟨running, some (.increment address)⟩ object rfl (tracks.append closing)

theorem tracks_ending (running : List Address) (ending : Ending) :
    Tracks (counted running) (ending.moments running) (counted running) := by
  cases ending with
  | panic => exact .cons ⟨running, none⟩ trivial rfl (.nil _)
  | finish | fail => exact .nil _

theorem tracks_traceParts {running : List Address} {parts : List Plan}
    (each : ∀ part ∈ parts,
      Tracks (counted running) (part.trace running).1 (counted running))
    (address : Address) (ending : Ending) :
    Tracks (counted running) (Plan.traceParts running address ending parts).1
      (counted running) := by
  induction parts with
  | nil => exact tracks_ending running ending
  | cons part rest ih =>
      have first := each part List.mem_cons_self
      have others := ih fun other member => each other (List.mem_cons_of_mem part member)
      rcases Plan.traceParts_cons running address ending part rest with same | ⟨_, same⟩
      · rw [same]
        exact first
      · rw [same]
        exact first.append others

theorem Plan.tracks_trace (plan : Plan) (running : List Address) :
    Tracks (counted running) (plan.trace running).1 (counted running) := by
  induction plan generalizing running with
  | node address refusing body ending strict ih =>
      rw [Plan.trace]
      split
      · exact .cons ⟨running, some .refuse⟩ trivial rfl (.nil _)
      · have parts := tracks_traceParts (fun part member => ih part member (address :: running))
          address ending
        exact tracks_watched (.cons ⟨address :: running, some (.enter address)⟩ rfl rfl parts)

/-! Panics. -/

/-- Either nothing panics, or the innermost body does, and then all there is left to do is to close
the guards of the bodies that were begun within those under way at first. -/
inductive Unwinds (running : List Address) : List Moment → Result → Prop where
  | calm {moments : List Moment} {result : Result}
      (quiet : ∀ moment ∈ moments, moment.event? ≠ none)
      (settled : ∀ origin, result ≠ .panicked origin) : Unwinds running moments result
  | panic (before : List Moment) {after : List Moment} (inner : List Address) {origin : Address}
      (quiet : ∀ moment ∈ before, moment.event? ≠ none)
      (innermost : (inner ++ running).head? = some origin)
      (closing : after.map Moment.event? = (counted inner).map (some ∘ .decrement)) :
      Unwinds running (before ++ ⟨inner ++ running, none⟩ :: after) (.panicked origin)

theorem Unwinds.after {running : List Address} {earlier moments : List Moment} {result : Result}
    (quiet : ∀ moment ∈ earlier, moment.event? ≠ none) (unwinds : Unwinds running moments result) :
    Unwinds running (earlier ++ moments) result := by
  cases unwinds with
  | calm others settled => exact .calm (List.forall_mem_append.mpr ⟨quiet, others⟩) settled
  | panic before inner others innermost closing =>
      rw [← List.append_assoc]
      exact .panic _ inner (List.forall_mem_append.mpr ⟨quiet, others⟩) innermost closing

theorem Unwinds.quiet {running : List Address} {moments : List Moment} {result : Result}
    (unwinds : Unwinds running moments result) (settled : ∀ origin, result ≠ .panicked origin) :
    ∀ moment ∈ moments, moment.event? ≠ none := by
  cases unwinds with
  | calm quiet _ => exact quiet
  | panic => exact absurd rfl (settled _)

theorem unwinds_watched {running : List Address} {address : Address} {inner : List Moment}
    {result : Result} (unwinds : Unwinds (address :: running) inner result) :
    Unwinds running (watched running address inner) result := by
  unfold watched
  cases unwinds with
  | calm quiet settled =>
      refine .calm ?_ settled
      split
      · exact quiet
      · simpa [or_imp, forall_and] using quiet
  | @panic before after begun origin quiet innermost closing =>
      have within : begun ++ address :: running = (begun ++ [address]) ++ running := by simp
      rw [within] at innermost ⊢
      split
      · rename_i null
        refine .panic before _ quiet innermost ?_
        rw [closing, null]
        simp [counted]
      · rename_i object
        have closed :
            (after ++ [(⟨running, some (.decrement address)⟩ : Moment)]).map Moment.event? =
              (counted (begun ++ [address])).map (some ∘ .decrement) := by
          rw [List.map_append, closing]
          simp [counted, object]
        -- The guard around this body is the last of those that the panic closes.
        have split := Unwinds.panic (⟨running, some (.increment address)⟩ :: before) _
          (List.forall_mem_cons.mpr ⟨by simp, quiet⟩) innermost closed
        simpa using split

theorem unwinds_ending (running : List Address) (address : Address) (ending : Ending) :
    Unwinds (address :: running) (ending.moments (address :: running)) (ending.result address) := by
  cases ending with
  | panic => exact .panic [] [] (by simp) rfl rfl
  | finish | fail => exact .calm (by simp [Ending.moments]) (by simp [Ending.result])

theorem unwinds_traceParts {running : List Address} {address : Address} {parts : List Plan}
    (each : ∀ part ∈ parts, Unwinds (address :: running) (part.trace (address :: running)).1
      (part.trace (address :: running)).2) (ending : Ending) :
    Unwinds (address :: running)
      (Plan.traceParts (address :: running) address ending parts).1
      (Plan.traceParts (address :: running) address ending parts).2 := by
  induction parts with
  | nil => exact unwinds_ending running address ending
  | cons part rest ih =>
      have first := each part List.mem_cons_self
      have others := ih fun other member => each other (List.mem_cons_of_mem part member)
      rcases Plan.traceParts_cons (address :: running) address ending part rest with
        same | ⟨settled, same⟩
      · rw [same]
        exact first
      · rw [same]
        exact others.after (first.quiet settled)

theorem Plan.unwinds_trace (plan : Plan) (running : List Address) :
    Unwinds running (plan.trace running).1 (plan.trace running).2 := by
  induction plan generalizing running with
  | node address refusing body ending strict ih =>
      rw [Plan.trace]
      split
      · exact .calm (by simp) (by simp)
      · have parts := unwinds_traceParts (fun part member => ih part member (address :: running))
          ending
        have entering : ∀ moment ∈ [(⟨address :: running, some (.enter address)⟩ : Moment)],
            moment.event? ≠ none := by simp
        exact unwinds_watched (parts.after entering)

/-! Whole runs. -/

structure Plan.Bracketed (plan : Plan) : Prop where
  traced : recorded plan.moments = plan.run.1
  nested : opened [] plan.run.1 = some []
  restored : ∀ address, netChange address plan.run.1 = 0
  kept : ∀ address before, before <+: plan.run.1 → 0 ≤ netChange address before
  uncounted : ∀ event ∈ plan.run.1, event ≠ .increment 0 ∧ event ≠ .decrement 0
  entered : ∀ moment ∈ plan.moments, ∀ address, moment.event? = some (.enter address) →
    moment.running.head? = some address
  /-- At every moment of a body its object is held, unless it is null. -/
  held : ∀ before moment after, plan.moments = before ++ moment :: after →
    opened [] (recorded before) = some moment.guards ∧
      ∀ address ∈ moment.running, address ≠ 0 → 0 < netChange address (recorded before)
  calm : (∀ origin, plan.run.2 ≠ .panicked origin) →
    ∀ moment ∈ plan.moments, moment.event? ≠ none
  /-- After the panic the guards that are open are closed, and nothing else happens. -/
  unwound : ∀ origin, plan.run.2 = .panicked origin → ∃ before running after,
    plan.moments = before ++ ⟨running, none⟩ :: after ∧ running.head? = some origin ∧
      opened [] (recorded before) = some (counted running) ∧
      after.map Moment.event? = (counted running).map (some ∘ .decrement)

theorem netChange_nonneg_of_prefix {events before : List Event} {final : List Address}
    (nested : opened [] events = some final) (earlier : before <+: events) (address : Address) :
    0 ≤ netChange address before := by
  obtain ⟨rest, rfl⟩ := earlier
  rw [opened_append, Option.bind_eq_some_iff] at nested
  obtain ⟨between, replayed, _⟩ := nested
  have balance := netChange_of_opened replayed address
  rw [List.count_nil] at balance
  omega

theorem Moment.mem_guards {moment : Moment} {address : Address} (under : address ∈ moment.running)
    (object : address ≠ 0) : address ∈ moment.guards := by
  have counting : address ∈ counted moment.running := by simp [counted, under, object]
  unfold guards
  split
  · exact List.mem_cons_of_mem _ counting
  · exact counting

theorem netChange_pos_of_held {held : List Address} {events : List Event} {address : Address}
    (replayed : opened [] events = some held) (member : address ∈ held) :
    0 < netChange address events := by
  have balance := netChange_of_opened replayed address
  have positive := List.count_pos_iff.mpr member
  rw [List.count_nil] at balance
  omega

theorem Plan.moments_unwind {plan : Plan} {origin : Address}
    (panicked : (plan.trace []).2 = .panicked origin) : ∃ before running after,
      plan.moments = before ++ ⟨running, none⟩ :: after ∧ running.head? = some origin ∧
        after.map Moment.event? = (counted running).map (some ∘ .decrement) := by
  have unwinds := plan.unwinds_trace []
  rw [panicked] at unwinds
  unfold Plan.moments
  generalize (plan.trace []).1 = moments at unwinds ⊢
  cases unwinds with
  | calm _ settled => exact absurd rfl (settled origin)
  | @panic before after inner _ _ innermost closing =>
      rw [List.append_nil] at innermost ⊢
      exact ⟨before, inner, after, rfl, innermost, closing⟩

/-- However the bodies end, each guard is closed, in the reverse order, and an object is held as
long as its body runs. A refusing guard does nothing on null, and a tolerant one lets its body
run. -/
theorem Plan.well_bracketed :
    (∀ plan : Plan, plan.Bracketed) ∧ ∀ body ending strict,
      (Plan.node 0 true body ending strict).run = ([.refuse], .finished) ∧
        (Plan.node 0 false body ending strict).run =
          (.enter 0 :: (Plan.runParts 0 ending body).1, (Plan.runParts 0 ending body).2) := by
  refine ⟨fun plan => ?_, fun body ending strict => ⟨by simp [Plan.run], ?_⟩⟩
  · have told : recorded plan.moments = plan.run.1 := congrArg Prod.fst (plan.tells_trace [])
    have same : (plan.trace []).2 = plan.run.2 := congrArg Prod.snd (plan.tells_trace [])
    have tracks : Tracks [] plan.moments [] := plan.tracks_trace []
    have nested : opened [] plan.run.1 = some [] := told ▸ tracks.opened
    refine ⟨told, nested, fun address => ?_, fun address before earlier => ?_, ?_, ?_, ?_, ?_, ?_⟩
    · simpa using netChange_of_opened nested address
    · exact netChange_nonneg_of_prefix nested earlier address
    · rw [← told]
      intro event member
      obtain ⟨moment, among, records⟩ := List.mem_filterMap.mp member
      have fits := tracks.fits moment among
      unfold Moment.Fits at fits
      rw [records] at fits
      constructor <;> rintro rfl <;> exact fits rfl
    · intro moment among address enters
      have fits := tracks.fits moment among
      unfold Moment.Fits at fits
      rwa [enters] at fits
    · intro before moment after split
      have guards := (split ▸ tracks).opened_before
      exact ⟨guards, fun address under object =>
        netChange_pos_of_held guards (Moment.mem_guards under object)⟩
    · exact fun settled => (plan.unwinds_trace []).quiet (same ▸ settled)
    · intro origin panicked
      obtain ⟨before, running, after, split, innermost, closing⟩ :=
        Plan.moments_unwind (same.trans panicked)
      exact ⟨before, running, after, split, innermost, (split ▸ tracks).opened_before, closing⟩
  · rw [Plan.run]
    simp [guarded]

/-- A panic inside two guards on one object. -/
example : (Plan.node 7 false [.node 0 true [] .fail true, .node 7 false [] .panic false] .finish
    false).run = ([.increment 7, .enter 7, .refuse, .increment 7, .enter 7, .decrement 7,
      .decrement 7], .panicked 7) := rfl

end TclHost.Reference
