import Mathlib.Logic.Relation
import TclHost.Process

/-!
Processes whose steps all obey some rules. What every step preserves holds in each state that such
a process comes through, and the rule for halting says how it may end early.
-/

namespace TclHost.Process

variable {S E α β : Type}

/-- Which changes of the state are allowed as steps, and with which final change a process may halt
in a state. -/
structure Rules (S E : Type) where
  step : S → S → Prop
  halt : E → (S → S) → S → Prop

def Rules.Reaches (rules : Rules S E) : S → S → Prop :=
  Relation.ReflTransGen rules.step

/-- From this state on the process obeys the rules, and what it returns satisfies `post`. -/
def Obeys (rules : Rules S E) (post : α → S → Prop) : Process S E α → S → Prop
  | done result, state => post result state
  | halt cause last, state => rules.halt cause last state
  | step act next, state =>
      rules.step state (act state).2 ∧ (next (act state).1).Obeys rules post (act state).2

variable {rules : Rules S E}

theorem obeys_bind {post : β → S → Prop} {process : Process S E α} {next : α → Process S E β}
    {state : S} :
    (process >>= next).Obeys rules post state ↔
      process.Obeys rules (fun result => (next result).Obeys rules post) state := by
  induction process generalizing state with
  | done result => rfl
  | halt cause last => rfl
  | step act rest ih => exact and_congr_right fun _ => ih _

theorem Obeys.weaken {post other : α → S → Prop} {process : Process S E α} {state : S}
    (obeys : process.Obeys rules post state)
    (implies : ∀ result later, post result later → other result later) :
    process.Obeys rules other state := by
  induction process generalizing state with
  | done result => exact implies result state obeys
  | halt cause last => exact obeys
  | step act next ih => exact ⟨obeys.1, ih _ obeys.2⟩

/-- Whatever the steps reach may be used when the result is looked at. -/
theorem Obeys.reaching {post : α → S → Prop} {process : Process S E α} {state : S}
    (obeys : process.Obeys rules post state) :
    process.Obeys rules (fun result later => post result later ∧ rules.Reaches state later)
      state := by
  suffices grown : ∀ origin, rules.Reaches origin state →
      process.Obeys rules (fun result later => post result later ∧ rules.Reaches origin later)
        state from grown state Relation.ReflTransGen.refl
  intro origin reached
  induction process generalizing state with
  | done result => exact ⟨obeys, reached⟩
  | halt cause last => exact obeys
  | step act next ih => exact ⟨obeys.1, ih _ obeys.2 (reached.tail obeys.1)⟩

@[simp] theorem after_zero (process : Process S E α) (state : S) : process.after 0 state = state := by
  cases process <;> rfl

theorem Obeys.reaches_after {post : α → S → Prop} {process : Process S E α} {state : S}
    (obeys : process.Obeys rules post state) (count : Nat) :
    rules.Reaches state (process.after count state) := by
  induction count generalizing process state with
  | zero =>
      rw [after_zero]
      exact Relation.ReflTransGen.refl
  | succ count ih =>
      cases process with
      | done result => exact Relation.ReflTransGen.refl
      | halt cause last => exact Relation.ReflTransGen.refl
      | step act next => exact Relation.ReflTransGen.head obeys.1 (ih obeys.2)

theorem Obeys.exec_ok {post : α → S → Prop} {process : Process S E α} {state later : S} {result : α}
    (obeys : process.Obeys rules post state) (returned : process.exec state = .ok result later) :
    post result later ∧ rules.Reaches state later := by
  have reaching := obeys.reaching
  clear obeys
  generalize rules.Reaches state = reached at reaching ⊢
  induction process generalizing state with
  | done value =>
      simp only [exec, EStateM.Result.ok.injEq] at returned
      obtain ⟨rfl, rfl⟩ := returned
      exact reaching
  | halt cause last => simp [exec] at returned
  | step act next ih => exact ih _ returned reaching.2

theorem Obeys.exec_error {post : α → S → Prop} {process : Process S E α} {state final : S}
    {cause : E} (obeys : process.Obeys rules post state)
    (halted : process.exec state = .error cause final) :
    ∃ later last, rules.Reaches state later ∧ rules.halt cause last later ∧ final = last later := by
  induction process generalizing state with
  | done value => simp [exec] at halted
  | halt other last =>
      simp only [exec, EStateM.Result.error.injEq] at halted
      obtain ⟨rfl, rfl⟩ := halted
      exact ⟨state, last, Relation.ReflTransGen.refl, obeys, rfl⟩
  | step act next ih =>
      obtain ⟨later, last, reached, allowed, same⟩ := ih _ obeys.2 halted
      exact ⟨later, last, Relation.ReflTransGen.head obeys.1 reached, allowed, same⟩

theorem Obeys.relax {others : Rules S E} {post : α → S → Prop} {process : Process S E α} {state : S}
    (obeys : process.Obeys rules post state)
    (step : ∀ first second, rules.step first second → others.step first second)
    (halt : ∀ cause last later, rules.halt cause last later → others.halt cause last later) :
    process.Obeys others post state := by
  induction process generalizing state with
  | done result => exact obeys
  | halt cause last => exact halt _ _ _ obeys
  | step act next ih => exact ⟨step _ _ obeys.1, ih _ obeys.2⟩

/-- Two sets of rules that a process obeys may be read as one. -/
theorem Obeys.both {others : Rules S E} {post other : α → S → Prop} {process : Process S E α}
    {state : S} (obeys : process.Obeys rules post state)
    (also : process.Obeys others other state) :
    process.Obeys
      ⟨fun first second => rules.step first second ∧ others.step first second,
        fun cause last later => rules.halt cause last later ∧ others.halt cause last later⟩
      (fun result later => post result later ∧ other result later) state := by
  induction process generalizing state with
  | done result => exact ⟨obeys, also⟩
  | halt cause last => exact ⟨obeys, also⟩
  | step act next ih => exact ⟨⟨obeys.1, also.1⟩, ih _ obeys.2 also.2⟩

def ComesTo (process : Process S E α) (state later : S) : Prop :=
  (∃ count, later = process.after count state) ∨ later = finalState (process.exec state)

theorem Obeys.comesTo {post : α → S → Prop} {process : Process S E α} {state later : S}
    (obeys : process.Obeys rules post state) (comes : process.ComesTo state later) :
    rules.Reaches state later ∨
      ∃ cause last between, rules.Reaches state between ∧ rules.halt cause last between ∧
        later = last between := by
  rcases comes with ⟨count, rfl⟩ | rfl
  · exact .inl (obeys.reaches_after count)
  · cases ending : process.exec state with
    | ok result final => exact .inl (obeys.exec_ok ending).2
    | error cause final =>
        obtain ⟨between, last, reached, allowed, same⟩ := obeys.exec_error ending
        exact .inr ⟨cause, last, between, reached, allowed, same⟩

theorem Rules.Reaches.preserved {holds : S → Prop} {state later : S}
    (reached : rules.Reaches state later)
    (preserved : ∀ first second, rules.step first second → holds first → holds second)
    (initially : holds state) : holds later := by
  induction reached with
  | refl => exact initially
  | tail _ step ih => exact preserved _ _ step ih

/-- What holds at some moment, and is preserved, holds when the process returns. -/
theorem Obeys.lasts {post : α → S → Prop} {process : Process S E α} {state final : S} {result : α}
    {holds : S → Prop} (obeys : process.Obeys rules post state)
    (preserved : ∀ first second, rules.step first second → holds first → holds second)
    (returned : process.exec state = .ok result final) (count : Nat)
    (known : holds (process.after count state)) : holds final := by
  induction count generalizing process state with
  | zero =>
      rw [after_zero] at known
      exact (obeys.exec_ok returned).2.preserved preserved known
  | succ count ih =>
      cases process with
      | done answer =>
          cases returned
          exact known
      | halt cause last => cases returned
      | step act next => exact ih obeys.2 returned known

/-! What is known of every state already may be used to show more of every step. -/

def Follows (granted : S → Prop) (rules : Rules S E) (post : α → S → Prop) :
    Process S E α → S → Prop
  | done result, state => post result state
  | halt cause last, state => rules.halt cause last state
  | step act next, state => granted (act state).2 → rules.step state (act state).2 ∧
      (next (act state).1).Follows granted rules post (act state).2

variable {granted holds : S → Prop}

theorem follows_bind {post : β → S → Prop} {process : Process S E α} {next : α → Process S E β}
    {state : S} :
    (process >>= next).Follows granted rules post state ↔
      process.Follows granted rules
        (fun result => (next result).Follows granted rules post) state := by
  induction process generalizing state with
  | done result => rfl
  | halt cause last => rfl
  | step act rest ih => exact imp_congr_right fun _ => and_congr_right fun _ => ih _

theorem Follows.weaken {post other : α → S → Prop} {process : Process S E α} {state : S}
    (follows : process.Follows granted rules post state) (initially : granted state)
    (implies : ∀ result later, post result later → granted later → other result later) :
    process.Follows granted rules other state := by
  induction process generalizing state with
  | done result => exact implies result state follows initially
  | halt cause last => exact follows
  | step act next ih =>
      intro allowed
      obtain ⟨obeyed, rest⟩ := follows allowed
      exact ⟨obeyed, ih _ rest allowed⟩

/-- One set of rules grants what it preserves to another. -/
theorem Obeys.follows {other : Rules S E} {given post : α → S → Prop} {process : Process S E α}
    {state : S} (obeys : process.Obeys rules given state) (initially : granted state)
    (preserved : ∀ first second, rules.step first second → granted first → granted second)
    (follows : process.Follows granted other post state) : process.Obeys other post state := by
  induction process generalizing state with
  | done result => exact follows
  | halt cause last => exact follows
  | step act next ih =>
      have allowed := preserved _ _ obeys.1 initially
      obtain ⟨obeyed, rest⟩ := follows allowed
      exact ⟨obeyed, ih _ obeys.2 allowed rest⟩

/-- What is known of the result on either account. -/
theorem Obeys.joined {other : Rules S E} {given post : α → S → Prop} {process : Process S E α}
    {state : S} (obeys : process.Obeys rules given state)
    (follows : process.Follows granted other post state) :
    process.Follows granted other (fun result later => given result later ∧ post result later)
      state := by
  induction process generalizing state with
  | done result => exact ⟨obeys, follows⟩
  | halt cause last => exact follows
  | step act next ih =>
      intro allowed
      obtain ⟨obeyed, rest⟩ := follows allowed
      exact ⟨obeyed, ih _ obeys.2 rest⟩

theorem Obeys.step_after {post : α → S → Prop} {process : Process S E α} {state : S}
    (obeys : process.Obeys rules post state) (count : Nat) :
    rules.step (process.after count state) (process.after (count + 1) state) ∨
      process.after (count + 1) state = process.after count state := by
  induction count generalizing process state with
  | zero =>
      cases process with
      | done result => exact .inr rfl
      | halt cause last => exact .inr rfl
      | step act next =>
          have once : after 1 (step act next) state = (act state).2 :=
            after_zero (next (act state).1) _
          exact .inl (once ▸ obeys.1)
  | succ count ih =>
      cases process with
      | done result => exact .inr rfl
      | halt cause last => exact .inr rfl
      | step act next => exact ih obeys.2

/-! Where only the states matter, and not the steps between them. -/

def Maintains (granted holds : S → Prop) (post : α → S → Prop) : Process S E α → S → Prop
  | done result, state => post result state
  | halt _ _, _ => True
  | step act next, state => granted (act state).2 →
      holds (act state).2 ∧ (next (act state).1).Maintains granted holds post (act state).2

theorem maintains_eq_follows {post : α → S → Prop} :
    (Maintains granted holds post : Process S E α → S → Prop) =
      Follows granted ⟨fun _ later => holds later, fun _ _ _ => True⟩ post := by
  funext process state
  induction process generalizing state with
  | done result => rfl
  | halt cause last => rfl
  | step act next ih => simp only [Maintains, Follows, ih]

theorem maintains_bind {post : β → S → Prop} {process : Process S E α} {next : α → Process S E β}
    {state : S} :
    (process >>= next).Maintains granted holds post state ↔
      process.Maintains granted holds
        (fun result => (next result).Maintains granted holds post) state := by
  rw [maintains_eq_follows, maintains_eq_follows]
  exact follows_bind

theorem Maintains.weaken {post other : α → S → Prop} {process : Process S E α} {state : S}
    (maintains : process.Maintains granted holds post state) (initially : granted state)
    (implies : ∀ result later, post result later → granted later → other result later) :
    process.Maintains granted holds other state := by
  rw [maintains_eq_follows] at maintains ⊢
  exact maintains.weaken initially implies

/-- The rules grant what they preserve. -/
theorem Obeys.maintains {given post : α → S → Prop} {process : Process S E α} {state : S}
    (obeys : process.Obeys rules given state) (initially : granted state)
    (preserved : ∀ first second, rules.step first second → granted first → granted second)
    (maintains : process.Maintains granted holds post state) :
    process.Obeys ⟨fun _ later => holds later, fun _ _ _ => True⟩ post state := by
  rw [maintains_eq_follows] at maintains
  exact obeys.follows initially preserved maintains

/-! What is known of all states that a process comes through. -/

def Stays (holds : S → Prop) (process : Process S E α) (state : S) : Prop :=
  ∀ count, holds (process.after count state)

theorem Stays.here {process : Process S E α} {state : S} (stays : process.Stays holds state) :
    holds state := by
  have start := stays 0
  rwa [after_zero] at start

theorem stays_step {act : S → β × S} {next : β → Process S E α} {state : S} :
    (step act next).Stays holds state ↔
      holds state ∧ (next (act state).1).Stays holds (act state).2 := by
  constructor
  · intro stays
    exact ⟨stays.here, fun count => stays (count + 1)⟩
  · rintro ⟨here, onward⟩ count
    cases count with
    | zero => exact here
    | succ count => exact onward count

theorem Stays.first {process : Process S E α} {next : α → Process S E β} {state : S}
    (stays : (process >>= next).Stays holds state) : process.Stays holds state := by
  induction process generalizing state with
  | done result | halt cause last =>
      intro count
      cases count <;> exact stays.here
  | step act rest ih =>
      obtain ⟨here, onward⟩ := stays_step.mp stays
      exact stays_step.mpr ⟨here, ih _ onward⟩

theorem Stays.rest {process : Process S E α} {next : α → Process S E β} {state later : S}
    {result : α} (stays : (process >>= next).Stays holds state)
    (returned : process.exec state = .ok result later) : (next result).Stays holds later := by
  induction process generalizing state with
  | done answer =>
      cases returned
      exact stays
  | halt cause last => cases returned
  | step act rest ih =>
      obtain ⟨-, onward⟩ := stays_step.mp stays
      exact ih _ onward returned

def checks (holds : S → Bool) : Nat → Process S E α → S → Bool
  | _, done _, state | _, halt _ _, state => holds state
  | 0, step _ _, _ => false
  | fuel + 1, step act next, state =>
      holds state && checks holds fuel (next (act state).1) (act state).2

theorem stays_of_checks {holds : S → Bool} (fuel : Nat) {process : Process S E α} {state : S}
    (checked : process.checks holds fuel state = true) :
    process.Stays (holds · = true) state := by
  induction fuel generalizing process state with
  | zero =>
      cases process with
      | done result | halt cause last =>
          intro count
          cases count <;> exact checked
      | step act next => cases checked
  | succ fuel ih =>
      cases process with
      | done result | halt cause last =>
          intro count
          cases count <;> exact checked
      | step act next =>
          obtain ⟨here, onward⟩ := Bool.and_eq_true_iff.mp checked
          exact stays_step.mpr ⟨here, ih onward⟩

/-! Two processes side by side, one of which sees only part of the other's state. -/

section Mirrors

variable {T : Type} {view : S → T}

/-- From this state on the second process does, in terms of what it sees, what the first one does,
as long as every state is one of those granted. -/
def Mirrors (granted : S → Prop) (view : S → T) : Process S E α → Process T E α → S → Prop
  | done result, done other, _ => other = result
  | halt cause last, halt other final, state => other = cause ∧ final (view state) = view (last state)
  | step act next, step other rest, state => (other (view state)).2 = view (act state).2 ∧
      (granted (act state).2 →
        (next (act state).1).Mirrors granted view (rest (other (view state)).1) (act state).2)
  | _, _, _ => False

theorem Mirrors.bind {process : Process S E α} {other : Process T E α}
    {next : α → Process S E β} {rest : α → Process T E β} {state : S}
    (mirrors : process.Mirrors granted view other state)
    (onward : ∀ result later, (next result).Mirrors granted view (rest result) later) :
    (process >>= next).Mirrors granted view (other >>= rest) state := by
  induction process generalizing other state with
  | done result =>
      cases other with
      | done answer =>
          cases mirrors
          exact onward result state
      | halt | step => cases mirrors
  | halt cause last =>
      cases other with
      | halt => exact mirrors
      | done | step => cases mirrors
  | step act proceed ih =>
      cases other with
      | step => exact ⟨mirrors.1, fun allowed => ih _ (mirrors.2 allowed)⟩
      | done | halt => cases mirrors

theorem Mirrors.after {process : Process S E α} {other : Process T E α} {state : S}
    (mirrors : process.Mirrors granted view other state) (allowed : process.Stays granted state)
    (count : Nat) : other.after count (view state) = view (process.after count state) := by
  induction count generalizing process other state with
  | zero => cases process <;> cases other <;> rfl
  | succ count ih =>
      cases process with
      | done result =>
          cases other with
          | done => rfl
          | halt | step => cases mirrors
      | halt cause last =>
          cases other with
          | halt => rfl
          | done | step => cases mirrors
      | step act next =>
          cases other with
          | step respond rest =>
              obtain ⟨same, onward⟩ := mirrors
              obtain ⟨-, allowed⟩ := stays_step.mp allowed
              have followed := ih (onward allowed.here) allowed
              rw [← same] at followed
              exact followed
          | done | halt => cases mirrors

def seen (view : S → T) : EStateM.Result E S α → EStateM.Result E T α
  | .ok result state => .ok result (view state)
  | .error cause state => .error cause (view state)

theorem Mirrors.exec {process : Process S E α} {other : Process T E α} {state : S}
    (mirrors : process.Mirrors granted view other state) (allowed : process.Stays granted state) :
    other.exec (view state) = seen view (process.exec state) := by
  induction process generalizing other state with
  | done result =>
      cases other with
      | done answer =>
          cases mirrors
          rfl
      | halt | step => cases mirrors
  | halt cause last =>
      cases other with
      | halt other final =>
          obtain ⟨rfl, same⟩ := mirrors
          exact congrArg _ same
      | done | step => cases mirrors
  | step act next ih =>
      cases other with
      | step respond rest =>
          obtain ⟨same, onward⟩ := mirrors
          obtain ⟨-, allowed⟩ := stays_step.mp allowed
          have followed := ih _ (onward allowed.here) allowed
          rw [← same] at followed
          exact followed
      | done | halt => cases mirrors

end Mirrors

end TclHost.Process
