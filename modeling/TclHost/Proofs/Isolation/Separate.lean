import TclHost.Proofs.Isolation.Alike

/-!
A library that keeps its interpreters apart: what it does for one party is what it does where the
others do not exist, and of what it does for the others ours notices nothing.
-/

namespace TclHost

variable {σ H N α β : Type}

inductive Errand where
  | init
  | preserve
  | release
  | createCommand (name : String)
  | result
  | setResult (text : String)
  | quoteList (words : List String)
  | splitList (list : String)

def Errand.Answer : Errand → Type
  | .init => Int
  | .result | .quoteList _ => String
  | .splitList _ => Option (List String)
  | .preserve | .release | .createCommand _ | .setResult _ => Unit

def Errand.call (engine : Engine σ) (interp : InterpId) : (errand : Errand) → Call σ N errand.Answer
  | .init => Call.init engine interp
  | .preserve => Call.preserve engine interp
  | .release => Call.release engine interp
  | .createCommand name => Call.createCommand engine interp name
  | .result => Call.result engine interp
  | .setResult text => Call.setResult engine interp text
  | .quoteList words => Call.quoteList engine interp words
  | .splitList list => Call.splitList engine interp list

inductive Entry where
  | evaluate (script : List UInt8)
  | makeSafe
  | delete

def Entry.reaction (engine : Engine σ) (interp : InterpId) : Entry → σ → Reaction σ
  | .evaluate script => engine.evaluate interp script
  | .makeSafe => engine.makeSafe interp
  | .delete => engine.delete interp

def Call.words (engine : Engine σ) (words : List Obj) : Call σ N (List String) :=
  words.tail.mapM fun word => Call.text engine (some word)

/-- A call of ours is answered as it is there, and one of the others makes no difference there. -/
def Call.Parted (like : Roster → σ → σ → Prop) (ours : Bool) (roster : Roster)
    (call another : Call σ N α) (store there : σ) : Prop :=
  ∀ events others, (ours = true → (call.run ⟨store, events⟩).1 = (another.run ⟨there, others⟩).1) ∧
    like roster (call.run ⟨store, events⟩).2.store
      (cond ours (another.run ⟨there, others⟩).2.store there)

namespace Reaction

section

variable (N) (engine : Engine σ) (like : Roster → σ → σ → Prop)

/-- The library calls back for our interpreters only, with words that read the same, and goes on as
it does there, whoever came or went meanwhile. -/
inductive Together : Roster → Reaction σ → Reaction σ → Prop
  | finished {roster : Roster} {code : Int} {store there : σ} (alike : like roster store there) :
      Together roster (.finished code store) (.finished code there)
  | callback {roster : Roster} {interp counterpart : InterpId} {words others : List Obj}
      {store there : σ} {resume proceed : Int → σ → Reaction σ}
      (meets : roster true interp counterpart) (alike : like roster store there)
      (read : Call.Parted like true roster (Call.words engine words : Call σ N (List String))
        (Call.words engine others) store there)
      (onward : ∀ later code store there, roster.Grows later → like later store there →
        Together later (resume code store) (proceed code there)) :
      Together roster (.callback interp words store resume)
        (.callback counterpart others there proceed)

inductive Apart : Roster → Reaction σ → σ → Prop
  | finished {roster : Roster} {code : Int} {store there : σ} (alike : like roster store there) :
      Apart roster (.finished code store) there
  | callback {roster : Roster} {interp counterpart : InterpId} {words : List Obj} {store there : σ}
      {resume : Int → σ → Reaction σ} (meets : roster false interp counterpart)
      (alike : like roster store there)
      (read : Call.Parted like false roster (Call.words engine words : Call σ N (List String))
        (Call.words engine words) store there)
      (onward : ∀ later code store there, roster.Grows later → like later store there →
        Apart later (resume code store) there) :
      Apart roster (.callback interp words store resume) there

def Parted (ours : Bool) (roster : Roster) (reaction another : Reaction σ) (there : σ) : Prop :=
  cond ours (Together N engine like roster reaction another) (Apart N engine like roster reaction there)

end

end Reaction

structure Engine.Separates (N : Type) (engine : Engine σ) (like : Roster → σ → σ → Prop) :
    Prop where
  create : ∀ {ours : Bool} {roster : Roster} {session counterpart : SessionId} {store there : σ},
    like roster store there → (ours = false → counterpart = session) →
    (∀ {party : Bool} {first second : SessionId}, roster party first second →
      first ≠ session ∧ (ours = true → party = true → second ≠ counterpart)) →
    Call.Parted (fun roster => like (roster.add ours session counterpart)) ours roster
      (Call.create engine session : Call σ N Bool) (Call.create engine counterpart) store there
  errand : ∀ {ours : Bool} {roster : Roster} {session counterpart : SessionId} {store there : σ}
    (errand : Errand), roster ours session counterpart → like roster store there →
      Call.Parted like ours roster (errand.call engine session : Call σ N errand.Answer)
        (errand.call engine counterpart) store there
  entry : ∀ {ours : Bool} {roster : Roster} {session counterpart : SessionId} {store there : σ}
    (entry : Entry), roster ours session counterpart → like roster store there →
      Reaction.Parted N engine like ours roster (entry.reaction engine session store)
        (entry.reaction engine counterpart there) there

end TclHost
