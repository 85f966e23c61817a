/-!
Programs that act only by asking questions. `Question` lists what may be asked and `Answer` says
what comes back; what asking does is left to the handler that the program is run with.
-/

namespace TclHost

universe u

inductive Program (Question : Type) (Answer : Question → Type) (α : Type) where
  | done (result : α)
  | ask (question : Question) (next : Answer question → Program Question Answer α)

namespace Program

variable {Question : Type} {Answer : Question → Type} {α β : Type}

def andThen (program : Program Question Answer α) (next : α → Program Question Answer β) :
    Program Question Answer β :=
  match program with
  | done result => next result
  | ask question rest => ask question fun answer => (rest answer).andThen next

instance : Monad (Program Question Answer) where
  pure := done
  bind := andThen

def question (question : Question) : Program Question Answer (Answer question) :=
  ask question done

def run {m : Type → Type u} [Monad m] (handle : (question : Question) → m (Answer question)) :
    Program Question Answer α → m α
  | done result => pure result
  | ask question next => do (next (← handle question)).run handle

@[simp] theorem pure_eq_done (result : α) :
    (pure result : Program Question Answer α) = done result := rfl

@[simp] theorem done_bind (result : α) (next : α → Program Question Answer β) :
    done result >>= next = next result := rfl

@[simp] theorem ask_bind (question : Question)
    (rest : Answer question → Program Question Answer α) (next : α → Program Question Answer β) :
    ask question rest >>= next = ask question fun answer => rest answer >>= next := rfl

instance : LawfulMonad (Program Question Answer) := LawfulMonad.mk' _
  (fun program => by
    induction program with
    | done result => rfl
    | ask request next ih => exact congrArg (ask request) (funext ih))
  (fun _ _ => rfl)
  (fun program first second => by
    induction program with
    | done result => rfl
    | ask request next ih => exact congrArg (ask request) (funext ih))

theorem run_bind {m : Type → Type u} [Monad m] [LawfulMonad m]
    (handle : (question : Question) → m (Answer question))
    (program : Program Question Answer α) (next : α → Program Question Answer β) :
    (program >>= next).run handle = program.run handle >>= fun result => (next result).run handle := by
  induction program with
  | done result => simp [run]
  | ask question rest ih => simp [run, ih]

end Program

end TclHost
