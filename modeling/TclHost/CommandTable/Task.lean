import TclHost.CommandTable
import TclHost.Program

/-!
Handlers at work on the table that dispatches them. A handler is a program over the table: it may
register, remove and replace handlers, itself included, and route further invocations, to any
depth. The two parts of the table are lent out, to readers or to one writer, while an operation
uses them; a request for a part that is lent otherwise breaks off. Fuel bounds the depth of
invocations and nothing else.
-/

namespace TclHost

inductive TableQuestion (H N : Type) where
  | insert (name : String) (handler : H)
  | erase (name : String)
  | contains (name : String)
  | names
  | setReceiver (receiver : Option H)
  | receive (words : List String)
  /-- An invocation whose panic stops here. -/
  | attempt (words : List String)
  | note (entry : N)
  | review

def TableQuestion.Answer {H N : Type} : TableQuestion H N → Type
  | .insert .. | .erase _ | .contains _ => Bool
  | .names => List String
  | .setReceiver _ | .note _ => Unit
  | .receive _ => Except CommandError String
  | .attempt _ => Outcome
  | .review => Array N

abbrev TableTask (H N α : Type) : Type :=
  Program (TableQuestion H N) TableQuestion.Answer α

namespace CommandTable

inductive Part where
  | handlers
  | receiver
  deriving DecidableEq, Repr

inductive Access where
  | read
  | write
  deriving DecidableEq, Repr

inductive Loan where
  | readers (count : Nat)
  | writer
  deriving DecidableEq, Repr

def Loan.lend? : Loan → Access → Option Loan
  | .readers count, .read => some (.readers (count + 1))
  | .readers 0, .write => some .writer
  | _, _ => none

def Loan.giveBack : Loan → Loan
  | .readers count => .readers (count - 1)
  | .writer => .readers 0

def Access.refusal : Access → String
  | .read => "already mutably borrowed: BorrowError"
  | .write => "already borrowed: BorrowMutError"

end CommandTable

open CommandTable (Part Access Loan)

structure TableState (H N : Type) where
  table : CommandTable H := {}
  notes : Array N := #[]
  loan : Part → Loan := fun _ => .readers 0
  /-- How many requests met a part that was lent otherwise. -/
  refused : Nat := 0
  deriving Inhabited

inductive TableHalt where
  | panic (message : Option String)
  | outOfFuel
  deriving DecidableEq, Repr

abbrev TableRun (H N α : Type) : Type :=
  EStateM TableHalt (TableState H N) α

namespace TableState

variable {H N : Type}

def lend (state : TableState H N) (part : Part) (loan : Loan) : TableState H N :=
  { state with loan := fun other => if other = part then loan else state.loan other }

end TableState

namespace TableRun

variable {H N α : Type}

def borrow (part : Part) (access : Access) : TableRun H N Unit := do
  match ((← get).loan part).lend? access with
  | some loan => modify (·.lend part loan)
  | none =>
      modify fun state => { state with refused := state.refused + 1 }
      throw (.panic (some access.refusal))

def giveBack (part : Part) : TableRun H N Unit :=
  modify fun state => state.lend part (state.loan part).giveBack

/-- The part is on loan until `use` is over, also where `use` breaks off. -/
def lending (part : Part) (access : Access) (use : TableRun H N α) : TableRun H N α := do
  borrow part access
  try use finally giveBack part

def reading (part : Part) (look : CommandTable H → α) : TableRun H N α :=
  lending part .read do return look (← get).table

def writing (part : Part) (change : CommandTable H → α × CommandTable H) : TableRun H N α :=
  lending part .write <| modifyGet fun state =>
    ((change state.table).1, { state with table := (change state.table).2 })

/-- The handler is taken out of the table: nothing is on loan any more when it starts. -/
def choose : List String → TableRun H N (CommandTable.Route H)
  | [] => return .nowhere CommandTable.missingName
  | name :: arguments => do
      match ← reading .handlers (·.get? name) with
      | some handler => return .handler handler arguments
      | none =>
          match ← reading .receiver (·.receiver) with
          | some handler => return .handler handler (name :: arguments)
          | none => return .nowhere (CommandTable.unknownName name)

def invoke (call : H → List String → TableRun H N Outcome) (words : List String) :
    TableRun H N Outcome := do
  match ← choose words with
  | .nowhere message => return .error (.failed message)
  | .handler handler arguments => call handler arguments

def unwound : Outcome → TableRun H N (Except CommandError String)
  | .value text => return .ok text
  | .error cause => return .error cause
  | .panic message => throw (.panic message)

def caught (run : TableRun H N Outcome) : TableRun H N Outcome :=
  tryCatch run fun
    | .panic message => pure (.panic message)
    | .outOfFuel => throw .outOfFuel

end TableRun

namespace TableTask

variable {H N : Type}

def ask (question : TableQuestion H N) : TableTask H N question.Answer :=
  Program.question question

def answer (behave : H → List String → TableTask H N Outcome) :
    Nat → (question : TableQuestion H N) → TableRun H N question.Answer
  | _, .insert name handler =>
      .writing .handlers fun table => (table.contains name, table.insert name handler)
  | _, .erase name => .writing .handlers fun table => (table.contains name, table.erase name)
  | _, .contains name => .reading .handlers (·.contains name)
  | _, .names => .reading .handlers (·.names)
  | _, .setReceiver receiver => .writing .receiver fun table => ((), table.withReceiver receiver)
  | _, .note entry => modify fun state => { state with notes := state.notes.push entry }
  | _, .review => return (← get).notes
  | 0, .receive _ | 0, .attempt _ => throw .outOfFuel
  | fuel + 1, .receive words => do
      .unwound (← .invoke (fun handler arguments =>
        (behave handler arguments).run (answer behave fuel)) words)
  | fuel + 1, .attempt words =>
      .caught <| .invoke (fun handler arguments =>
        (behave handler arguments).run (answer behave fuel)) words

end TableTask

end TclHost
