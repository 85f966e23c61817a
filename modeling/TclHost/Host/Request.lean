import TclHost.Config
import TclHost.Desk
import TclHost.Program

/-!
What a program of the host may ask for. A program works on sessions that it holds: the session
whose command it answers, those it opened itself, and those it took from the desk.
-/

namespace TclHost

/-- The requests of programs whose handlers are named by `H` and whose notes are of type `N`. -/
inductive Request (H N : Type) where
  | evaluate (session : SessionId) (script : String)
  | makeSafe (session : SessionId)
  | result (session : SessionId)
  | quoteList (session : SessionId) (words : List String)
  | splitList (session : SessionId) (list : String)
  | inspect (session : SessionId)
  | insertCommand (session : SessionId) (name : String) (handler : H)
  | eraseCommand (session : SessionId) (name : String)
  | setReceiver (session : SessionId) (receiver : Option H)
  | openSession (config : Config)
  /-- Takes a handle from the desk, where it also stays. -/
  | takeInterp (name : String)
  | takeProc (name : String)
  | takeVar (name : String)
  | letGo
  | putInterp (name : String) (session : SessionId)
  | putProc (name : String) (proc : Proc)
  | putVar (name : String) (var : Var)
  | dropInterp (name : String)
  | dropProc (name : String)
  | dropVar (name : String)
  | environment
  | readFile (path : String)
  | note (entry : N)

/-- An evaluation answers no text where its completion code is neither success nor error.
Registering, erasing and dropping answer whether the name was there before. -/
def Request.Answer {H N : Type} : Request H N → Type
  | .evaluate .. => Except Error (Option String)
  | .makeSafe _ => Except Error Unit
  | .result _ | .quoteList .. => String
  | .splitList .. => Option (List String)
  | .inspect _ => Session H
  | .insertCommand .. | .eraseCommand .. | .dropInterp _ | .dropProc _ | .dropVar _ => Bool
  | .openSession _ => Except Error SessionId
  | .takeInterp _ => Option SessionId
  | .takeProc _ => Option Proc
  | .takeVar _ => Option Var
  | .setReceiver .. | .letGo | .putInterp .. | .putProc .. | .putVar .. | .note _ => Unit
  | .environment => String → Option String
  | .readFile _ => Except String String

abbrev Host (H N α : Type) : Type :=
  Program (Request H N) Request.Answer α

abbrev Attempt (H N α : Type) : Type :=
  ExceptT Error (Host H N) α

namespace Host

variable {H N : Type}

def evaluate? (session : SessionId) (script : String) : Attempt H N (Option String) :=
  ExceptT.mk (Program.question (Request.evaluate session script))

def makeSafe (session : SessionId) : Attempt H N Unit :=
  ExceptT.mk (Program.question (Request.makeSafe session))

def openSession (config : Config) : Attempt H N SessionId :=
  ExceptT.mk (Program.question (Request.openSession config))

def result (session : SessionId) : Host H N String :=
  Program.question (Request.result session)

def quoteList (session : SessionId) (words : List String) : Host H N String :=
  Program.question (Request.quoteList session words)

def splitList (session : SessionId) (list : String) : Host H N (Option (List String)) :=
  Program.question (Request.splitList session list)

def inspect (session : SessionId) : Host H N (Session H) :=
  Program.question (Request.inspect session)

def insertCommand (session : SessionId) (name : String) (handler : H) : Host H N Bool :=
  Program.question (Request.insertCommand session name handler)

def eraseCommand (session : SessionId) (name : String) : Host H N Bool :=
  Program.question (Request.eraseCommand session name)

def setReceiver (session : SessionId) (receiver : Option H) : Host H N Unit :=
  Program.question (Request.setReceiver session receiver)

def takeInterp (name : String) : Host H N (Option SessionId) :=
  Program.question (Request.takeInterp name)

def takeProc (name : String) : Host H N (Option Proc) :=
  Program.question (Request.takeProc name)

def takeVar (name : String) : Host H N (Option Var) :=
  Program.question (Request.takeVar name)

def letGo : Host H N Unit :=
  Program.question Request.letGo

def putInterp (name : String) (session : SessionId) : Host H N Unit :=
  Program.question (Request.putInterp name session)

def putProc (name : String) (proc : Proc) : Host H N Unit :=
  Program.question (Request.putProc name proc)

def putVar (name : String) (var : Var) : Host H N Unit :=
  Program.question (Request.putVar name var)

def dropInterp (name : String) : Host H N Bool :=
  Program.question (Request.dropInterp name)

def dropProc (name : String) : Host H N Bool :=
  Program.question (Request.dropProc name)

def dropVar (name : String) : Host H N Bool :=
  Program.question (Request.dropVar name)

def environment : Host H N (String → Option String) :=
  Program.question Request.environment

def readFile (path : String) : Host H N (Except String String) :=
  Program.question (Request.readFile path)

def note (entry : N) : Host H N Unit :=
  Program.question (Request.note entry)

end Host

end TclHost
