import TclHost.Error

/-!
The values that scripted steps report, and their compact text.
-/

namespace TclHost.Scenario

inductive Shown where
  | nothing
  | truth (value : Bool)
  | text (value : String)
  | texts (values : List String)
  | pairs (values : List (String × String))
  deriving DecidableEq, Repr, Inhabited

def ofOption (value : Option String) : Shown :=
  match value with
  | some text => .text text
  | none => .nothing

def literalChar (char : Char) : List Char :=
  if char = '\x22' || char = '\\' then ['\\', char]
  else if char = '\x08' then ['\\', 'b']
  else if char = '\x0c' then ['\\', 'f']
  else if char = '\n' then ['\\', 'n']
  else if char = '\r' then ['\\', 'r']
  else if char = '\t' then ['\\', 't']
  else if char.toNat < 0x20 then
    ['\\', 'u', '0', '0', Nat.digitChar (char.toNat / 16), Nat.digitChar (char.toNat % 16)]
  else [char]

def literal (text : String) : String :=
  String.ofList ('\x22' :: text.toList.flatMap literalChar ++ ['\x22'])

def bracketed (items : List String) : String :=
  "[" ++ String.intercalate "," items ++ "]"

def Shown.compact : Shown → String
  | .nothing => "null"
  | .truth value => toString value
  | .text value => value
  | .texts values => bracketed (values.map literal)
  | .pairs values => bracketed (values.map fun (key, value) => bracketed [literal key, literal value])

end TclHost.Scenario
