/-!
Values that can be one element of a list.
-/

namespace TclHost

inductive Word where
  | absent
  | truth (value : Bool)
  | integer (value : Int)
  | char (value : Char)
  | text (value : String)
  deriving DecidableEq, Repr

/-- An absent value is an empty element, a truth value is `1` or `0`, an integer is written in
decimal, and text stands for itself. -/
def Word.render : Word → String
  | .absent => ""
  | .truth true => "1"
  | .truth false => "0"
  | .integer value => toString value
  | .char value => String.singleton value
  | .text value => value

end TclHost
