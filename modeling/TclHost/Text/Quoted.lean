import TclHost.Text.Unprintable

/-!
Text between double quotes, as diagnostics show it. A quote, a backslash and the usual controls
have an escape of two characters, other characters that would not show are named by their number,
and everything else stands for itself.
-/

namespace TclHost.Text

/-- The character by its number, such as `\u{feff}`: lower-case digits without padding. -/
def escapeNumber (char : Char) : List Char :=
  ['\\', 'u', '\x7b'] ++ Nat.toDigits 16 char.toNat ++ ['\x7d']

def escapeChar (char : Char) : List Char :=
  if char = '\x00' then ['\\', '0']
  else if char = '\t' then ['\\', 't']
  else if char = '\r' then ['\\', 'r']
  else if char = '\n' then ['\\', 'n']
  else if char = '\x22' || char = '\\' then ['\\', char]
  else if isUnprintable char then escapeNumber char
  else [char]

def quoted (text : String) : String :=
  String.ofList ('\x22' :: text.toList.flatMap escapeChar ++ ['\x22'])

end TclHost.Text
