import TclHost.Text.Scan

/-!
Reading bytes as UTF-8 without ever failing. A well-formed character is read as itself, and each
longest run of bytes that starts a character but cannot end it is read as one U+FFFD.
-/

namespace TclHost.Text

def replacement : Char := '\uFFFD'

def isContinuation (byte : UInt8) : Bool :=
  0x80 ≤ byte && byte ≤ 0xBF

/-- What the first byte of a longer character settles: the range of the byte after it, how many
continuation bytes follow that one, and the bits it contributes itself. -/
structure Lead where
  low : UInt8
  high : UInt8
  more : Nat
  bits : Nat
  deriving DecidableEq, Repr

/-- The ranges leave out overlong forms, surrogates and code points beyond U+10FFFF. -/
def Lead.ofByte? (byte : UInt8) : Option Lead :=
  if 0xC2 ≤ byte && byte ≤ 0xDF then some ⟨0x80, 0xBF, 0, byte.toNat % 32⟩
  else if byte = 0xE0 then some ⟨0xA0, 0xBF, 1, 0⟩
  else if byte = 0xED then some ⟨0x80, 0x9F, 1, 13⟩
  else if 0xE1 ≤ byte && byte ≤ 0xEF then some ⟨0x80, 0xBF, 1, byte.toNat % 16⟩
  else if byte = 0xF0 then some ⟨0x90, 0xBF, 2, 0⟩
  else if 0xF1 ≤ byte && byte ≤ 0xF3 then some ⟨0x80, 0xBF, 2, byte.toNat % 8⟩
  else if byte = 0xF4 then some ⟨0x80, 0x8F, 2, 4⟩
  else none

/-- Appends `count` continuation bytes to `code`. The code is absent where one of them is missing;
the number is of those that are there. -/
def readContinuation : Nat → Nat → List UInt8 → Option Nat × Nat
  | 0, code, _ => (some code, 0)
  | _ + 1, _, [] => (none, 0)
  | count + 1, code, byte :: rest =>
      if isContinuation byte then
        let (code, used) := readContinuation count (code * 64 + byte.toNat % 64) rest
        (code, used + 1)
      else (none, 0)

def readChar (first : UInt8) (rest : List UInt8) : Char × Nat :=
  if first < 0x80 then (Char.ofNat first.toNat, 0)
  else
    match Lead.ofByte? first, rest with
    | some lead, second :: others =>
        if lead.low ≤ second && second ≤ lead.high then
          match readContinuation lead.more (lead.bits * 64 + second.toNat % 64) others with
          | (some code, used) => (Char.ofNat code, used + 1)
          | (none, used) => (replacement, used + 1)
        else (replacement, 0)
    | _, _ => (replacement, 0)

def decodeLossy (bytes : List UInt8) : List Char :=
  scan (fun first rest => ([(readChar first rest).1], (readChar first rest).2)) 0 bytes

def decodeStrict? (bytes : List UInt8) : Option String :=
  String.fromUTF8? bytes.toByteArray

end TclHost.Text
