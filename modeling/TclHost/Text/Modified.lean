import TclHost.Text.Utf8

/-!
The interpreter's own spelling of text, modified UTF-8. U+0000 is written as the pair `C0 80`, so
that encoded text holds no zero byte. What the interpreter hands back may in addition spell a
supplementary character as two surrogates of three bytes each.
-/

namespace TclHost.Text

def encodeChar (char : Char) : List UInt8 :=
  if char = '\x00' then [0xC0, 0x80] else String.utf8EncodeChar char

def encode (text : String) : List UInt8 :=
  text.toList.flatMap encodeChar

def isPlain (text : String) : Bool :=
  !text.toList.contains '\x00'

theorem encode_of_isPlain {text : String} (plain : isPlain text = true) :
    encode text = text.toList.flatMap String.utf8EncodeChar := by
  have nowhere : ∀ char ∈ text.toList, char ≠ '\x00' := by
    intro char member same
    subst same
    simp [isPlain, member] at plain
  simp only [encode, List.flatMap_def]
  congr 1
  exact List.map_congr_left fun char member => by simp [encodeChar, nowhere char member]

def markNul : List UInt8 → List UInt8
  | 0xC0 :: 0x80 :: rest => "<NUL>".toUTF8.toList ++ markNul rest
  | byte :: rest => byte :: markNul rest
  | [] => []

def readable? (bytes : List UInt8) : Option String :=
  decodeStrict? (markNul bytes)

def readSurrogate? (low high : UInt8) : List UInt8 → Option Nat
  | first :: second :: third :: _ =>
      if first = 0xED && low ≤ second && second ≤ high && isContinuation third then
        some (0xD000 + second.toNat % 64 * 64 + third.toNat % 64)
      else none
  | _ => none

def readPair? (bytes : List UInt8) : Option Char :=
  match readSurrogate? 0xA0 0xAF bytes, readSurrogate? 0xB0 0xBF (bytes.drop 3) with
  | some high, some low => some (Char.ofNat (0x10000 + (high - 0xD800) * 1024 + (low - 0xDC00)))
  | _, _ => none

def isNulPair (first : UInt8) (rest : List UInt8) : Bool :=
  first = 0xC0 && rest.head? = some 0x80

def respell (bytes : List UInt8) : List UInt8 :=
  scan (fun first rest =>
    if isNulPair first rest then ([0x00], 1)
    else
      match readPair? (first :: rest) with
      | some char => (String.utf8EncodeChar char, 5)
      | none => ([first], 0)) 0 bytes

/-- Only these two bytes can begin a form that UTF-8 does not have. -/
def needsRespelling (bytes : List UInt8) : Bool :=
  bytes.any fun byte => byte = 0xC0 || byte = 0xED

def decode (bytes : List UInt8) : String :=
  String.ofList (decodeLossy (if needsRespelling bytes then respell bytes else bytes))

/-- As `decode`, but in a single pass, one character or one malformed run at a time. -/
def decodeOnePass (bytes : List UInt8) : List Char :=
  scan (fun first rest =>
    if isNulPair first rest then (['\x00'], 1)
    else
      match readPair? (first :: rest) with
      | some char => ([char], 5)
      | none => ([(readChar first rest).1], (readChar first rest).2)) 0 bytes

end TclHost.Text
