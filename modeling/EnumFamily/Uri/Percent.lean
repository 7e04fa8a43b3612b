/-!
# Percent-encoding

Characters that may not stand at a place in an identifier are written as their
bytes, each as a percent sign and two hexadecimal digits.

* `escape`: the encoding of a character, for a list of reserved ones.
* `decode`, `decodeText?`: the bytes and the text that an encoded text stands for.
-/
namespace EnumFamily.Uri.Percent

def hexDigit (n : Nat) : Char :=
  if n < 10 then Char.ofNat (48 + n) else Char.ofNat (55 + n)

def encodeByte (b : UInt8) : List Char :=
  ['%', hexDigit (b.toNat / 16), hexDigit (b.toNat % 16)]

def encodeChar (c : Char) : List Char := (String.singleton c).toUTF8.toList.flatMap encodeByte

/-- Writes a character as it is, unless it is outside ASCII, a control
character or one of `reserved`. -/
def escape (reserved : List Char) (c : Char) : List Char :=
  if c.toNat < 32 || 127 ≤ c.toNat || reserved.contains c then encodeChar c else [c]

/-! ## Reserved characters -/

def inFragment : List Char := [' ', '"', '<', '>', Char.ofNat 96]

def inQuery : List Char := [' ', '"', '#', '<', '>']

def inPath : List Char := inFragment ++ ['#', '?', '\x7b', '\x7d']

/-- What a name may not hold that is to be one segment. -/
def inSegment : List Char := inPath ++ ['/', '%', '\\']

def inUserInfo : List Char := inPath ++ ['/', ':', ';', '=', '@', '[', '\\', ']', '^', '|']

/-! ## Decoding -/

def hexValue? (c : Char) : Option Nat :=
  if c.isDigit then some (c.toNat - 48)
  else if 'a' ≤ c ∧ c ≤ 'f' then some (c.toNat - 87)
  else if 'A' ≤ c ∧ c ≤ 'F' then some (c.toNat - 55)
  else none

/-- The bytes that a text stands for; a percent sign without two hexadecimal
digits stands for itself. -/
def decode : List Char → List UInt8
  | [] => []
  | '%' :: a :: b :: r =>
    match hexValue? a, hexValue? b with
    | some x, some y => UInt8.ofNat (x * 16 + y) :: decode r
    | _, _ => '%'.toNat.toUInt8 :: decode (a :: b :: r)
  | c :: r => (String.singleton c).toUTF8.toList ++ decode r

/-- The text that bytes stand for, if they are text. -/
def text? (bytes : List UInt8) : Option String :=
  String.fromUTF8? (ByteArray.mk bytes.toArray)

def decodeText? (s : List Char) : Option String := text? (decode s)

end EnumFamily.Uri.Percent
