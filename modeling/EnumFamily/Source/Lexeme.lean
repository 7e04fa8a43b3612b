import EnumFamily.Text.Blank
import EnumFamily.Text.Identifier

/-!
# Lexemes

How many characters of a text its first lexeme takes: white space, comments,
identifiers, and the literals of the language (text, bytes and C text, cooked
and raw; characters; numbers). Every function here looks only at the front of
the text. A literal that is not closed, or that holds an escape the language
does not have, is none.
-/
namespace EnumFamily.Source

/-- The number of leading characters that satisfy `p`. -/
def countWhile (p : Char → Bool) (cs : List Char) : Nat := (cs.takeWhile p).length

def startsWith (word : String) (cs : List Char) : Bool := word.toList.isPrefixOf cs

/-! ## White space and comments -/

/-- White space of the language: blanks, and the two direction marks. -/
def isSpace (c : Char) : Bool := Text.isBlank c || c == '\u200e' || c == '\u200f'

/-- The text up to the end of its line. A carriage return right before the line
feed is not part of the line. -/
def lineLength (n : Nat) : List Char → Nat
  | [] => n
  | '\n' :: _ => n
  | '\r' :: '\n' :: _ => n
  | _ :: r => lineLength (n + 1) r

/-- The length of a block comment, from inside it: `depth` comments are open and
`n` characters were read. -/
def blockLength (depth n : Nat) : List Char → Option Nat
  | '/' :: '*' :: r => blockLength (depth + 1) (n + 2) r
  | '*' :: '/' :: r => if depth ≤ 1 then some (n + 2) else blockLength (depth - 1) (n + 2) r
  | _ :: r => blockLength depth (n + 1) r
  | [] => none

/-- A comment that documents: of the enclosing item (`inner`) or of the next one. -/
structure DocComment where
  length : Nat
  inner : Bool

/-- Holds a carriage return that no line feed follows. -/
def hasBareReturn : List Char → Bool
  | [] => false
  | '\r' :: '\n' :: r => hasBareReturn r
  | '\r' :: _ => true
  | _ :: r => hasBareReturn r

/-- A documenting comment at the front of the text. -/
def docComment? (cs : List Char) : Option DocComment :=
  let found : Option DocComment :=
    if startsWith "//!" cs then some ⟨lineLength 0 cs, true⟩
    else if startsWith "/*!" cs then (blockLength 0 0 cs).map (⟨·, true⟩)
    else if startsWith "///" cs && !startsWith "////" cs then some ⟨lineLength 0 cs, false⟩
    else if startsWith "/**" cs && !startsWith "/***" cs && !startsWith "/**/" cs then
      (blockLength 0 0 cs).map (⟨·, false⟩)
    else none
  found.filter fun d => !hasBareReturn (cs.take d.length)

/-- A comment that documents nothing, at the front of the text. -/
def commentLength? (cs : List Char) : Option Nat :=
  if startsWith "//" cs && (!startsWith "///" cs || startsWith "////" cs) &&
      !startsWith "//!" cs then
    some (lineLength 0 cs)
  else if startsWith "/**/" cs then some 4
  else if startsWith "/*" cs && (!startsWith "/**" cs || startsWith "/***" cs) &&
      !startsWith "/*!" cs then
    blockLength 0 0 cs
  else none

/-! ## Identifiers -/

/-- The length of an identifier without a raw mark; zero if there is none. -/
def plainIdentifierLength (cs : List Char) : Nat :=
  match cs with
  | c :: _ => if Text.startsIdentifier c then countWhile Text.continuesIdentifier cs else 0
  | [] => 0

/-- Names that have no raw form. -/
def neverRaw : List String := ["_", "super", "self", "Self", "crate"]

/-- The length of an identifier, a raw mark included. -/
def identifierLength? (cs : List Char) : Option Nat :=
  if startsWith "r#" cs then
    let n := plainIdentifierLength (cs.drop 2)
    if n = 0 || neverRaw.contains (String.ofList ((cs.drop 2).take n)) then none else some (n + 2)
  else
    let n := plainIdentifierLength cs
    if n = 0 then none else some n

/-- Beginnings that belong to literals and to no identifier. -/
def literalMarks : List String :=
  ["r\"", "r#\"", "r##", "b\"", "b'", "br\"", "br#", "c\"", "cr\"", "cr#"]

/-- An identifier at the front of a text that does not start like a literal. -/
def nameLength? (cs : List Char) : Option Nat :=
  if literalMarks.any (startsWith · cs) then none else identifierLength? cs

/-- Adds the identifier that may stand right behind a literal. -/
def withSuffix (cs : List Char) (n : Nat) : Nat := n + plainIdentifierLength (cs.drop n)

/-! ## Text -/

/-- What a text literal stands for. -/
inductive TextKind where
  | text
  | bytes
  /-- text without the character zero -/
  | foreign
deriving DecidableEq

/-- The literal may hold the character as it is. -/
def TextKind.admits : TextKind → Char → Bool
  | text, _ => true
  | bytes, c => c.toNat < 128
  | foreign, c => c.toNat != 0

def isHex (c : Char) : Bool := c.isDigit || ('a' ≤ c && c ≤ 'f') || ('A' ≤ c && c ≤ 'F')

def hexValue (c : Char) : Nat :=
  if c.isDigit then c.toNat - 48 else if c.toNat ≥ 97 then c.toNat - 87 else c.toNat - 55

/-- The digits of a code point escape up to its closing brace: `len` digits of
value `value` and `n` characters were read. -/
def codePointLength (kind : TextKind) (len value n : Nat) : List Char → Option Nat
  | [] => none
  | c :: r =>
    if isHex c then
      if len = 6 then none else codePointLength kind (len + 1) (value * 16 + hexValue c) (n + 1) r
    else if len = 0 then none
    else if c = '_' then codePointLength kind len value (n + 1) r
    else if c = '\x7d' then
      if kind = .foreign && value = 0 then none
      else if value < 0xD800 || (0xE000 ≤ value && value < 0x110000) then some (n + 1)
      else none
    else none

/-- The length of what follows a backslash. -/
def escapeLength? (kind : TextKind) (cs : List Char) : Option Nat :=
  match cs with
  | '\n' :: _ => some 1
  | '\r' :: '\n' :: _ => some 2
  | '0' :: _ => if kind = .foreign then none else some 1
  | 'x' :: a :: b :: _ =>
    match kind with
    | .text => if '0' ≤ a && a ≤ '7' && isHex b then some 3 else none
    | .bytes => if isHex a && isHex b then some 3 else none
    | .foreign => if isHex a && isHex b && !(a == '0' && b == '0') then some 3 else none
  | 'u' :: '\x7b' :: r =>
    if kind = .bytes then none else (codePointLength kind 0 0 0 r).map (· + 2)
  | c :: _ =>
    if c = 'n' || c = 'r' || c = 't' || c = '\\' || c = '\'' || c = '"' then some 1 else none
  | [] => none

/-- The length of cooked text up to its closing quote: `n` characters were read,
and the next `skip` belong to an escape. -/
def cookedLength (kind : TextKind) (n skip : Nat) : List Char → Option Nat
  | [] => none
  | c :: r =>
    match skip with
    | skip + 1 => cookedLength kind (n + 1) skip r
    | 0 =>
      if c = '"' then some (n + 1)
      else if c = '\r' then
        if r.head? = some '\n' then cookedLength kind (n + 1) 0 r else none
      else if c = '\\' then
        match escapeLength? kind r with
        | some k => cookedLength kind (n + 1) k r
        | none => none
      else if kind.admits c then cookedLength kind (n + 1) 0 r
      else none

/-- The length of raw text up to its closing quote and `hashes` hash marks. -/
def rawLength (kind : TextKind) (hashes n : Nat) : List Char → Option Nat
  | [] => none
  | c :: r =>
    if c = '"' && (List.replicate hashes '#').isPrefixOf r then some (n + 1 + hashes)
    else if c = '\r' && r.head? != some '\n' then none
    else if kind.admits c then rawLength kind hashes (n + 1) r
    else none

/-- Raw text behind its letters: hash marks, a quote, the text. -/
def rawBodyLength? (kind : TextKind) (cs : List Char) : Option Nat :=
  let hashes := countWhile (· == '#') cs
  match cs.drop hashes with
  | '"' :: r => if hashes ≤ 255 then rawLength kind hashes (hashes + 1) r else none
  | _ => none

/-- A text literal at the front, without a suffix. -/
def textLength? (cs : List Char) : Option Nat :=
  match cs with
  | '"' :: r => cookedLength .text 1 0 r
  | 'r' :: r => (rawBodyLength? .text r).map (· + 1)
  | 'b' :: '"' :: r => cookedLength .bytes 2 0 r
  | 'b' :: 'r' :: r => (rawBodyLength? .bytes r).map (· + 2)
  | 'c' :: '"' :: r => cookedLength .foreign 2 0 r
  | 'c' :: 'r' :: r => (rawBodyLength? .foreign r).map (· + 2)
  | _ => none

/-! ## Characters -/

/-- A character behind its opening quote, up to and with the closing one. -/
def charBodyLength? (kind : TextKind) (cs : List Char) : Option Nat :=
  match cs with
  | '\\' :: r =>
    match r.head? with
    | some '\n' => none
    | some '\r' => none
    | _ =>
      match escapeLength? kind r with
      | some n => if (r.drop n).head? = some '\'' then some (n + 2) else none
      | none => none
  | c :: '\'' :: _ => if kind.admits c then some 2 else none
  | _ => none

def charLength? (cs : List Char) : Option Nat :=
  match cs with
  | '\'' :: r => (charBodyLength? .text r).map (· + 1)
  | 'b' :: '\'' :: r => (charBodyLength? .bytes r).map (· + 2)
  | _ => none

/-! ## Numbers -/

def isDigitOrBar (c : Char) : Bool := c.isDigit || c == '_'

/-- An exponent behind its letter: an optional sign, then digits and bars with at
least one digit. -/
def exponentLength? (cs : List Char) : Option Nat :=
  let bars := countWhile (· == '_') cs
  let sign := match cs.drop bars with
    | '+' :: _ => 1
    | '-' :: _ => 1
    | _ => 0
  let digits := (cs.drop (bars + sign)).takeWhile isDigitOrBar
  if digits.any Char.isDigit then some (bars + sign + digits.length) else none

/-- The digits of a number with a point or an exponent. -/
def floatDigits? (cs : List Char) : Option Nat :=
  let whole := countWhile isDigitOrBar cs
  match cs.drop whole with
  | '.' :: r =>
    if (r.head?.map fun c => c == '.' || Text.startsIdentifier c).getD false then none
    else
      let n := whole + 1 + countWhile isDigitOrBar r
      match cs.drop n with
      | e :: r =>
        if e = 'e' || e = 'E' then some (n + ((exponentLength? r).map (· + 1)).getD 0) else some n
      | [] => some n
  | e :: r => if e = 'e' || e = 'E' then (exponentLength? r).map (whole + 1 + ·) else none
  | [] => none

/-- The digits of an integer behind its base mark: `n` characters were read. -/
def baseDigits (base : Nat) (empty : Bool) (n : Nat) : List Char → Option Nat
  | [] => if empty then none else some n
  | c :: r =>
    if c = '_' then if empty && base == 10 then none else baseDigits base empty (n + 1) r
    else if c.isDigit then
      if hexValue c < base then baseDigits base false (n + 1) r else none
    else if isHex c && base == 16 then baseDigits base false (n + 1) r
    else if empty then none
    else some n

def integerDigits? (cs : List Char) : Option Nat :=
  match cs with
  | '0' :: 'x' :: r => (baseDigits 16 true 0 r).map (· + 2)
  | '0' :: 'o' :: r => (baseDigits 8 true 0 r).map (· + 2)
  | '0' :: 'b' :: r => (baseDigits 2 true 0 r).map (· + 2)
  | _ => baseDigits 10 true 0 cs

/-- Adds a suffix to digits; no identifier character may follow. -/
def endNumber? (cs : List Char) (n : Nat) : Option Nat :=
  let m := withSuffix cs n
  match cs.drop m with
  | c :: _ => if Text.continuesIdentifier c then none else some m
  | [] => some m

def numberLength? (cs : List Char) : Option Nat :=
  match cs with
  | c :: _ =>
    if c.isDigit then
      ((floatDigits? cs).bind (endNumber? cs)).orElse fun _ =>
        (integerDigits? cs).bind (endNumber? cs)
    else none
  | [] => none

/-- A number that has a point or an exponent. -/
def isFloat (cs : List Char) : Bool :=
  if startsWith "0x" cs || startsWith "0o" cs || startsWith "0b" cs then false
  else
    match cs.dropWhile isDigitOrBar with
    | '.' :: _ => true
    | e :: r =>
      let signed := (r.dropWhile isDigitOrBar).head?.any fun c => c = '+' || c = '-'
      (e = 'e' || e = 'E') && (signed || (r.takeWhile isDigitOrBar).any Char.isDigit)
    | [] => false

/-- The value of an integer that has no suffix. -/
def integerValue? (cs : List Char) : Option Nat :=
  let (base, digits) := match cs with
    | '0' :: 'x' :: r => (16, r)
    | '0' :: 'o' :: r => (8, r)
    | '0' :: 'b' :: r => (2, r)
    | _ => (10, cs)
  let digits := digits.filter (· ≠ '_')
  if digits.all fun c => isHex c && hexValue c < base then
    some (digits.foldl (fun n c => n * base + hexValue c) 0)
  else none

/-- A literal at the front of the text, its suffix included. -/
def literalLength? (cs : List Char) : Option Nat :=
  ((textLength? cs).orElse fun _ => charLength? cs).map (withSuffix cs)
    |>.orElse fun _ => numberLength? cs

end EnumFamily.Source
