import EnumFamily.FilePath
import EnumFamily.Uri.Percent

/-!
# Numeric addresses

Addresses of machines in the Internet protocol: 32 bits, written as bytes with
full stops between them, or 128 bits, written as eight pieces with colons between
them. Both can be written in many ways, and `text` is the one that is compared.

* `Address4.read?`, `Address4.text`, `Address6.read?`, `Address6.text`.
* `endsInNumber`: a name that is to be read as an address of the first kind.
-/
namespace EnumFamily.Uri

/-- The value of digits to a base; there may be none. -/
def digitsValue? (base : Nat) (s : List Char) : Option Nat :=
  s.foldlM (fun n c =>
    match Percent.hexValue? c with
    | some d => if d < base then some (n * base + d) else none
    | none => none) 0

structure Address4 where
  value : Nat
deriving Repr, DecidableEq

namespace Address4

/-- A number to base 16 behind `0x`, to base 8 behind another zero, else to base 10. -/
def number? : List Char → Option Nat
  | [] => none
  | '0' :: c :: s =>
    if c = 'x' || c = 'X' then digitsValue? 16 s else digitsValue? 8 (c :: s)
  | s => digitsValue? 10 s

/-- The pieces between full stops, without an empty one at the end. -/
def pieces (s : List Char) : List (List Char) :=
  let ps := FilePath.splitAt '.' s
  if ps.getLast? = some [] then ps.dropLast else ps

def endsInNumber (s : List Char) : Bool :=
  match (pieces s).getLast? with
  | some p => !p.isEmpty && (p.all Char.isDigit || (number? p).isSome)
  | none => false

/-- The bytes of a number of `n` bytes, the highest one first. -/
def bytes : Nat → Nat → List Nat
  | 0, _ => []
  | n + 1, value => bytes n (value / 256) ++ [value % 256]

/-- Each number but the last is one byte, the last one is all bytes that are left. -/
def ofNumbers? (front : List Nat) (last : Nat) : Option Address4 :=
  let free := 4 - front.length
  if 3 < front.length || front.any (255 < ·) then none
  else if last < Nat.pow 256 free then
    some ⟨(front ++ bytes free last).foldl (fun n b => n * 256 + b) 0⟩
  else none

def read? (s : List Char) : Option Address4 := do
  let numbers ← (pieces s).mapM number?
  ofNumbers? numbers.dropLast (← numbers.getLast?)

def text (a : Address4) : String := ".".intercalate ((bytes 4 a.value).map toString)

end Address4

structure Address6 where
  pieces : List Nat
deriving Repr, DecidableEq

namespace Address6

/-- A piece of one to four hexadecimal digits. -/
def piece? (s : List Char) : Option Nat :=
  if s.isEmpty || 4 < s.length then none else digitsValue? 16 s

/-- A byte in decimal digits, without a zero in front. -/
def byte? (s : List Char) : Option Nat := do
  if s.isEmpty || (s.head? = some '0' && 1 < s.length) then none
  let n ← digitsValue? 10 s
  if n ≤ 255 then some n else none

/-- Four bytes with full stops between them, which take the place of two pieces. -/
def bytePieces? (s : List Char) : Option (List Nat) := do
  match ← (FilePath.splitAt '.' s).mapM byte? with
  | [a, b, c, d] => some [a * 256 + b, c * 256 + d]
  | _ => none

/-- Pieces with colons between them; `isEnd` says that the address ends here,
so that the last one may be written as bytes. -/
def run? (isEnd : Bool) (s : List Char) : Option (List Nat) :=
  if s.isEmpty then some []
  else do
    let groups := FilePath.splitAt ':' s
    let last ← groups.getLast?
    let front ← groups.dropLast.mapM piece?
    let final ← if isEnd && last.contains '.' then bytePieces? last else (piece? last).map ([·])
    some (front ++ final)

/-- Cuts a text at its first two colons. -/
def cutGap : List Char → Option (List Char × List Char)
  | [] => none
  | ':' :: ':' :: r => some ([], r)
  | c :: r => (cutGap r).map fun (a, b) => (c :: a, b)

/-- Reads an address; two colons stand for as many zeros as are missing, at
least one. -/
def read? (s : List Char) : Option Address6 := do
  match cutGap s with
  | some (a, b) =>
    let front ← run? false a
    let back ← run? true b
    let known := front.length + back.length
    if known < 8 then some ⟨front ++ List.replicate (8 - known) 0 ++ back⟩ else none
  | none =>
    let pieces ← run? true s
    if pieces.length = 8 then some ⟨pieces⟩ else none

/-- Where the longest run of zeros starts, and its length; of two such runs, the
first one. -/
def longestRun (pieces : List Nat) : Nat × Nat :=
  (List.range pieces.length).foldl (fun best i =>
    let n := ((pieces.drop i).takeWhile (· = 0)).length
    if best.2 < n then (i, n) else best) (0, 0)

def runText (pieces : List Nat) : String :=
  ":".intercalate (pieces.map fun n => String.ofList (Nat.toDigits 16 n))

/-- The longest run of zeros is left out, if there is more than one zero in it. -/
def text (a : Address6) : String :=
  let (start, length) := longestRun a.pieces
  if length < 2 then runText a.pieces
  else runText (a.pieces.take start) ++ "::" ++ runText (a.pieces.drop (start + length))

end Address6

end EnumFamily.Uri
