import EnumFamily.Toml

/-!
# Reading TOML

A reader for the TOML grammar. Each function takes the rest of the input and
gives what it has read with the rest behind it, or nothing. `Toml.read` reads a
document; the details of a failure are not kept.
-/
namespace EnumFamily.Toml

/-! ## White space, line ends, comments -/

def isBlank (c : Char) : Bool := c = ' ' || c = '\t'

def skipBlank (s : List Char) : List Char := s.dropWhile isBlank

/-- Any character outside ASCII, or one that can be seen, or a blank. -/
def isPlain (c : Char) : Bool := c = '\t' || (32 ≤ c.toNat && c.toNat ≠ 127)

def newline? : List Char → Option (List Char)
  | '\n' :: r => some r
  | '\r' :: '\n' :: r => some r
  | _ => none

/-- Passes a comment up to the end of its line. -/
def skipComment : List Char → List Char
  | '#' :: r => r.dropWhile isPlain
  | s => s

/-- A line end, or the end of the input. -/
def lineEnd? (s : List Char) : Option (List Char) := if s.isEmpty then some [] else newline? s

/-- What may follow the content of a line: blanks, a comment, the line end. -/
def restOfLine? (s : List Char) : Option (List Char) := lineEnd? (skipComment (skipBlank s))

/-- Passes blanks, comments and line ends; `fuel` line ends at most. -/
def skipLines (fuel : Nat) (s : List Char) : List Char :=
  match fuel with
  | 0 => skipBlank s
  | fuel + 1 =>
    let s := skipBlank s
    match newline? (skipComment s) with
    | some r => skipLines fuel r
    | none => s

def skipFiller (s : List Char) : List Char := skipLines s.length s

/-! ## Strings -/

def hexValue? (c : Char) : Option Nat :=
  if c.isDigit then some (c.toNat - 48)
  else if 'a' ≤ c ∧ c ≤ 'f' then some (c.toNat - 87)
  else if 'A' ≤ c ∧ c ≤ 'F' then some (c.toNat - 55)
  else none

/-- The number that digits in a base stand for. -/
def valueOf (base : Nat) (digits : List Nat) : Nat := digits.foldl (fun n d => n * base + d) 0

/-- The character with a code of `n` hexadecimal digits. -/
def codePoint? (n : Nat) (s : List Char) : Option (Char × List Char) := do
  let digits ← (s.take n).mapM hexValue?
  let code := valueOf 16 digits
  if digits.length = n ∧ Nat.isValidChar code then some (Char.ofNat code, s.drop n) else none

/-- What follows a backslash. -/
def escape? : List Char → Option (Char × List Char)
  | 'b' :: r => some ('\x08', r)
  | 't' :: r => some ('\t', r)
  | 'n' :: r => some ('\n', r)
  | 'f' :: r => some ('\x0c', r)
  | 'r' :: r => some ('\r', r)
  | '"' :: r => some ('"', r)
  | '\\' :: r => some ('\\', r)
  | 'u' :: r => codePoint? 4 r
  | 'U' :: r => codePoint? 8 r
  | _ => none

/-- The rest of a string on one line, behind its quote `q`; only in double
quotes is a backslash special. -/
def lineString (q : Char) (fuel : Nat) (acc : List Char) (s : List Char) :
    Option (String × List Char) :=
  match fuel, s with
  | fuel + 1, c :: r =>
    if c = q then some (String.ofList acc.reverse, r)
    else if c = '\\' ∧ q = '"' then do
      let (e, r) ← escape? r
      lineString q fuel (e :: acc) r
    else if isPlain c then lineString q fuel (c :: acc) r
    else none
  | _, _ => none

/-- Passes blanks and line ends; `fuel` line ends at most. -/
def skipBreaks (fuel : Nat) (s : List Char) : List Char :=
  match fuel with
  | 0 => skipBlank s
  | fuel + 1 =>
    match newline? (skipBlank s) with
    | some r => skipBreaks fuel r
    | none => skipBlank s

/-- A backslash at the end of a line takes the line end and all blank space
behind it away. -/
def joinedLine? (s : List Char) : Option (List Char) :=
  (newline? (skipBlank s)).map fun r => skipBreaks r.length r

/-- The rest of a string over several lines, behind its three quotes `q`. Up to
two quotes in a row belong to the content, and so do the first ones of four or
five in a row, the last three of which close the string. -/
def blockString (q : Char) (fuel : Nat) (acc : List Char) (s : List Char) :
    Option (String × List Char) :=
  match fuel, s with
  | fuel + 1, c :: r =>
    if c = q then
      let run := (c :: r).takeWhile (· = q)
      let rest := (c :: r).dropWhile (· = q)
      if run.length < 3 then blockString q fuel (run ++ acc) rest
      else if run.length ≤ 5 then
        some (String.ofList (run.drop 3 ++ acc).reverse, rest)
      else none
    else if c = '\\' ∧ q = '"' then
      match joinedLine? r with
      | some r => blockString q fuel acc r
      | none => do
        let (e, r) ← escape? r
        blockString q fuel (e :: acc) r
    else if isPlain c then blockString q fuel (c :: acc) r
    else do
      let r ← newline? (c :: r)
      blockString q fuel ('\n' :: acc) r
  | _, _ => none

/-- A string on one line, with its quotes. -/
def quoted? : List Char → Option (String × List Char)
  | '"' :: r => lineString '"' r.length [] r
  | '\'' :: r => lineString '\'' r.length [] r
  | _ => none

/-- The content of a string over several lines; a line end right behind the
opening quotes is not part of it. -/
def block? (q : Char) (s : List Char) : Option (String × List Char) :=
  let s := (newline? s).getD s
  blockString q s.length [] s

def string? (s : List Char) : Option (String × List Char) :=
  match s with
  | '"' :: '"' :: '"' :: r => block? '"' r
  | '\'' :: '\'' :: '\'' :: r => block? '\'' r
  | s => quoted? s

/-! ## Keys -/

def isKeyChar (c : Char) : Bool := c.isAlphanum || c = '-' || c = '_'

def simpleKey? (s : List Char) : Option (String × List Char) :=
  match s.takeWhile isKeyChar with
  | [] => quoted? s
  | k => some (String.ofList k, s.dropWhile isKeyChar)

/-- How deep keys and values may nest. -/
def depthLimit : Nat := 80

/-- Simple keys with dots between them; blanks may stand around each. -/
def keyParts (fuel : Nat) (s : List Char) : Option (List String × List Char) :=
  match fuel with
  | 0 => none
  | fuel + 1 => do
    let (k, r) ← simpleKey? (skipBlank s)
    match skipBlank r with
    | '.' :: r => (keyParts fuel r).map fun (ks, r) => (k :: ks, r)
    | r => some ([k], r)

/-- A key of less than `depthLimit` parts. -/
def key? (s : List Char) : Option (List String × List Char) := keyParts (depthLimit - 1) s

/-! ## Numbers -/

/-- Digits with single underscores between them. -/
def digitRun (isDigit : Char → Bool) : List Char → List Char × List Char
  | [] => ([], [])
  | c :: r =>
    if isDigit c then
      match r with
      | '_' :: d :: r' =>
        if isDigit d then
          let (ds, rest) := digitRun isDigit (d :: r')
          (c :: ds, rest)
        else ([c], r)
      | r =>
        let (ds, rest) := digitRun isDigit r
        (c :: ds, rest)
    else ([], c :: r)

def sign : List Char → List Char × List Char
  | '+' :: r => (['+'], r)
  | '-' :: r => (['-'], r)
  | s => ([], s)

/-- Decimal digits; a zero in front stands alone. -/
def wholePart? (s : List Char) : Option (List Char × List Char) :=
  match s with
  | '0' :: r => some (['0'], r)
  | s =>
    match digitRun Char.isDigit s with
    | ([], _) => none
    | (ds, r) => some (ds, r)

def digitValue (c : Char) : Nat := (hexValue? c).getD 0

def natOf (base : Nat) (digits : List Char) : Nat := valueOf base (digits.map digitValue)

/-- Whole numbers have 64 bits. -/
def integerOf? (negative : Bool) (n : Nat) : Option Toml :=
  if negative then if n ≤ 0x8000000000000000 then some (.integer (-(n : Int))) else none
  else if n < 0x8000000000000000 then some (.integer n)
  else none

/-- A whole number in another base, behind its mark. -/
def basedInteger? (base : Nat) (isDigit : Char → Bool) (s : List Char) :
    Option (Toml × List Char) :=
  match digitRun isDigit s with
  | ([], _) => none
  | (ds, r) => (integerOf? false (natOf base ds)).map (·, r)

def integer? (s : List Char) : Option (Toml × List Char) :=
  match s with
  | '0' :: 'x' :: r => basedInteger? 16 (fun c => (hexValue? c).isSome) r
  | '0' :: 'o' :: r => basedInteger? 8 (fun c => '0' ≤ c && c ≤ '7') r
  | '0' :: 'b' :: r => basedInteger? 2 (fun c => c = '0' || c = '1') r
  | s => do
    let (sg, r) := sign s
    let (ds, r) ← wholePart? r
    (integerOf? (sg = ['-']) (natOf 10 ds)).map (·, r)

/-- A fraction behind its point. -/
def fraction? : List Char → Option (List Char × List Char)
  | '.' :: r =>
    match digitRun Char.isDigit r with
    | ([], _) => none
    | (ds, r) => some (ds, r)
  | _ => none

/-- The sign and the digits of an exponent. -/
def exponent? : List Char → Option (List Char × List Char × List Char)
  | e :: r =>
    if e = 'e' ∨ e = 'E' then
      let (sg, r) := sign r
      match digitRun Char.isDigit r with
      | ([], _) => none
      | (ds, r) => some (sg, ds, r)
    else none
  | [] => none

/-- The least number that is too large for a binary floating-point number of 64
bits: halfway between the largest one and the next power of two. -/
def floatBound : Nat := Nat.pow 2 1024 - Nat.pow 2 970

/-- `digits · 10 ^ (exponent - places)` reaches `floatBound`. A number with more
than 310 digits before its point does, one with less than 300 does not. -/
def overflows (digits places : Nat) (exponent : Int) : Bool :=
  let shift : Int := exponent - places
  let size : Int := (Nat.toDigits 10 digits).length + shift
  if digits = 0 ∨ size < 300 then false
  else if 310 < size then true
  else
    match shift with
    | .ofNat k => decide (floatBound ≤ digits * Nat.pow 10 k)
    | .negSucc k => decide (floatBound * Nat.pow 10 (k + 1) ≤ digits)

/-- A numeral with a fraction, an exponent, or both. A positive one must stay
below `floatBound`. -/
def float? (s : List Char) : Option (Toml × List Char) := do
  let (sg, r) := sign s
  let (whole, r) ← wholePart? r
  let fraction := fraction? r
  let (places, r) := fraction.getD ([], r)
  let exponent := exponent? r
  if fraction.isNone && exponent.isNone then none
  else
    let (esign, edigits, r) := exponent.getD ([], ['0'], r)
    let e : Int := natOf 10 edigits
    let e := if esign = ['-'] then -e else e
    if sg ≠ ['-'] ∧ overflows (natOf 10 (whole ++ places)) places.length e then none
    else
      let text := sg ++ whole ++ '.' :: places ++ 'e' :: esign ++ edigits
      some (.float (String.ofList text), r)

/-- Infinity and the number that is none. -/
def specialFloat? (s : List Char) : Option (Toml × List Char) :=
  let (sg, r) := sign s
  match r with
  | 'i' :: 'n' :: 'f' :: r => some (.float (String.ofList (sg ++ ['i', 'n', 'f'])), r)
  | 'n' :: 'a' :: 'n' :: r => some (.float (String.ofList (sg ++ ['n', 'a', 'n'])), r)
  | _ => none

/-! ## Dates and times -/

/-- A number of exactly `n` digits between two bounds. -/
def field? (n lo hi : Nat) (s : List Char) : Option (Nat × List Char) :=
  let ds := s.take n
  let v := natOf 10 ds
  if ds.length = n ∧ ds.all Char.isDigit ∧ lo ≤ v ∧ v ≤ hi then some (v, s.drop n) else none

def isLeapYear (y : Nat) : Bool := y % 4 = 0 && (y % 100 ≠ 0 || y % 400 = 0)

def daysIn (year month : Nat) : Nat :=
  if month = 2 then if isLeapYear year then 29 else 28
  else if month = 4 ∨ month = 6 ∨ month = 9 ∨ month = 11 then 30
  else 31

/-- The rest behind one given character. -/
def char? (c : Char) : List Char → Option (List Char)
  | d :: r => if c = d then some r else none
  | [] => none

/-- A day of the calendar. -/
def date? (s : List Char) : Option (List Char) := do
  let (year, r) ← field? 4 0 9999 s
  let (month, r) ← field? 2 1 12 (← char? '-' r)
  let (_, r) ← field? 2 1 (daysIn year month) (← char? '-' r)
  some r

/-- Parts of a second behind a point, if there are any. -/
def skipSecondParts (s : List Char) : List Char :=
  match s with
  | '.' :: c :: r => if c.isDigit then r.dropWhile Char.isDigit else s
  | s => s

/-- A time of day; a minute may have a leap second. -/
def time? (s : List Char) : Option (List Char) := do
  let (_, r) ← field? 2 0 23 s
  let (_, r) ← field? 2 0 59 (← char? ':' r)
  let (_, r) ← field? 2 0 60 (← char? ':' r)
  some (skipSecondParts r)

/-- The offset of a time from universal time, if there is one. -/
def offset? (s : List Char) : Option (List Char) :=
  match s with
  | 'Z' :: r => some r
  | 'z' :: r => some r
  | c :: r =>
    if c = '+' ∨ c = '-' then do
      let (_, r) ← field? 2 0 23 r
      let (_, r) ← field? 2 0 59 (← char? ':' r)
      some r
    else some s
  | [] => some s

/-- A time behind a date, with its offset; `none` if there is no time. -/
def timeOfDate? : List Char → Option (List Char)
  | c :: r => if c = 'T' ∨ c = 't' ∨ c = ' ' then (time? r).bind offset? else none
  | [] => none

/-- The rest behind a date, a time, or both. -/
def momentRest? (s : List Char) : Option (List Char) :=
  match date? s with
  | some r => some ((timeOfDate? r).getD r)
  | none => time? s

def moment? (s : List Char) : Option (Toml × List Char) :=
  (momentRest? s).map fun r => (.moment (String.ofList (s.take (s.length - r.length))), r)

/-! ## Values -/

/-- The rest behind a word. -/
def word? (w : String) (s : List Char) : Option (List Char) :=
  if w.toList.isPrefixOf s then some (s.drop w.length) else none

/-- A value without values inside it. -/
def scalar? (s : List Char) : Option (Toml × List Char) :=
  (string? s).map (fun (t, r) => (.string t, r)) <|>
  (word? "true" s).map (.boolean true, ·) <|>
  (word? "false" s).map (.boolean false, ·) <|>
  moment? s <|> float? s <|> specialFloat? s <|> integer? s

mutual

/-- Reads a value that stands at a nesting depth. -/
def value (fuel depth : Nat) (s : List Char) : Option (Toml × List Char) :=
  match fuel with
  | 0 => none
  | fuel + 1 =>
    match s with
    | '[' :: r =>
      if depth + 1 < depthLimit then (items fuel (depth + 1) r).map fun (xs, r) => (.array xs, r)
      else none
    | '\x7b' :: r =>
      if depth + 1 < depthLimit then
        match skipBlank r with
        | '\x7d' :: r => some (.table .inline [], r)
        | r => do
          let (ps, r) ← inlinePairs fuel (depth + 1) r
          let ms ← assignAll ps []
          some (.table .inline ms, r)
      else none
    | s => scalar? s

/-- Items up to the closing bracket; a comma may follow the last one. -/
def items (fuel depth : Nat) (s : List Char) : Option (List Toml × List Char) :=
  match fuel with
  | 0 => none
  | fuel + 1 =>
    match skipFiller s with
    | ']' :: r => some ([], r)
    | s => do
      let (x, r) ← value fuel depth s
      match skipFiller r with
      | ',' :: r => (items fuel depth r).map fun (xs, r) => (x :: xs, r)
      | ']' :: r => some ([x], r)
      | _ => none

/-- One or more pairs up to the closing brace. -/
def inlinePairs (fuel depth : Nat) (s : List Char) :
    Option (List (List String × Toml) × List Char) :=
  match fuel with
  | 0 => none
  | fuel + 1 => do
    let (k, r) ← key? s
    let r ← char? '=' r
    let (v, r) ← value fuel depth (skipBlank r)
    match skipBlank r with
    | ',' :: r => (inlinePairs fuel depth r).map fun (ps, r) => ((k, v) :: ps, r)
    | '\x7d' :: r => some ([(k, v)], r)
    | _ => none

end

/-- A value; each level of nesting and each item stands behind a character. -/
def value? (s : List Char) : Option (Toml × List Char) := value (2 * s.length + 2) 0 s

/-! ## Documents -/

/-- A pair with the rest of its line. -/
def pair? (s : List Char) : Option ((List String × Toml) × List Char) := do
  let (k, r) ← key? s
  let r ← char? '=' r
  let (v, r) ← value? (skipBlank r)
  some ((k, v), ← restOfLine? r)

/-- A header with the rest of its line. -/
def header? (s : List Char) : Option (Header × List Char) :=
  match s with
  | '[' :: '[' :: r => do
    let (k, r) ← key? r
    some (.element k, ← restOfLine? (← char? ']' (← char? ']' r)))
  | '[' :: r => do
    let (k, r) ← key? r
    some (.table k, ← restOfLine? (← char? ']' r))
  | _ => none

/-- The pairs up to the next header or the end. -/
def pairs (fuel : Nat) (s : List Char) : Option (List (List String × Toml) × List Char) :=
  match fuel with
  | 0 => none
  | fuel + 1 =>
    match skipBlank s with
    | [] => some ([], [])
    | '[' :: r => some ([], '[' :: r)
    | c :: r =>
      if c = '#' ∨ c = '\n' ∨ c = '\r' then (restOfLine? (c :: r)).bind (pairs fuel)
      else do
        let (p, r) ← pair? (c :: r)
        let (ps, r) ← pairs fuel r
        some (p :: ps, r)

def sections (fuel : Nat) (s : List Char) : Option (List Section) :=
  match fuel, s with
  | _, [] => some []
  | 0, _ :: _ => none
  | fuel + 1, s => do
    let (h, r) ← header? s
    let (ps, r) ← pairs (r.length + 1) r
    let ss ← sections fuel r
    some ({ header := h, pairs := ps } :: ss)

/-- A document without the mark that may stand in front of it. -/
def skipMark : List Char → List Char
  | c :: r => if c.toNat = 0xFEFF then r else c :: r
  | [] => []

/-- Reads a document: its root table. -/
def read (text : String) : Option Members := do
  let s := skipMark text.toList
  let (ps, r) ← pairs (s.length + 1) s
  let ss ← sections r.length r
  ofSections ps ss

end EnumFamily.Toml
