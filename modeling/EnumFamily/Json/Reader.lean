import EnumFamily.Json

/-!
# Reading JSON

A reader for the JSON grammar: white space is blank, tab, line feed and
carriage return; strings hold no raw control characters; escapes of
characters beyond the first plane come as surrogate pairs; numerals have no
leading zeros. `read` accepts one value with white space around it.

An escape of half a surrogate pair follows the grammar and stands for no
character. A string with one is read as null, and so is an object that has such a
string for a name.
-/
namespace EnumFamily.Json

def isBlank (c : Char) : Bool := c = ' ' || c = '\t' || c = '\n' || c = '\r'

def skipBlank (s : List Char) : List Char := s.dropWhile isBlank

/-! ## Strings -/

def hexValue? (c : Char) : Option Nat :=
  if c.isDigit then some (c.toNat - 48)
  else if 'a' ≤ c ∧ c ≤ 'f' then some (c.toNat - 87)
  else if 'A' ≤ c ∧ c ≤ 'F' then some (c.toNat - 55)
  else none

/-- Four hexadecimal digits. -/
def hex4? : List Char → Option (Nat × List Char)
  | a :: b :: c :: d :: r => do
    let a ← hexValue? a
    let b ← hexValue? b
    let c ← hexValue? c
    let d ← hexValue? d
    some (((a * 16 + b) * 16 + c) * 16 + d, r)
  | _ => none

/-- What one-letter escapes stand for. -/
def letter? : Char → Option Char
  | '"' => some '"'
  | '\\' => some '\\'
  | '/' => some '/'
  | 'b' => some '\x08'
  | 'f' => some '\x0c'
  | 'n' => some '\n'
  | 'r' => some '\r'
  | 't' => some '\t'
  | _ => none

/-- The character of a surrogate pair, from its first half and what follows it. -/
def pair? (hi : Nat) : List Char → Option (Char × List Char)
  | '\\' :: 'u' :: r => do
    let (lo, r) ← hex4? r
    if hi < 0xDC00 ∧ 0xDC00 ≤ lo ∧ lo < 0xE000 then
      some (Char.ofNat (0x10000 + (hi - 0xD800) * 0x400 + (lo - 0xDC00)), r)
    else none
  | _ => none

/-- What follows a `\u`: one unit, or a surrogate pair. Half a pair is no character. -/
def unicode? (s : List Char) : Option (Option Char × List Char) := do
  let (unit, r) ← hex4? s
  if unit < 0xD800 ∨ 0xE000 ≤ unit then some (some (Char.ofNat unit), r)
  else
    match pair? unit r with
    | some (c, r) => some (some c, r)
    | none => some (none, r)

/-- The rest of a string behind its opening quote, without a text if some escape is
no character; every step takes at least one character, so `fuel` steps suffice
for a text of that length. -/
def stringBody (fuel : Nat) (acc : Option (List Char)) (s : List Char) :
    Option (Option String × List Char) :=
  match fuel, s with
  | _, '"' :: r => some (acc.map fun cs => String.ofList cs.reverse, r)
  | fuel + 1, '\\' :: 'u' :: r => do
    let (c, r) ← unicode? r
    stringBody fuel (c.bind fun c => acc.map (c :: ·)) r
  | fuel + 1, '\\' :: l :: r => do
    let c ← letter? l
    stringBody fuel (acc.map (c :: ·)) r
  | fuel + 1, c :: r =>
    if c = '\\' ∨ c.toNat < 32 then none else stringBody fuel (acc.map (c :: ·)) r
  | _, _ => none

def stringRest? (s : List Char) : Option (Option String × List Char) :=
  stringBody s.length (some []) s

/-! ## Numerals -/

def digits (s : List Char) : List Char × List Char :=
  (s.takeWhile Char.isDigit, s.dropWhile Char.isDigit)

/-- An integer part without leading zeros. -/
def integer? (s : List Char) : Option (List Char × List Char) :=
  match digits s with
  | ([], _) => none
  | (['0'], r) => some (['0'], r)
  | ('0' :: _, _) => none
  | (ds, r) => some (ds, r)

def fraction? (s : List Char) : Option (List Char × List Char) :=
  match s with
  | '.' :: r =>
    match digits r with
    | ([], _) => none
    | (ds, r) => some ('.' :: ds, r)
  | _ => some ([], s)

def exponent? (s : List Char) : Option (List Char × List Char) :=
  match s with
  | e :: r =>
    if e = 'e' ∨ e = 'E' then
      let (sign, r) := match r with
        | '+' :: r => (['+'], r)
        | '-' :: r => (['-'], r)
        | r => ([], r)
      match digits r with
      | ([], _) => none
      | (ds, r) => some (e :: sign ++ ds, r)
    else some ([], s)
  | [] => some ([], s)

def numeral? (s : List Char) : Option (String × List Char) := do
  let (sign, r) := match s with
    | '-' :: r => (['-'], r)
    | r => ([], r)
  let (i, r) ← integer? r
  let (f, r) ← fraction? r
  let (e, r) ← exponent? r
  some (String.ofList (sign ++ i ++ f ++ e), r)

/-! ## Values -/

/-- The rest of the input behind a word. -/
def word? (w : String) (s : List Char) : Option (List Char) :=
  if w.toList.isPrefixOf s then some (s.drop w.length) else none

/-- An object, unless one of its names is no text. -/
def ofMembers (members : List (Option String × Json)) : Json :=
  match members.mapM fun (k, v) => k.map (·, v) with
  | some members => .object members
  | none => .null

mutual

/-- Reads a value; every nested call stands behind at least one character. -/
def value (fuel : Nat) (s : List Char) : Option (Json × List Char) :=
  match fuel with
  | 0 => none
  | fuel + 1 =>
    match skipBlank s with
    | '"' :: r => (stringRest? r).map fun (t, r) => (string? t, r)
    | '[' :: r =>
      match skipBlank r with
      | ']' :: r => some (.array [], r)
      | r => (items fuel r).map fun (xs, r) => (.array xs, r)
    | '\x7b' :: r =>
      match skipBlank r with
      | '\x7d' :: r => some (.object [], r)
      | r => (members fuel r).map fun (ms, r) => (ofMembers ms, r)
    | 'n' :: r => (word? "ull" r).map fun r => (.null, r)
    | 't' :: r => (word? "rue" r).map fun r => (.bool true, r)
    | 'f' :: r => (word? "alse" r).map fun r => (.bool false, r)
    | r => (numeral? r).map fun (n, r) => (.number n, r)

/-- One or more items up to the closing bracket. -/
def items (fuel : Nat) (s : List Char) : Option (List Json × List Char) :=
  match fuel with
  | 0 => none
  | fuel + 1 => do
    let (x, r) ← value fuel s
    match skipBlank r with
    | ',' :: r => (items fuel r).map fun (xs, r) => (x :: xs, r)
    | ']' :: r => some ([x], r)
    | _ => none

/-- One or more members up to the closing brace. -/
def members (fuel : Nat) (s : List Char) : Option (List (Option String × Json) × List Char) :=
  match fuel with
  | 0 => none
  | fuel + 1 =>
    match skipBlank s with
    | '"' :: r => do
      let (k, r) ← stringRest? r
      match skipBlank r with
      | ':' :: r =>
        let (v, r) ← value fuel r
        match skipBlank r with
        | ',' :: r => (members fuel r).map fun (ms, r) => ((k, v) :: ms, r)
        | '\x7d' :: r => some ([(k, v)], r)
        | _ => none
      | _ => none
    | _ => none

end

/-- Reads a document: one value and nothing but white space around it. -/
def read (text : String) : Option Json :=
  match value (text.length + 1) text.toList with
  | some (v, rest) => if (skipBlank rest).isEmpty then some v else none
  | none => none

/-! ## Looking into a value -/

def asString? : Json → Option String
  | .string s => some s
  | _ => none

/-- The values of a member, one for each time its name occurs. -/
def membersNamed (name : String) (members : List (String × Json)) : List Json :=
  (members.filter (·.1 == name)).map (·.2)

end EnumFamily.Json
