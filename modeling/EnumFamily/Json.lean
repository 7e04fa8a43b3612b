/-!
# JSON documents

Values and their indented text. Members of an object keep their order. A
number is kept as its numeral, so that no digit is lost.
-/
namespace EnumFamily

inductive Json where
  | null
  | bool (b : Bool)
  | number (numeral : String)
  | string (s : String)
  | array (items : List Json)
  | object (members : List (String × Json))
deriving Repr, BEq, Inhabited

namespace Json

def ofNat (n : Nat) : Json := .number (toString n)

def strings (xs : List String) : Json := .array (xs.map .string)

/-- Null for a missing text. -/
def string? : Option String → Json
  | none => .null
  | some s => .string s

/-! ## Strings -/

def hexDigit (n : Nat) : Char :=
  if n < 10 then Char.ofNat (48 + n) else Char.ofNat (87 + n)

/-- How a character is written inside a string: quotes and backslashes behind a
backslash, control characters by letter or by four lower-case hexadecimal
digits, everything else as it is. -/
def escape (c : Char) : List Char :=
  if c = '"' then ['\\', '"']
  else if c = '\\' then ['\\', '\\']
  else if c = '\x08' then ['\\', 'b']
  else if c = '\t' then ['\\', 't']
  else if c = '\n' then ['\\', 'n']
  else if c = '\x0c' then ['\\', 'f']
  else if c = '\r' then ['\\', 'r']
  else if c.toNat < 32 then
    ['\\', 'u', '0', '0', hexDigit (c.toNat / 16), hexDigit (c.toNat % 16)]
  else [c]

def quote (s : String) : List Char := '"' :: s.toList.flatMap escape ++ ['"']

/-! ## Indented text -/

/-- A line break and two blanks for each level. -/
def newline (level : Nat) : List Char := '\n' :: List.replicate (2 * level) ' '

mutual

/-- The text of a value whose first line stands at nesting depth `level`. -/
def chars (level : Nat) : Json → List Char
  | .null => "null".toList
  | .bool b => if b then "true".toList else "false".toList
  | .number n => n.toList
  | .string s => quote s
  | .array [] => ['[', ']']
  | .array (x :: xs) =>
    '[' :: newline (level + 1) ++ chars (level + 1) x ++ charsItems (level + 1) xs ++
      newline level ++ [']']
  | .object [] => ['\x7b', '\x7d']
  | .object ((k, v) :: ms) =>
    '\x7b' :: newline (level + 1) ++ quote k ++ [':', ' '] ++ chars (level + 1) v ++
      charsMembers (level + 1) ms ++ newline level ++ ['\x7d']

/-- Further items, each behind a comma and on a line of its own. -/
def charsItems (level : Nat) : List Json → List Char
  | [] => []
  | x :: xs => ',' :: newline level ++ chars level x ++ charsItems level xs

def charsMembers (level : Nat) : List (String × Json) → List Char
  | [] => []
  | (k, v) :: ms =>
    ',' :: newline level ++ quote k ++ [':', ' '] ++ chars level v ++ charsMembers level ms

end

/-- The indented text of a document. -/
def render (j : Json) : String := String.ofList (chars 0 j)

end Json

end EnumFamily
