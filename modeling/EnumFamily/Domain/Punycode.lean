/-!
# Punycode

Writes a label of any characters with ASCII alone (RFC 3492). The ASCII
characters come first; behind a hyphen follow the others, in the order of their
code points. Each of them is given by the number of steps from the one before it,
where a step goes to the next place in the label, and from the last place to the
first one with the next code point. These numbers are written to a base that
varies with the place of the digit and adapts to the numbers so far.

* `encode`: the ASCII characters of a label.
* `decode?`: the label that ASCII characters stand for.
-/
namespace EnumFamily.Punycode

/-! ## Digits -/

/-- Letters are the digits up to 25, and after them come the decimal digits. -/
def digitChar (d : Nat) : Char := if d < 26 then Char.ofNat (97 + d) else Char.ofNat (22 + d)

def digitValue? (c : Char) : Option Nat :=
  if c.isLower then some (c.toNat - 97)
  else if c.isUpper then some (c.toNat - 65)
  else if c.isDigit then some (c.toNat - 22)
  else none

/-- A digit below the threshold is the last one of its number. Places are
counted in steps of 36. -/
def threshold (place bias : Nat) : Nat :=
  if place ≤ bias then 1 else if bias + 26 ≤ place then 26 else place - bias

theorem one_le_threshold (place bias : Nat) : 1 ≤ threshold place bias := by
  unfold threshold; split <;> (try split) <;> omega

/-- Divides a number until it is small, and counts the places that this takes. -/
def scaled (n place : Nat) : Nat × Nat :=
  if 455 < n then scaled (n / 35) (place + 36) else (n, place)
termination_by n
decreasing_by exact Nat.div_lt_self (by omega) (by omega)

/-- The bias after a number was written, when `count` characters are placed. -/
def adapted (n count : Nat) (isFirst : Bool) : Nat :=
  let n := if isFirst then n / 700 else n / 2
  let (n, place) := scaled (n + n / count) 0
  place + 36 * n / (n + 38)

/-! ## Writing -/

def numberText (bias place n : Nat) : List Char :=
  let t := threshold place bias
  if n < t then [digitChar n]
  else digitChar (t + (n - t) % (36 - t)) :: numberText bias (place + 36) ((n - t) / (36 - t))
termination_by n
decreasing_by
  have := one_le_threshold place bias
  exact Nat.lt_of_le_of_lt (Nat.div_le_self _ _) (by omega)

structure Writer where
  written : List Char := []
  /-- the steps since the character written last -/
  steps : Nat := 0
  bias : Nat := 72
  /-- how many characters are placed, those of ASCII among them -/
  placed : Nat

namespace Writer

/-- Goes to the place behind a character, and writes it if it has the code point
that is looked for. -/
def pass (ascii code : Nat) (w : Writer) (c : Char) : Writer :=
  if c.toNat < code then { w with steps := w.steps + 1 }
  else if c.toNat = code then
    { written := w.written ++ numberText w.bias 36 w.steps
      steps := 0
      bias := adapted w.steps (w.placed + 1) (w.placed = ascii)
      placed := w.placed + 1 }
  else w

/-- Goes through the label once for each code point; `from_` is the least one
that was not looked for yet. -/
def run (label : List Char) (ascii from_ : Nat) (w : Writer) : List Nat → Writer
  | [] => w
  | code :: codes =>
    let w := { w with steps := w.steps + (code - from_) * (w.placed + 1) }
    let w := label.foldl (pass ascii code) w
    run label ascii (code + 1) { w with steps := w.steps + 1 } codes

end Writer

def insertCode (n : Nat) : List Nat → List Nat
  | [] => [n]
  | m :: ms => if n < m then n :: m :: ms else if n = m then m :: ms else m :: insertCode n ms

/-- The code points beyond ASCII, each once and in order. -/
def codes (label : List Char) : List Nat :=
  (label.filter (128 ≤ ·.toNat)).foldr (fun c ns => insertCode c.toNat ns) []

def encode (label : List Char) : List Char :=
  let ascii := label.filter (·.toNat < 128)
  let w := Writer.run label ascii.length 128 { placed := ascii.length } (codes label)
  (if ascii.isEmpty then [] else ascii ++ ['-']) ++ w.written

/-! ## Reading -/

/-- A number and what follows it; `weight` is the value of a one at `place`. -/
def number? (bias place weight sum : Nat) : List Char → Option (Nat × List Char)
  | [] => none
  | c :: rest =>
    match digitValue? c with
    | none => none
    | some d =>
      let t := threshold place bias
      if d < t then some (sum + d * weight, rest)
      else number? bias (place + 36) (weight * (36 - t)) (sum + d * weight) rest

theorem number?_length {bias place weight sum n : Nat} {s rest : List Char}
    (h : number? bias place weight sum s = some (n, rest)) : rest.length < s.length := by
  fun_induction number? bias place weight sum s with
  | case1 => simp at h
  | case2 => simp at h
  | case3 => simp_all
  | case4 _ _ _ _ _ _ _ _ _ ih => have := ih h; simp; omega

def insertAt (c : Char) : Nat → List Char → List Char
  | 0, s => c :: s
  | _ + 1, [] => [c]
  | i + 1, d :: s => d :: insertAt c i s

/-- Places one character after the other; `steps` counts from the start of the
label at `code`. -/
def placeAll (bias code steps : Nat) (label : List Char) (s : List Char) : Option (List Char) :=
  match s with
  | [] => some label
  | c :: rest =>
    match h : number? bias 36 1 0 (c :: rest) with
    | none => none
    | some (n, rest') =>
      let count := label.length + 1
      let code' := code + (steps + n) / count
      let place := (steps + n) % count
      if code'.isValidChar then
        placeAll (adapted n count (steps = 0)) code' (place + 1)
          (insertAt (Char.ofNat code') place label) rest'
      else none
termination_by s.length
decreasing_by exact number?_length h

/-- Reads what `encode` writes. The last hyphen ends the ASCII characters, if
there are any before it. -/
def decode? (s : List Char) : Option (List Char) :=
  let ascii := ((s.reverse.dropWhile (· ≠ '-')).drop 1).reverse
  if ascii.any (128 ≤ ·.toNat) then none
  else placeAll 72 128 0 ascii (if ascii.isEmpty then s else s.drop (ascii.length + 1))

end EnumFamily.Punycode
