import EnumFamily.Source.Lexeme

/-!
# Token trees

A source text as a sequence of tokens in which brackets are already matched.
Reading fails at the first place where the text cannot be cut into tokens or a
closing bracket does not fit, and otherwise at the innermost bracket that stays
open.

* `tokens`: the text cut into tokens.
* `Tree.ofTokens`: the tokens with brackets matched.
* `trees`: both, for the text of a file.
-/
namespace EnumFamily.Source

/-- A position in a text, counted from 1 in lines and characters. -/
structure Pos where
  line : Nat
  column : Nat
deriving Repr, DecidableEq

def Pos.start : Pos := ⟨1, 1⟩

/-- The position behind a character. -/
def Pos.after (p : Pos) (c : Char) : Pos :=
  if c = '\n' then ⟨p.line + 1, 1⟩ else ⟨p.line, p.column + 1⟩

inductive Bracket where
  | round
  | square
  | curly
deriving Repr, DecidableEq

/-- What a literal is to the grammar. -/
inductive Literal where
  | text
  /-- a number as it is written -/
  | number (digits : List Char)
  | other
deriving Repr, DecidableEq

inductive Token where
  | opening (b : Bracket) (pos : Pos)
  | closing (b : Bracket) (pos : Pos)
  | word (pos : Pos) (text : String)
  /-- a sign; `joint` if another sign follows at once -/
  | sign (pos : Pos) (c : Char) (joint : Bool)
  | lifetime (pos : Pos)
  | literal (pos : Pos) (kind : Literal)
  /-- no token starts here -/
  | bad (pos : Pos)
deriving Repr, DecidableEq

inductive Tree where
  | word (pos : Pos) (text : String)
  | sign (pos : Pos) (c : Char) (joint : Bool)
  | lifetime (pos : Pos)
  | literal (pos : Pos) (kind : Literal)
  | group (b : Bracket) (opening closing : Pos) (inside : List Tree)

/-- Where a tree starts. -/
def Tree.pos : Tree → Pos
  | .word p _ => p
  | .sign p _ _ => p
  | .lifetime p => p
  | .literal p _ => p
  | .group _ p _ _ => p

/-! ## Cutting into tokens -/

/-- A sign stands at the front; the slash of a comment is none. -/
def isSignAhead (cs : List Char) : Bool :=
  match cs with
  | c :: _ =>
    "~!@#$%^&*-=+|;:,<.>/?'".toList.contains c && !startsWith "//" cs && !startsWith "/*" cs
  | [] => false

/-- An identifier that no quote ends: the quote before it may stand alone. -/
def followsQuote (cs : List Char) : Bool :=
  match identifierLength? cs with
  | none => false
  | some n =>
    match cs.drop n with
    | '\'' :: _ => false
    | '#' :: _ => startsWith "r#" cs
    | _ => true

/-- What starts with a quote and is no character: a lifetime, or a quote before a
literal that starts like an identifier. -/
def quoted? (cs : List Char) : Option (Nat × (Pos → List Token)) :=
  if !followsQuote cs then none
  else
    match literalLength? cs, nameLength? cs with
    | none, some n => some (n + 1, fun p => [.lifetime p])
    | _, _ => some (1, fun p => [.sign p '\'' true])

def openingBracket? : Char → Option Bracket
  | '(' => some .round
  | '[' => some .square
  | '\x7b' => some .curly
  | _ => none

def closingBracket? : Char → Option Bracket
  | ')' => some .round
  | ']' => some .square
  | '\x7d' => some .curly
  | _ => none

/-- The tokens that stand for a documenting comment: an attribute. -/
def docTokens (inner : Bool) (pos : Pos) : List Token :=
  [.sign pos '#' false] ++ (if inner then [.sign pos '!' false] else []) ++
    [.opening .square pos, .word pos "doc", .sign pos '=' false, .literal pos .text,
      .closing .square pos]

/-- The kind of a literal that starts with the character. -/
def literalKind (c : Char) (literal : List Char) : Literal :=
  if c = '"' || c = 'r' then .text else if c.isDigit then .number literal else .other

/-- Round brackets around this comment are one token, which stands for a literal
that could not be read. -/
def unreadable : String := "(/*ERROR*/)"

/-- The first lexeme of a text: its length and the tokens it gives at a position. -/
def lexeme? (cs : List Char) : Option (Nat × (Pos → List Token)) :=
  match cs with
  | [] => none
  | c :: r =>
    if isSpace c then some (1, fun _ => [])
    else if let some n := commentLength? cs then some (n, fun _ => [])
    else if let some d := docComment? cs then some (d.length, docTokens d.inner)
    else if startsWith unreadable cs then some (unreadable.length, fun p => [.literal p .other])
    else if let some b := openingBracket? c then some (1, fun p => [.opening b p])
    else if let some b := closingBracket? c then some (1, fun p => [.closing b p])
    else if let some n := literalLength? cs then
      some (n, fun p => [.literal p (literalKind c (cs.take n))])
    else if c == '\'' then quoted? r
    else if isSignAhead cs then some (1, fun p => [.sign p c (isSignAhead r)])
    else (nameLength? cs).map fun n => (n, fun p => [.word p (String.ofList (cs.take n))])

/-- Cuts a text that starts at `pos` into tokens, in reverse behind `done`. -/
def cutTokens (done : List Token) (pos : Pos) (cs : List Char) : List Token :=
  match cs with
  | [] => done
  | c :: r =>
    match lexeme? (c :: r) with
    | none => .bad pos :: done
    | some (n, emit) =>
      cutTokens ((emit pos).reverse ++ done) ((r.take (n - 1)).foldl Pos.after (pos.after c))
        (r.drop (n - 1))
termination_by cs.length
decreasing_by simp only [List.length_drop, List.length_cons]; omega

def byteOrderMark : Char := '\ufeff'

/-- The tokens of a text. A byte order mark before them takes a column and is no
token. -/
def tokens (text : List Char) : List Token :=
  match text with
  | c :: r =>
    (if c = byteOrderMark then cutTokens [] (Pos.start.after c) r
      else cutTokens [] .start text).reverse
  | [] => []

/-! ## Matching brackets -/

/-- A bracket that is open: where, and the trees before it, in reverse. -/
structure OpenGroup where
  bracket : Bracket
  pos : Pos
  before : List Tree

/-- Matches brackets; `done` are the trees behind the last open one, in reverse. -/
def Tree.ofTokens (stack : List OpenGroup) (done : List Tree) :
    List Token → Except Pos (List Tree)
  | [] =>
    match stack with
    | [] => .ok done.reverse
    | g :: _ => .error g.pos
  | .opening b p :: ts => Tree.ofTokens (⟨b, p, done⟩ :: stack) [] ts
  | .closing b p :: ts =>
    match stack with
    | [] => .error p
    | g :: gs =>
      if g.bracket = b then Tree.ofTokens gs (.group b g.pos p done.reverse :: g.before) ts
      else .error p
  | .word p s :: ts => Tree.ofTokens stack (.word p s :: done) ts
  | .sign p c j :: ts => Tree.ofTokens stack (.sign p c j :: done) ts
  | .lifetime p :: ts => Tree.ofTokens stack (.lifetime p :: done) ts
  | .literal p t :: ts => Tree.ofTokens stack (.literal p t :: done) ts
  | .bad p :: _ => .error p

/-! ## Files -/

/-- Drops a byte order mark, which then takes no column. -/
def dropMark (cs : List Char) : List Char :=
  match cs with
  | c :: r => if c = byteOrderMark then r else cs
  | [] => cs

/-- Drops white space and comments that document nothing. -/
def skipSpace (cs : List Char) : List Char :=
  match cs with
  | [] => []
  | c :: r =>
    if isSpace c then skipSpace r
    else
      match commentLength? (c :: r) with
      | some n => skipSpace (r.drop (n - 1))
      | none => c :: r
termination_by cs.length
decreasing_by
  all_goals simp only [List.length_drop, List.length_cons]; omega

/-- Drops a first line that names an interpreter. Its line break stays. -/
def dropInterpreter (cs : List Char) : List Char :=
  match cs with
  | '#' :: '!' :: r =>
    if (skipSpace r).head? = some '[' then cs else cs.dropWhile (· != '\n')
  | _ => cs

/-- The token trees of a file, or where it cannot be read. -/
def trees (text : String) : Except Pos (List Tree) :=
  Tree.ofTokens [] [] (tokens (dropInterpreter (dropMark text.toList)))

end EnumFamily.Source
