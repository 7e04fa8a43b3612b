import EnumFamily.Source.Tree

/-!
# Reading token trees

A reader takes trees from the front of its input and fails with a position: that
of the tree it cannot use, or of the end of its input, which is the closing
bracket inside a group and the start of the text at file level. Trees that are
left over inside a group are a fault too, but one that counts only when nothing
else is wrong.
-/
namespace EnumFamily.Source

structure Input where
  trees : List Tree
  /-- the position to report at the end of the input -/
  stop : Pos
  /-- the first tree that was left over inside a group -/
  leftover : Option Pos

abbrev Reader (α : Type) := StateT Input (Except Pos) α

namespace Reader

/-! ## Looking ahead -/

def ahead : Reader (List Tree) := return (← get).trees

/-- The position of the next tree, or of the end. -/
def here : Reader Pos := do
  let s ← get
  return match s.trees with
    | t :: _ => t.pos
    | [] => s.stop

def fail {α : Type} : Reader α := do throw (← here)

def atEnd : Reader Bool := return (← ahead).isEmpty

/-- Words that cannot be names. -/
def reserved : List String :=
  ["_", "abstract", "as", "async", "await", "become", "box", "break", "const", "continue",
    "crate", "do", "dyn", "else", "enum", "extern", "false", "final", "fn", "for", "if", "impl",
    "in", "let", "loop", "macro", "match", "mod", "move", "mut", "override", "priv", "pub", "ref",
    "return", "Self", "self", "static", "struct", "super", "trait", "true", "try", "type",
    "typeof", "unsafe", "unsized", "use", "virtual", "where", "while", "yield"]

def isName : Tree → Bool
  | .word _ w => !reserved.contains w
  | _ => false

def isWord (w : String) : Tree → Bool
  | .word _ v => v == w
  | _ => false

/-- One of the words. -/
def isOneOf (ws : List String) : Tree → Bool
  | .word _ v => ws.contains v
  | _ => false

def isAnyWord : Tree → Bool
  | .word .. => true
  | _ => false

def isLifetime : Tree → Bool
  | .lifetime _ => true
  | _ => false

def isGroup (b : Bracket) : Tree → Bool
  | .group c .. => c == b
  | _ => false

def isSign (c : Char) : Tree → Bool
  | .sign _ d _ => c == d
  | _ => false

def isText : Tree → Bool
  | .literal _ .text => true
  | _ => false

/-- The words that are segments of a path without being names. -/
def isPathWord : Tree → Bool := isOneOf ["super", "self", "Self", "crate"]

/-- The trees start with the signs, each joined to the next. -/
def startsWithSigns : List Char → List Tree → Bool
  | [], _ => true
  | [c], .sign _ d _ :: _ => c == d
  | c :: cs, .sign _ d joint :: ts => c == d && joint && startsWithSigns cs ts
  | _, _ => false

/-- The tree at position `n` of the input satisfies `p`. -/
def peekAt (n : Nat) (p : Tree → Bool) : Reader Bool := return (← ahead)[n]?.any p

def peek (p : Tree → Bool) : Reader Bool := peekAt 0 p

/-- The signs stand at position `n` of the input. -/
def peekSignsAt (n : Nat) (s : String) : Reader Bool :=
  return startsWithSigns s.toList ((← ahead).drop n)

def peekSigns (s : String) : Reader Bool := peekSignsAt 0 s

/-- One of several rows of signs comes next. -/
def peekAnySigns (rows : List String) : Reader Bool := do
  let ts ← ahead
  return rows.any fun s => startsWithSigns s.toList ts

def peekWord (w : String) : Reader Bool := peek (isWord w)

/-- A colon that is not half of a double one comes next. -/
def peekColon : Reader Bool := return (← peekSigns ":") && !(← peekSigns "::")

/-- A single dot comes next. -/
def peekDot : Reader Bool := return (← peekSigns ".") && !(← peekSigns "..")

/-- A literal comes next; it may be a truth value or a negative number. -/
def peekLiteral : Reader Bool := do
  match ← ahead with
  | .literal .. :: _ => return true
  | .sign _ '-' _ :: .literal _ (.number _) :: _ => return true
  | t :: _ => return isOneOf ["true", "false"] t
  | [] => return false

/-! ## Taking trees -/

/-- Drops `n` trees. -/
def skip (n : Nat) : Reader Unit := modify fun s => { s with trees := s.trees.drop n }

/-- Takes all that is left. -/
def skipAll : Reader Unit := modify fun s => { s with trees := [] }

/-- Takes the next tree if it satisfies `p`. -/
def tryTake (p : Tree → Bool) : Reader Bool := do
  let found ← peek p
  if found then skip 1
  return found

def take (p : Tree → Bool) : Reader Unit := do
  unless ← tryTake p do fail

def tryWord (w : String) : Reader Bool := tryTake (isWord w)

def word (w : String) : Reader Unit := take (isWord w)

def trySigns (s : String) : Reader Bool := do
  let found ← peekSigns s
  if found then skip s.length
  return found

def signs (s : String) : Reader Unit := do
  unless ← trySigns s do fail

/-- Any word, reserved ones included. -/
def anyWord : Reader String := do
  match ← ahead with
  | .word _ w :: _ =>
    skip 1
    return w
  | _ => fail

/-- A name, with its position. -/
def nameAt : Reader (String × Pos) := do
  match ← ahead with
  | .word p w :: _ =>
    if reserved.contains w then fail
    else
      skip 1
      return (w, p)
  | _ => fail

def name : Reader String := return (← nameAt).1

/-- A name or an underscore. -/
def nameOrBlank : Reader String := do
  if ← peek (fun t => isName t || isWord "_" t) then anyWord else fail

/-- A literal, with the minus sign of a negative number. -/
def literal : Reader Unit := do
  if !(← peekLiteral) then fail
  let _ ← trySigns "-"
  skip 1

/-- Takes a group and reads its inside; what is left over there is noted. -/
def group {α : Type} (b : Bracket) (inside : Reader α) : Reader α := do
  let s ← get
  match s.trees with
  | .group c _ closing trees :: rest =>
    if c = b then
      match inside.run { trees, stop := closing, leftover := s.leftover } with
      | .error p => throw p
      | .ok (a, s') =>
        let leftover := s'.leftover.or (s'.trees.head?.map Tree.pos)
        set { s with trees := rest, leftover }
        return a
    else fail
  | _ => fail

/-- Takes a group whatever it holds. -/
def anyGroup (b : Bracket) : Reader Unit := group b skipAll

/-- Takes a group with any brackets and tells which. -/
def delimited : Reader Bracket := do
  match ← ahead with
  | .group b .. :: _ =>
    skip 1
    return b
  | _ => fail

/-- Reads if it can, and otherwise takes nothing. -/
def attempt {α : Type} (r : Reader α) : Reader (Option α) := fun s =>
  match r.run s with
  | .ok (a, s') => .ok (some a, s')
  | .error _ => .ok (none, s)

/-! ## Sequences -/

/-- Repeats a step while it asks for more, at most `fuel` times. -/
def repeatUpTo (fuel : Nat) (step : Reader Bool) : Reader Unit :=
  match fuel with
  | 0 => fail
  | fuel + 1 => do
    if ← step then repeatUpTo fuel step

/-- Repeats a step while it asks for more. A step that does so takes a tree, so
the number of trees bounds the rounds. -/
def loop (step : Reader Bool) : Reader Unit := do repeatUpTo ((← ahead).length + 1) step

/-- Like `repeatUpTo`, for a step that carries a value on; none ends it. -/
def iterateUpTo {α : Type} (fuel : Nat) (a : α) (step : α → Reader (Option α)) : Reader α :=
  match fuel with
  | 0 => fail
  | fuel + 1 => do
    match ← step a with
    | some b => iterateUpTo fuel b step
    | none => return a

/-- Like `loop`, for a step that carries a value on. -/
def iterate {α : Type} (a : α) (step : α → Reader (Option α)) : Reader α := do
  iterateUpTo ((← ahead).length + 1) a step

/-- Entries with commas between them, up to the end. -/
def commaSeparated (entry : Reader Unit) : Reader Unit := loop do
  if ← atEnd then return false
  entry
  if ← atEnd then return false
  signs ","
  return true

/-- Entries with commas between them, up to and with a closing angle bracket. -/
def angled (entry : Reader Unit) : Reader Unit := loop do
  if ← trySigns ">" then return false
  entry
  if ← trySigns ">" then return false
  signs ","
  return true

/-- Entries up to the end. -/
def many {α : Type} (entry : Reader α) : Reader (List α) := do
  let found ← iterate [] fun done => do
    if ← atEnd then return none
    return some ((← entry) :: done)
  return found.reverse

/-! ## Plain paths and visibility -/

/-- A path without arguments. -/
def plainPath : Reader (List String) := do
  let _ ← trySigns "::"
  let found ← iterate ([], true) fun (done, more) => do
    if !more then return none
    if !(← peek fun t => isName t || isPathWord t) then fail
    let w ← anyWord
    return some (w :: done, ← trySigns "::")
  return found.1.reverse

/-- The inside of round brackets that limit a visibility: one word, or `in` and
a path. -/
def limitsVisibility (inside : List Tree) : Bool :=
  match inside with
  | [t] => isOneOf ["crate", "self", "super", "in"] t
  | t :: _ => isWord "in" t
  | [] => false

/-- A visibility, if there is one. -/
def visibility : Reader Bool := do
  if ← tryWord "pub" then
    match ← ahead with
    | .group .round _ _ inside :: _ =>
      if limitsVisibility inside then
        group .round do
          if ← tryWord "in" then let _ ← plainPath else let _ ← anyWord
    | _ => pure ()
    return true
  else return false

/-- A macro call up to its arguments, whose brackets it tells. -/
def macroCall : Reader Bracket := do
  let _ ← plainPath
  signs "!"
  delimited

/-- The interface of a foreign function: `extern`, and perhaps its name. -/
def interface : Reader Unit := do
  word "extern"
  let _ ← tryTake isText

end Reader

end EnumFamily.Source
