import EnumFamily.Source.PatternReader
import EnumFamily.Source.TypeReader

/-!
# Reading expressions

An expression is operands with operators between them. An operand is a row of
signs before an atom, and calls, members and indices behind it. Where a block
has to follow, as behind a condition, a path before curly brackets is no
structure (`structs` is false).
-/
namespace EnumFamily.Source.Reader

variable (g : Grammar)

/-! ## Operators -/

/-- The infix operators with their precedence; of two that start alike, the longer one
comes first. -/
def infixOperators : List (String × Precedence) :=
  [("+=", .assign), ("-=", .assign), ("*=", .assign), ("/=", .assign), ("%=", .assign),
    ("^=", .assign), ("&=", .assign), ("|=", .assign), ("<<=", .assign), (">>=", .assign),
    ("&&", .and), ("||", .or), ("<<", .shift), (">>", .shift), ("==", .compare), ("<=", .compare),
    ("!=", .compare), (">=", .compare), ("+", .sum), ("-", .sum), ("*", .product), ("/", .product),
    ("%", .product), ("^", .bitXor), ("&", .bitAnd), ("|", .bitOr), ("<", .compare),
    (">", .compare)]

def infixOperator? : Reader (Option (String × Precedence)) := do
  let ts ← ahead
  return infixOperators.find? fun op => startsWithSigns op.1.toList ts

/-- An equals sign that assigns. -/
def peekAssign : Reader Bool := return (← peekSigns "=") && !(← peekSigns "=>")

/-- The precedence of what comes next; the loosest one if it continues no expression. -/
def nextPrecedence : Reader Precedence := do
  match ← infixOperator? with
  | some op => return op.2
  | none =>
    if ← peekAssign then return .assign
    else if ← peekSigns ".." then return .range
    else if ← peekWord "as" then return .cast
    else return .jump

/-- The right operand of an operator, with what binds more tightly. -/
def rightOperand (structs : Bool) (p : Precedence) : Reader Shape := do
  let first ← g (.operand structs)
  iterate first fun right => do
    let next ← nextPrecedence
    if p.rank < next.rank || (next == p && p == .assign) then
      let before := (← ahead).length
      let grown ← g (.operation structs next right)
      return if (← ahead).length < before then some grown else none
    else return none

/-- A range that is open above goes no further: what comes next continues it or ends
the expression. -/
def endsRange (structs : Bool) : Reader Bool := do
  return (← atEnd) || (← peekDot) || (← peekWord "as") ||
    (!structs && (← peek (isGroup .curly))) ||
    (← peekAnySigns [",", ";", "?", "=>", "=", "+", "/", "%", "^", ">", "<=", "!=", "-=", "*=",
      "&=", "|=", "<<="])

/-- The dots of a range and its upper end. -/
def rangeTail (structs : Bool) : Reader Unit := do
  let closed ← rangeDots false
  if closed || !(← endsRange structs) then let _ ← rightOperand g structs .range

/-- A type behind `as`. Calls, members and indices do not go with it. -/
def castType : Reader Unit := do
  let _ ← g (.type false)
  if (← peekDot) || (← peekSigns "?") || (← peek fun t => isGroup .square t || isGroup .round t)
  then fail

/-- One operator behind a left operand, if it binds at least as tightly as `least`. -/
def operationStep (structs : Bool) (least : Precedence) (left : Shape) :
    Reader (Option Shape) := do
  if left == .range then return none
  match ← infixOperator? with
  | some (op, p) =>
    if p.rank < least.rank then return none
    if p == .compare && left == .comparison then fail
    signs op
    let _ ← rightOperand g structs p
    return some (if p == .compare then .comparison else .other)
  | none =>
    if least.rank ≤ Precedence.assign.rank && (← peekAssign) then
      signs "="
      let _ ← rightOperand g structs .assign
      return some .other
    else if least.rank ≤ Precedence.range.rank && (← peekSigns "..") then
      rangeTail g structs
      return some .range
    else if ← tryWord "as" then
      castType g
      return some .other
    else return none

/-- What follows a left operand. -/
def readOperation (structs : Bool) (least : Precedence) (left : Shape) : Reader Shape :=
  iterate left (operationStep g structs least)

def readExpression (structs : Bool) : Reader Shape := do
  let left ← g (.operand structs)
  g (.operation structs .jump left)

/-- An expression of which nothing is kept. -/
def expression : Reader Unit := do
  let _ ← g (.expression true)

/-! ## Behind an atom -/

/-- The numbers of members with points between them, as in `1.2`; true if a point also
ends them. -/
def memberNumbers (digits : List Char) : Reader Bool := do
  let trailing := digits.getLast? == some '.'
  let parts := (String.ofList (if trailing then digits.dropLast else digits)).splitOn "."
  unless parts.all fun part => (integerValue? part.toList).any (· < 0x100000000) do fail
  skip 1
  return trailing

/-- A member behind its point: a field, a method with its arguments, or `await`. -/
def memberAccess : Reader Unit := do
  let goesOn ←
    match ← ahead with
    | .literal _ (.number digits) :: _ =>
      if isFloat digits then memberNumbers digits else pure true
    | _ => pure true
  if !goesOn then return
  if ← tryWord "await" then return
  let named ← member
  let applied := named && (← peekSigns "::")
  if applied then
    signs "::"
    let _ ← arguments g
  if applied || (named && (← peek (isGroup .round))) then
    group .round (commaSeparated (expression g))

/-- One call, member, index or question mark behind an atom, if there is one. -/
def trailerStep (left : Shape) : Reader (Option Shape) := do
  if ← peek (isGroup .round) then
    group .round (commaSeparated (expression g))
    return some .other
  else if left != .range && (← peekDot) then
    signs "."
    memberAccess g
    return some .other
  else if ← peek (isGroup .square) then
    group .square (expression g)
    return some .other
  else if left != .range && (← peekSigns "?") then
    signs "?"
    return some .other
  else return none

def trailers (left : Shape) : Reader Shape := iterate left (trailerStep g)

/-! ## Blocks with keywords -/

/-- A condition, or what a loop or a match runs on. -/
def head : Reader Unit := do
  let _ ← g (.expression false)

def ifExpression : Reader Unit := loop do
  word "if"
  head g
  plainBlock g
  if !(← tryWord "else") then return false
  if ← peekWord "if" then return true
  plainBlock g
  return false

def whileLoop : Reader Unit := do
  word "while"
  head g
  block g

def forLoop : Reader Unit := do
  word "for"
  let _ ← alternatives g
  word "in"
  head g
  block g

/-- A case of a match. -/
def matchArm : Reader Unit := do
  let _ ← attributes g
  let _ ← alternatives g
  if ← tryWord "if" then expression g
  signs "=>"
  let shape ← g .bounded
  if shape != .block && !(← atEnd) then signs "," else let _ ← trySigns ","

def matchExpression : Reader Unit := do
  word "match"
  head g
  group .curly do
    innerAttributes g
    let _ ← many (matchArm g)

/-- A loop or a block behind its label. -/
def labelled : Reader Unit := do
  take isLifetime
  signs ":"
  if ← peekWord "while" then whileLoop g
  else if ← peekWord "for" then forLoop g
  else
    let _ ← tryWord "loop"
    block g

/-- An expression that starts with a keyword or a label and ends with a block, if one
comes next. A `for` with parameters is a closure. -/
def blockLike? : Reader Bool := do
  if ← peekWord "if" then ifExpression g
  else if ← peekWord "while" then whileLoop g
  else if (← peekWord "for") && !opensParameters ((← ahead).drop 1) then forLoop g
  else if ← tryWord "loop" then block g
  else if ← peekWord "match" then matchExpression g
  else if (← peekWord "try") && (← peekAt 1 (isGroup .curly)) then
    skip 1
    plainBlock g
  else if ← tryWord "unsafe" then block g
  else if (← peekWord "const") && (← peekAt 1 (isGroup .curly)) then
    skip 1
    block g
  else if ← peek (isGroup .curly) then block g
  else if ← peek isLifetime then labelled g
  else return false
  return true

/-! ## Closures, structures, lists -/

/-- A closure starts here. -/
def startsClosure : Reader Bool := do
  return (← peekSigns "|") || (← peek (isOneOf ["move", "static"])) ||
    ((← peekWord "for") && opensParameters ((← ahead).drop 1)) ||
    ((← peekWord "const") && !(← peekAt 1 (isGroup .curly))) ||
    ((← peekWord "async") && ((← peekSignsAt 1 "|") || (← peekAt 1 (isWord "move"))))

/-- The arguments of a closure, up to and with the closing bar. -/
def closureArguments : Reader Unit := loop do
  if ← trySigns "|" then return false
  let _ ← attributes g
  let _ ← g .pattern
  if ← trySigns ":" then let _ ← g (.type true)
  if ← trySigns "|" then return false
  signs ","
  return true

def closure (structs : Bool) : Reader Unit := do
  let _ ← binder g
  let _ ← tryWord "const"
  let _ ← tryWord "static"
  let _ ← tryWord "async"
  let _ ← tryWord "move"
  signs "|"
  closureArguments g
  if ← trySigns "->" then
    let _ ← g (.type true)
    plainBlock g
  else let _ ← g (.expression structs)

/-- The fields of a structure; behind two dots, where the other fields come from. -/
def fieldValues : Reader Unit := loop do
  if ← atEnd then return false
  if ← trySigns ".." then
    if !(← atEnd) then expression g
    return false
  let _ ← attributes g
  let named ← member
  if !named || (← peekSigns ":") then
    signs ":"
    expression g
  if ← atEnd then return false
  signs ","
  return true

/-- A path, a macro call or a structure. -/
def pathExpression (structs : Bool) : Reader Shape := do
  let p ← qualifiedPath g true
  if (← peekSigns "!") && !(← peekSigns "!=") && p.any (!·.hasArguments) then
    skip 1
    return if (← delimited) == .curly then .curlyMacro else .other
  if structs && (← peek (isGroup .curly)) then group .curly (fieldValues g)
  return .other

/-- The inside of square brackets: a list, or one value and how often. -/
def arrayBody : Reader Unit := do
  if ← atEnd then return
  expression g
  if ← atEnd then return
  if ← trySigns ";" then expression g
  else
    signs ","
    commaSeparated (expression g)

/-! ## Jumps -/

/-- An expression may start here. -/
def startsExpression : Reader Bool := do
  let signed := (← peekAnySigns ["!", "-", "*", "|", "&", "<"]) &&
    !(← peekAnySigns ["!=", "-=", "->", "*=", "|=", "&=", "<=", "<<="])
  return signed || (← peekAnySigns ["..", "::", "#"]) ||
    (← peek fun t =>
      match t with
      | .group .. => true
      | .lifetime _ => true
      | .literal .. => true
      | .word _ w => w != "as"
      | .sign .. => false)

/-- The value of `return` or `yield`, if there is one. -/
def jumpValue : Reader Unit := do
  if ← startsExpression then expression g

/-- The label and the value of `break`. A loop with a label needs round brackets. -/
def breakRest (structs : Bool) : Reader Unit := do
  if (← peek isLifetime) && (← peekAt 1 (isSign ':')) then
    let start ← here
    expression g
    throw start
  let _ ← tryTake isLifetime
  if (← startsExpression) && (structs || !(← peek (isGroup .curly))) then expression g

/-- A condition that matches a pattern. -/
def letCondition (structs : Bool) : Reader Unit := do
  word "let"
  let _ ← alternatives g
  signs "="
  let left ← g (.operand structs)
  let _ ← g (.operation structs .compare left)

/-! ## Operands -/

/-- The smallest expressions. -/
def atom (structs : Bool) : Reader Shape := do
  let asyncBlock := (← peekWord "async") && ((← peekAt 1 (isGroup .curly)) ||
    ((← peekAt 1 (isWord "move")) && (← peekAt 2 (isGroup .curly))))
  if ← peekLiteral then
    literal
    return .other
  else if asyncBlock then
    skip 1
    let _ ← tryWord "move"
    plainBlock g
    return .other
  else if ← startsClosure then
    closure g structs
    return .other
  else if (← peekWord "builtin") && (← peekSignsAt 1 "#") then
    skip 2
    let _ ← name
    anyGroup .round
    return .other
  else if (← startsPath) ||
      ((← peekWord "try") && ((← peekSignsAt 1 "!") || (← peekSignsAt 1 "::"))) then
    pathExpression g structs
  else if ← peek (isGroup .round) then
    group .round (commaSeparated (expression g))
    return .other
  else if ← tryWord "break" then
    breakRest g structs
    return .other
  else if ← tryWord "continue" then
    let _ ← tryTake isLifetime
    return .other
  else if ← tryTake (isOneOf ["return", "yield"]) then
    jumpValue g
    return .other
  else if ← tryWord "become" then
    expression g
    return .other
  else if ← peek (isGroup .square) then
    group .square (arrayBody g)
    return .other
  else if ← peekWord "let" then
    letCondition g structs
    return .other
  else if ← blockLike? g then return .block
  else if ← peekSigns ".." then
    rangeTail g structs
    return .range
  else if ← tryWord "_" then return .other
  else fail

/-- An atom with the signs before it and the trailers behind it. A range that starts
with its dots takes no attributes. -/
def readOperand (structs : Bool) : Reader Shape := do
  let attributed ← attributes g
  if ← trySigns "&" then
    let raw := (← peekWord "raw") && (← peekAt 1 (isOneOf ["mut", "const"]))
    if raw then skip 2 else let _ ← tryWord "mut"
    let _ ← g (.operand structs)
    return .other
  else if ← peekAnySigns ["*", "!", "-"] then
    skip 1
    let _ ← g (.operand structs)
    return .other
  else
    let start ← here
    let shape ← trailers g (← atom g structs)
    if attributed && shape == .range then throw start
    return shape

/-- An expression that ends where a statement or a case of a match would: a block at
its start is not the left operand of an operator. -/
def readBounded : Reader Shape := do
  let _ ← attributes g
  if ← blockLike? g then
    if (← peekDot) || (← peekSigns "?") then
      let left ← trailers g .block
      g (.operation true .jump left)
    else return .block
  else
    let left ← g (.operand true)
    g (.operation true .jump left)

end EnumFamily.Source.Reader
