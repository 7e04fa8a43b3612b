import EnumFamily.Source.ExpressionReader

/-!
# Reading statements

The inside of a block: semicolons, declarations with `let`, items, macro calls
and expressions. An expression that is no block needs a semicolon unless it is
the last statement.
-/
namespace EnumFamily.Source.Reader

variable (g : Grammar)

/-- Reads, and tells whether the last tree that was taken is a group in curly brackets. -/
def endsCurly (r : Reader Unit) : Reader Bool := do
  let before ← ahead
  r
  let taken := before.take (before.length - (← ahead).length)
  return taken.getLast?.any (isGroup .curly)

/-- A declaration with `let`. An `else` does not go with a value that ends with a
curly bracket. -/
def letStatement : Reader Unit := do
  word "let"
  let _ ← g .pattern
  if ← trySigns ":" then let _ ← g (.type true)
  if ← trySigns "=" then
    let curly ← endsCurly (expression g)
    if !curly && (← peekWord "else") then
      skip 1
      plainBlock g
  signs ";"

/-- How a macro call at the front of a statement goes on. -/
inductive MacroStatement where
  /-- it is given a name: an item -/
  | item
  /-- it has curly brackets and nothing behind them that would make it an operand -/
  | statement
  | none
deriving DecidableEq

/-- Looks behind a path and an exclamation mark without taking anything. -/
def macroStatement : Reader MacroStatement := do
  let s ← get
  let found ← attempt plainPath
  let called ← peekSigns "!"
  let named ← peekAt 1 fun t => isName t || isWord "try" t
  let curly ← peekAt 1 (isGroup .curly)
  let operand := ((← peekSignsAt 2 ".") && !(← peekSignsAt 2 "..")) || (← peekSignsAt 2 "?")
  set s
  return if found.isNone || !called then .none
    else if named then .item
    else if curly && !operand then .statement
    else .none

/-- A keyword that starts an item comes next, and not an expression that starts
with the same word. -/
def startsItem : Reader Bool := do
  let curly ← peekAt 1 (isGroup .curly)
  let second (ws : List String) : Reader Bool := peekAt 1 (isOneOf ws)
  let functionMark (n : Nat) : Reader Bool := peekAt n (isOneOf ["unsafe", "extern", "fn"])
  match (← ahead).head? with
  | some (.word _ w) =>
    if ["pub", "extern", "use", "fn", "mod", "type", "struct", "enum", "trait", "impl",
        "macro"].contains w then return true
    else if w == "crate" then return !(← peekSignsAt 1 "::")
    else if w == "static" then return (← second ["mut"]) || (← peekAt 1 isName)
    else if w == "const" then
      let asyncClosure := (← second ["async"]) && !(← functionMark 2)
      return !(curly || asyncClosure || (← second ["static", "move"]) || (← peekSignsAt 1 "|"))
    else if w == "unsafe" then return !curly
    else if w == "async" then functionMark 1
    else if w == "union" then peekAt 1 isName
    else if w == "auto" then second ["trait"]
    else if w == "default" then second ["unsafe", "impl"]
    else return false
  | _ => return false

/-- One statement; true if only the end of the block may follow. -/
def statement : Reader Bool := do
  let _ ← attributes g
  let call ← macroStatement
  if call == .statement then
    let _ ← macroCall
    let _ ← trySigns ";"
    return false
  else if ← peekWord "let" then
    letStatement g
    return false
  else if call == .item || (← startsItem) then
    let _ ← g .item
    return false
  else
    let shape ← g .bounded
    let ended ← trySigns ";"
    return !ended && shape != .block && shape != .curlyMacro

/-- The statements of a block. -/
def readStatements : Reader Unit := loop do
  loop (trySigns ";")
  if ← atEnd then return false
  let final ← statement g
  if ← atEnd then return false
  if final then fail
  return true

end EnumFamily.Source.Reader
