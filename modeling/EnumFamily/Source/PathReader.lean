import EnumFamily.Source.Phrase

/-!
# Reading attributes, blocks and paths

Paths come in two styles: in types, an angle bracket behind a segment opens
arguments; in expressions and patterns, colons have to stand before it.
-/
namespace EnumFamily.Source.Reader

variable (g : Grammar)

/-! ## Attributes -/

/-- The inside of an attribute: a path, and what it may be given. -/
def attributeBody : Reader Unit := do
  if ← tryWord "unsafe" then pure () else let _ ← plainPath
  match ← ahead with
  | .group .. :: _ => skip 1
  | _ =>
    if (← peekSigns "=") && !(← peekAnySigns ["==", "=>"]) then
      signs "="
      if (← peekSigns "#") && (← peekAt 1 (isGroup .square)) then fail
      let _ ← g (.expression true)

/-- Attributes of what follows; true if there are any. -/
def attributes : Reader Bool := do
  let found ← peekSigns "#"
  loop do
    if ← trySigns "#" then
      group .square (attributeBody g)
      return true
    else return false
  return found

/-- Attributes of the enclosing item or block. -/
def innerAttributes : Reader Unit := loop do
  if (← peekSigns "#") && (← peekAt 1 (isSign '!')) then
    skip 2
    group .square (attributeBody g)
    return true
  else return false

/-! ## Blocks -/

/-- A block of statements. -/
def plainBlock : Reader Unit := group .curly (g .statements)

/-- A block that may start with attributes of its own. -/
def block : Reader Unit := group .curly do
  innerAttributes g
  g .statements

/-- A constant as an argument: a literal, a name or a block. -/
def constArgument : Reader Unit := do
  if ← peekLiteral then literal
  else if ← tryTake isName then pure ()
  else block g

/-! ## Arguments in angle brackets -/

/-- Bounds with plus signs between them, up to where `done` holds; a plus sign may
also be the last. -/
def boundsTill (done : Reader Bool) (bound : Reader Unit) : Reader Unit := loop do
  if ← done then return false
  bound
  trySigns "+"

/-- A bound that holds no capture list. -/
def plainBound : Reader Unit := do
  let _ ← g (.bound false true)

/-- One argument: a lifetime, a constant, a type, or a named type with its
definition or its bounds. -/
def argument : Reader Unit := do
  if (← peek isLifetime) && !(← peekAt 1 (isSign '+')) then skip 1
  else if (← peekLiteral) || (← peek (isGroup .curly)) then constArgument g
  else
    match ← g (.type true) with
    | .path p =>
      if p.rooted || p.segments.length != 1 then pure ()
      else if ← trySigns "=" then
        if (← peekLiteral) || (← peek (isGroup .curly)) then constArgument g
        else let _ ← g (.type true)
      else if ← trySigns ":" then
        boundsTill (peekAnySigns [",", ">"]) (plainBound g)
    | _ => pure ()

/-- Arguments in angle brackets; true if there are any. -/
def arguments : Reader Bool := do
  signs "<"
  let found := !(← peekSigns ">")
  angled (argument g)
  return found

/-! ## Paths -/

/-- What behind a segment opens its arguments. -/
def opensArguments (expressive : Bool) : Reader Bool := do
  let plain := !expressive && (← peekSigns "<") && !(← peekAnySigns ["<=", "<<="])
  return plain || ((← peekSigns "::") && (← peekAt 2 (isSign '<')))

/-- A path that grows by one segment. -/
def segment (expressive : Bool) (p : ReadPath) : Reader ReadPath := do
  if ← peek (isOneOf ["super", "self", "crate", "try"]) then
    return { p with segments := p.segments ++ [← anyWord], endsBare := true }
  let w ← if ← peekWord "Self" then anyWord else name
  let p := { p with segments := p.segments ++ [w] }
  if ← opensArguments expressive then
    let _ ← trySigns "::"
    return { p with hasArguments := true, endsBare := !(← arguments g) }
  else return { p with endsBare := true }

/-- Further segments of a path. Colons before round brackets are none of its own. -/
def moreSegments (expressive : Bool) (p : ReadPath) : Reader ReadPath :=
  iterate p fun p => do
    if (← peekSigns "::") && !(← peekAt 2 (isGroup .round)) then
      signs "::"
      return some (← segment g expressive p)
    else return none

def noSegments (rooted : Bool) : ReadPath :=
  { segments := [], rooted, hasArguments := false, endsBare := true }

/-- A path without a qualified self. -/
def path (expressive : Bool) : Reader ReadPath := do
  let rooted ← trySigns "::"
  moreSegments g expressive (← segment g expressive (noSegments rooted))

/-- A path that may start with a type in angle brackets; then there is no path to
tell. -/
def qualifiedPath (expressive : Bool) : Reader (Option ReadPath) := do
  if ← trySigns "<" then
    let _ ← g (.type true)
    if ← tryWord "as" then let _ ← path g false
    signs ">"
    loop do
      signs "::"
      let _ ← segment g expressive (noSegments false)
      peekSigns "::"
    return none
  else return some (← path g expressive)

/-- A path may start here. -/
def startsPath : Reader Bool := do
  return (← peek fun t => isName t || isPathWord t) || (← peekAnySigns ["::", "<"])

end EnumFamily.Source.Reader
