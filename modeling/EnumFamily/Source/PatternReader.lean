import EnumFamily.Source.PathReader

/-!
# Reading patterns

One pattern is a phrase of its own; alternatives with bars between them are for
the places that take them.
-/
namespace EnumFamily.Source.Reader

variable (g : Grammar)

/-! ## Ranges -/

/-- The dots of a range, and whether its upper end has to follow. The three dots of
old are for patterns. -/
def rangeDots (threeDots : Bool) : Reader Bool := do
  if ← trySigns "..=" then return true
  if ← peekSigns "..." then
    if threeDots then
      skip 3
      return true
    else fail
  signs ".."
  return false

/-- An end of a range in a pattern, if there is one: a literal, a path or a block. -/
def rangeEnd : Reader Bool := do
  if (← atEnd) || (← peekAnySigns ["|", "=", ",", ";"]) || (← peekColon) || (← peekWord "if") then
    return false
  if ← peekLiteral then literal
  else if ← startsPath then let _ ← qualifiedPath g true
  else
    word "const"
    block g
  return true

/-- The dots and the upper end of a range, and whether it has one. -/
def rangeRest (threeDots : Bool) : Reader Bool := do
  let closed ← rangeDots threeDots
  let ended ← rangeEnd g
  if closed && !ended then fail
  return ended

/-- What follows the lower end of a range, which may be open above. -/
def fromLowerEnd : Reader PatternShape := do
  let dots ← here
  return if ← rangeRest g true then .other else .openRange dots

/-! ## Parts of patterns -/

/-- Patterns with bars between them; one may also stand before the first. -/
def alternatives : Reader PatternShape := do
  let leading ← trySigns "|"
  let first ← g .pattern
  let isBar : Reader Bool := return (← peekSigns "|") && !(← peekAnySigns ["||", "|="])
  let several := leading || (← isBar)
  loop do
    if ← isBar then
      signs "|"
      let _ ← g .pattern
      return true
    else return false
  return if several then .other else first

/-- A member of a structure: a name, or its number. -/
def member : Reader Bool := do
  match ← ahead with
  | .literal _ (.number digits) :: _ =>
    match integerValue? digits with
    | some n =>
      if n < 0x100000000 then
        skip 1
        return false
      else fail
    | none => fail
  | _ =>
    let _ ← name
    return true

/-- A field in the pattern of a structure. -/
def fieldPattern : Reader Unit := do
  let boxed ← tryWord "box"
  let byRef ← tryWord "ref"
  let mutable ← tryWord "mut"
  if boxed || byRef || mutable then let _ ← name
  else
    let named ← member
    if !named || (← peekSigns ":") then
      signs ":"
      let _ ← alternatives g

/-- The fields in the pattern of a structure; two dots stand for the rest. -/
def fieldPatterns : Reader Unit := loop do
  if ← atEnd then return false
  let _ ← attributes g
  if ← trySigns ".." then return false
  fieldPattern g
  if ← atEnd then return false
  signs ","
  return true

/-- The elements of a slice. A range that is open has to be in round brackets. -/
def slicePattern : Reader Unit := commaSeparated do
  match ← alternatives g with
  | .openRange dots => throw dots
  | .other => pure ()

/-- A name, perhaps with the pattern that its value has to match. -/
def namePattern : Reader Unit := do
  let _ ← tryWord "ref"
  let _ ← tryWord "mut"
  if ← peekWord "self" then skip 1 else let _ ← name
  if ← trySigns "@" then let _ ← g .pattern

/-- A pattern that starts with a path. -/
def pathPattern : Reader PatternShape := do
  let p ← qualifiedPath g true
  if (← peekSigns "!") && !(← peekSigns "!=") && p.any (!·.hasArguments) then
    skip 1
    let _ ← delimited
    return .other
  if ← peek (isGroup .curly) then
    group .curly (fieldPatterns g)
    return .other
  else if ← peek (isGroup .round) then
    group .round <| commaSeparated do
      let _ ← alternatives g
    return .other
  else if ← peekSigns ".." then fromLowerEnd g
  else return .other

/-- A path, and not just a name, starts here. -/
def startsPathPattern : Reader Bool := do
  let named ← peek isName
  let goesOn := (← peekSignsAt 1 "::") || (← peekSignsAt 1 "!") || (← peekSignsAt 1 "..") ||
    (← peekAt 1 fun t => isGroup .curly t || isGroup .round t)
  let ofSelf := (← peekWord "self") && (← peekSignsAt 1 "::")
  return (named && goesOn) || ofSelf || (← peekAnySigns ["::", "<"]) ||
    (← peek (isOneOf ["Self", "super", "crate"]))

/-! ## Patterns -/

def readPattern : Reader PatternShape := do
  if ← startsPathPattern then pathPattern g
  else if ← tryWord "_" then return .other
  else if ← tryWord "box" then
    let _ ← g .pattern
    return .other
  else if (← peekSigns "-") || (← peekLiteral) || (← peekWord "const") then
    unless ← rangeEnd g do fail
    if ← peekSigns ".." then fromLowerEnd g else return .other
  else if ← peek (fun t => isName t || isOneOf ["ref", "mut", "self"] t) then
    namePattern g
    return .other
  else if ← trySigns "&" then
    let _ ← tryWord "mut"
    let _ ← g .pattern
    return .other
  else if ← peek (isGroup .round) then
    group .round <| commaSeparated do
      let _ ← alternatives g
    return .other
  else if ← peek (isGroup .square) then
    group .square (slicePattern g)
    return .other
  else if (← peekSigns "..") && !(← peekSigns "...") then
    let dots ← here
    return if ← rangeRest g false then .openRange dots else .other
  else fail

end EnumFamily.Source.Reader
