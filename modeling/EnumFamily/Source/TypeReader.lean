import EnumFamily.Source.PathReader

/-!
# Reading types, bounds and parameters

Types and bounds are read to their end and reduced to what is asked of them
later. A path in a type has arguments in angle brackets only; round ones are for
bounds.
-/
namespace EnumFamily.Source.Reader

variable (g : Grammar)

/-! ## Parameters -/

/-- A lifetime as a parameter, with the lifetimes it outlives. -/
def lifetimeParameter : Reader Unit := do
  take isLifetime
  if ← trySigns ":" then
    boundsTill (return (← atEnd) || (← peekAnySigns [",", ">"])) (take isLifetime)

def typeParameter : Reader Unit := do
  let _ ← name
  if ← trySigns ":" then
    boundsTill (return (← atEnd) || (← peekAnySigns [",", ">", "="])) (plainBound g)
  if ← trySigns "=" then let _ ← g (.type true)

def constantParameter : Reader Unit := do
  word "const"
  let _ ← name
  signs ":"
  let _ ← g (.type true)
  if ← trySigns "=" then constArgument g

/-- One parameter: a lifetime, a constant or a type. -/
def parameter : Reader Unit := do
  let _ ← attributes g
  if ← peek isLifetime then lifetimeParameter
  else if ← peekWord "const" then constantParameter g
  else typeParameter g

/-- Optional parameters in angle brackets; here an underscore may stand for one. -/
def parameters : Reader Bool := do
  if ← trySigns "<" then
    angled do
      let _ ← attributes g
      unless ← tryWord "_" do parameter g
    return true
  else return false

/-- Optional parameters of a bound or a function type: `for<...>`. -/
def binder : Reader Bool := do
  if ← tryWord "for" then
    signs "<"
    angled (parameter g)
    return true
  else return false

/-- The trees start with parameters, and not with a qualified path: the two look
alike up to what follows the first name. -/
def opensParameters (ts : List Tree) : Bool :=
  match ts with
  | .sign _ '<' _ :: t :: rest =>
    isSign '>' t || isSign '#' t || isWord "const" t ||
      ((isLifetime t || isName t) &&
        (startsWithSigns ['>'] rest || startsWithSigns [','] rest || startsWithSigns ['='] rest ||
          (startsWithSigns [':'] rest && !startsWithSigns [':', ':'] rest)))
  | _ => false

/-! ## Conditions -/

/-- The end of a condition or of its bounds. -/
def endsCondition : Reader Bool := do
  return (← atEnd) || (← peek (isGroup .curly)) || (← peekAnySigns [",", ";", "="]) || (← peekColon)

/-- A condition on a lifetime or a type. -/
def condition : Reader Unit := do
  if (← peek isLifetime) && (← peekAt 1 (isSign ':')) then
    skip 2
    boundsTill (return (← endsCondition) || (← peekSigns ":")) (take isLifetime)
  else
    let _ ← binder g
    let _ ← g (.type true)
    signs ":"
    boundsTill endsCondition (plainBound g)

/-- An optional `where` with its conditions. It takes no parameters. -/
def conditions : Reader Bool := do
  if ← tryWord "where" then
    if opensParameters (← ahead) then fail
    loop do
      if ← endsCondition then return false
      condition g
      trySigns ","
    return true
  else return false

/-! ## Bounds -/

/-- An optional result type. -/
def returnType (plus : Bool) : Reader Unit := do
  if ← trySigns "->" then let _ ← g (.type plus)

/-- Arguments in round brackets and a result behind the path of a trait. -/
def roundArguments (p : ReadPath) : Reader Unit := do
  if p.endsBare then
    if (← peek (isGroup .round)) || ((← peekSigns "::") && (← peekAt 2 (isGroup .round))) then
      let _ ← trySigns "::"
      group .round <| commaSeparated do
        let _ ← g (.type true)
      returnType g false

/-- A trait as a bound, with its marks. A binder and a question mark exclude each
other. -/
def traitBound (constant : Bool) : Reader ReadBound := do
  let bound ← binder g
  let start ← here
  let marked ←
    if ← peek (isGroup .square) then
      group .square (word "const")
      pure true
    else tryWord "const"
  if marked && !constant then throw start
  let mark ← here
  let maybe ← trySigns "?"
  let bound ← if maybe && !bound then binder g else pure bound
  let p ← path g false
  roundArguments g p
  if bound && maybe then throw mark
  return if marked then .constant else .supertrait p.segments

/-- What a hidden type captures: lifetimes and names. -/
def captureList : Reader Unit := do
  word "use"
  signs "<"
  angled (take fun t => isLifetime t || isName t || isWord "Self" t)

/-- One bound: a lifetime, a capture list, or a trait, perhaps in round brackets. -/
def readBound (capture constant : Bool) : Reader ReadBound := do
  if ← tryTake isLifetime then return .lifetime
  if ← peekWord "use" then
    let start ← here
    captureList
    if capture then return .capture else throw start
  if ← peek (isGroup .round) then group .round (traitBound g constant) else traitBound g constant

/-- A bound may follow a plus sign here. -/
def startsBound (constant : Bool) : Reader Bool := do
  return (← peek fun t => isAnyWord t || isLifetime t || isGroup .round t) ||
    (← peekAnySigns ["::", "?"]) || (constant && (← peek (isGroup .square)))

/-- One or more bounds; without `plus`, one. -/
def severalBounds (plus capture constant : Bool) : Reader (List ReadBound) := do
  let first ← g (.bound capture constant)
  if !plus then return [first]
  let found ← iterate [first] fun done => do
    if (← trySigns "+") && (← startsBound constant) then
      return some ((← g (.bound capture constant)) :: done)
    else return none
  return found.reverse

/-- The bounds of a trait object, whose keyword or first bound is at `start`. One of
them has to be a trait. -/
def objectBounds (start : Pos) (plus : Bool) : Reader Unit := do
  let found ← severalBounds g plus false false
  if found.all (· == .lifetime) then throw start

/-- The bounds of a hidden type, whose keyword is at `start`. -/
def hiddenBounds (start : Pos) (plus : Bool) : Reader Unit := do
  let found ← severalBounds g plus true true
  if found.all fun b => b == .lifetime || b == .capture then throw start

/-! ## Types -/

/-- Bounds behind plus signs, each of which needs one; as a type, together with the
bound before them. -/
def furtherBounds : Reader ReadType := do
  let single := !(← peekSigns "+")
  loop do
    if ← trySigns "+" then
      let _ ← g (.bound false false)
      return true
    else return false
  return .bounds single

/-- Bounds behind plus signs, the last of which may have none; as a type, together
with the bound before them. -/
def looseBounds : Reader ReadType := do
  let single := !(← peekSigns "+")
  loop do
    if (← trySigns "+") && (← startsBound false) then
      let _ ← g (.bound false false)
      return true
    else return false
  return .bounds single

/-- The inside of round brackets as a type: nothing, a bound, a type, or a list of
types. -/
def roundBody : Reader ReadType := do
  if ← atEnd then return .other
  if ← peek isLifetime then
    objectBounds g (← here) true
    return .paren .other
  if ← peekSigns "?" then
    let _ ← traitBound g false
    return .bounds true
  let first ← g (.type true)
  if ← trySigns "," then
    commaSeparated do
      let _ ← g (.type true)
    return .other
  return .paren first

/-- A type that starts with round brackets. -/
def roundType (plus : Bool) : Reader ReadType := do
  let inside ← group .round (roundBody g)
  let goesOn := plus && (← peekSigns "+")
  match inside with
  | .bounds _ => furtherBounds g
  | .paren (.path _) => if goesOn then furtherBounds g else return inside
  | .paren (.bounds true) => if goesOn then furtherBounds g else return inside
  | _ => return inside

/-- An argument of a function type: a type, perhaps with a name. The first may be the
object itself. -/
def functionArgument (first : Bool) : Reader Unit := do
  let _ ← attributes g
  let mutSelf ←
    if first && (← peekWord "mut") && (← peekAt 1 (isWord "self")) then tryWord "mut"
    else pure false
  let colon := (← peekSignsAt 1 ":") && !(← peekSignsAt 1 "::")
  let named := colon && (← peek fun t => isName t || isWord "_" t)
  let ofSelf := colon && first && (← peekWord "self")
  if named || ofSelf then skip 2
  if first && !ofSelf && (← peekWord "mut") && (← peekAt 1 (isWord "self")) then skip 2
  else if mutSelf && !named && !ofSelf then word "self"
  else let _ ← g (.type true)

/-- A function type may take any number of arguments at its end. -/
def startsRest : Reader Bool := do
  return (← peekSigns "...") ||
    ((← peek fun t => isName t || isWord "_" t) && (← peekSignsAt 1 ":") && (← peekSignsAt 2 "..."))

def functionArguments : Reader Unit := do
  let _ ← iterate true fun first => do
    if ← atEnd then return none
    let _ ← attributes g
    if ← startsRest then
      if !(← peekSigns "...") then skip 2
      signs "..."
      let _ ← trySigns ","
      return none
    functionArgument g first
    if ← atEnd then return none
    signs ","
    return some false

/-- A function type. -/
def functionType : Reader Unit := do
  let _ ← tryWord "unsafe"
  if ← peekWord "extern" then interface
  word "fn"
  group .round (functionArguments g)
  returnType g false

/-- A type that starts with a path: the path, a macro call, or bounds. -/
def pathType (bound plus : Bool) : Reader ReadType := do
  match ← qualifiedPath g false with
  | none => return .other
  | some p =>
    if (← peekSigns "!") && !(← peekSigns "!=") && !p.hasArguments then
      skip 1
      let _ ← delimited
      return .other
    if plus && (bound || (← peekSigns "+")) then looseBounds g
    else return if bound then .bounds true else .path p

/-- A type behind its binder. With `plus`, bounds may follow behind plus signs. -/
def readType (plus : Bool) : Reader ReadType := do
  let bound ← binder g
  if bound && !(← peek fun t => isName t || isPathWord t || isOneOf ["fn", "unsafe", "extern"] t)
  then fail
  let start ← here
  if ← peek (isGroup .round) then roundType g plus
  else if ← peek (isOneOf ["fn", "unsafe", "extern"]) then
    functionType g
    return .other
  else if ← startsPath then pathType g bound plus
  else if ← tryWord "dyn" then
    let _ ← trySigns "*"
    objectBounds g start plus
    return .other
  else if ← peek (isGroup .square) then
    group .square do
      let _ ← g (.type true)
      if ← trySigns ";" then let _ ← g (.expression true)
    return .other
  else if ← trySigns "*" then
    take (isOneOf ["const", "mut"])
    let _ ← g (.type false)
    return .other
  else if ← trySigns "&" then
    let _ ← tryTake isLifetime
    let _ ← tryWord "mut"
    let _ ← g (.type false)
    return .other
  else if ← tryWord "impl" then
    hiddenBounds g start plus
    return .other
  else if ← tryTake (fun t => isSign '!' t || isWord "_" t) then return .other
  else if ← peek isLifetime then
    objectBounds g start true
    return .bounds false
  else fail

end EnumFamily.Source.Reader
