import EnumFamily.Source.StatementReader

/-!
# Reading items

The items of a file, a module, a trait, an implementation block and a block of
foreign items. What the analysis looks at is kept; the rest has to follow the
grammar all the same.
-/
namespace EnumFamily.Source.Reader

variable (g : Grammar)

/-! ## Fields and variants -/

/-- The type of a field, or the fields of a nameless structure or union (for a
field without a name). -/
def fieldType (nameless : Bool) (fields : Reader Unit) : Reader Unit := do
  if nameless && ((← peekWord "struct") || ((← peekWord "union") && (← peekAt 1 (isGroup .curly))))
  then
    skip 1
    fields
  else let _ ← g (.type true)

/-- Fields with names, at most `depth` levels inside each other. -/
def namedFieldsUpTo (depth : Nat) : Reader Unit :=
  match depth with
  | 0 => fail
  | depth + 1 => group .curly <| commaSeparated do
    let _ ← attributes g
    let _ ← visibility
    let nameless ← peekWord "_"
    let _ ← nameOrBlank
    signs ":"
    fieldType g nameless (namedFieldsUpTo depth)

/-- The number of groups that the trees are inside of each other, at most. -/
def depthOf : List Tree → Nat
  | [] => 0
  | .group _ _ _ inside :: ts => max (depthOf inside + 1) (depthOf ts)
  | _ :: ts => depthOf ts

def namedFields : Reader Unit := do namedFieldsUpTo g (depthOf ((← ahead).take 1) + 1)

def positionalFields : Reader Unit := group .round <| commaSeparated do
  let _ ← attributes g
  let _ ← visibility
  let _ ← g (.type true)

def variant : Reader Unit := do
  let _ ← attributes g
  let _ ← visibility
  let _ ← name
  if ← peek (isGroup .curly) then namedFields g
  else if ← peek (isGroup .round) then positionalFields g
  if ← trySigns "=" then expression g

/-! ## Type declarations -/

/-- What follows the name and parameters of a structure. -/
def structureBody : Reader Unit := do
  let early ← conditions g
  if !early && (← peek (isGroup .round)) then
    positionalFields g
    let _ ← conditions g
    signs ";"
  else if ← peek (isGroup .curly) then namedFields g
  else signs ";"

/-- The name of a declared type and the line of that name, then its parameters. -/
def typeHead (keyword : String) : Reader Item := do
  let _ ← visibility
  word keyword
  let (n, p) ← nameAt
  let _ ← parameters g
  return .type n p.line

def structureItem : Reader Item := do
  let item ← typeHead g "struct"
  structureBody g
  return item

def enumerationItem : Reader Item := do
  let item ← typeHead g "enum"
  let _ ← conditions g
  group .curly (commaSeparated (variant g))
  return item

def unionItem : Reader Item := do
  let item ← typeHead g "union"
  let _ ← conditions g
  namedFields g
  return item

/-! ## Functions -/

/-- The trees that may stand before `fn`: how many of them there are. A foreign
function may be marked `safe`. -/
def functionMarks (foreign : Bool) (ts : List Tree) : Nat :=
  let after (ws : List String) (n : Nat) : Nat := if ts[n]?.any (isOneOf ws) then n + 1 else n
  let n := after (if foreign then ["safe", "unsafe"] else ["unsafe"])
    (after ["async"] (after ["const"] 0))
  let m := after ["extern"] n
  if m = n then n else if ts[m]?.any isText then m + 1 else m

/-- A function starts here. -/
def startsFunction (foreign : Bool) (ts : List Tree) : Bool :=
  ts[functionMarks foreign ts]?.any (isWord "fn")

/-- The object that a method is called on, as an argument. -/
def receiver : Reader Unit := do
  let reference ← trySigns "&"
  if reference then let _ ← tryTake isLifetime
  let _ ← tryWord "mut"
  word "self"
  if !reference then
    if ← trySigns ":" then let _ ← g (.type true)

/-- What an argument of a function is. -/
inductive ArgumentKind where
  | receiver
  | typed
  /-- any number of further arguments -/
  | rest
deriving DecidableEq

/-- An argument with a pattern and a type. -/
def typedArgument : Reader ArgumentKind := do
  if (← peek isName) && (← peekSignsAt 1 "<") then
    let _ ← g (.type true)
    return .typed
  let _ ← g .pattern
  signs ":"
  if ← trySigns "..." then return .rest
  let _ ← g (.type true)
  return .typed

/-- One argument behind its attributes. -/
def functionParameter : Reader ArgumentKind := do
  if ← trySigns "..." then return .rest
  match ← attempt (receiver g) with
  | some _ => return .receiver
  | none => typedArgument g

/-- The word `self` in an argument that starts at `ts`. -/
def selfPosition (ts : List Tree) : Option Pos := (ts.find? (isWord "self")).map Tree.pos

/-- The arguments of a function. The object of a method comes first, and what takes
any number of arguments last. -/
def functionParameters : Reader Unit := do
  let _ ← iterate true fun first => do
    if ← atEnd then return none
    let _ ← attributes g
    let ts ← ahead
    match ← functionParameter g with
    | .rest =>
      if !(← atEnd) then signs ","
      return none
    | .receiver =>
      if !first then throw ((selfPosition ts).getD (← here))
    | .typed => pure ()
    if ← atEnd then return none
    signs ","
    return some false

/-- A function behind the words that may stand before `fn`, up to its body. -/
def signatureRest : Reader Unit := do
  word "fn"
  let _ ← name
  let _ ← parameters g
  group .round (functionParameters g)
  returnType g true
  let _ ← conditions g

/-- A function up to its body. -/
def signature (foreign : Bool) : Reader Unit := do
  skip (functionMarks foreign (← ahead))
  signatureRest g

/-- A body, or a semicolon in its place. -/
def bodyOrNone : Reader Unit := do
  unless ← trySigns ";" do block g

/-! ## Constants, aliases, macros -/

/-- A constant behind its keyword; the name if it has a value and neither
parameters nor conditions. -/
def constantRest : Reader (Option String) := do
  let n ← nameOrBlank
  let generic ← parameters g
  signs ":"
  let _ ← g (.type true)
  let valued ← trySigns "="
  if valued then expression g
  let conditional ← conditions g
  signs ";"
  return if valued && !generic && !conditional then some n else none

def staticItem : Reader Unit := do
  let _ ← visibility
  word "static"
  let _ ← tryWord "mut"
  let _ ← name
  if ← trySigns "=" then expression g
  else
    signs ":"
    let _ ← g (.type true)
    if !(← peekSigns ";") then
      signs "="
      expression g
  signs ";"

/-- Bounds that a plus sign has to separate, up to where `done` holds. -/
def strictBounds (constant : Bool) (done : Reader Bool) : Reader (List Bound) := do
  let found ← iterate ([], true) fun (bounds, more) => do
    if !more || (← done) then return none
    let b ← g (.bound false constant)
    let more := !(← done)
    if more then signs "+"
    return some (b.toBound :: bounds, more)
  return found.1.reverse

/-- Where the conditions of a type alias may stand. -/
inductive ConditionPlace where
  | beforeDefinition
  | afterDefinition
  | either
deriving DecidableEq

/-- A type alias behind its keyword. -/
def aliasRest (place : ConditionPlace) : Reader Unit := do
  let _ ← name
  let _ ← parameters g
  if ← trySigns ":" then
    let _ ← strictBounds g true (return (← peekWord "where") || (← peekAnySigns ["=", ";"]))
  let early ← if place != .afterDefinition then conditions g else pure false
  if ← trySigns "=" then let _ ← g (.type true)
  if place != .beforeDefinition && !early then let _ ← conditions g
  signs ";"

/-- A macro call as an item inside another: a semicolon follows unless it has curly
brackets. -/
def macroItem : Reader Unit := do
  if (← macroCall) != .curly then signs ";"

/-- A macro call as an item of its own, which may be given a name. -/
def namedMacroItem : Reader Unit := do
  let _ ← plainPath
  signs "!"
  let _ ← tryTake fun t => isName t || isWord "try" t
  if (← delimited) != .curly then signs ";"

def macroDefinition : Reader Unit := do
  let _ ← visibility
  word "macro"
  let _ ← name
  if ← peek (isGroup .round) then anyGroup .round
  anyGroup .curly

/-- The trees start with a macro call, as far as their first tree shows. -/
def startsMacroCall (ts : List Tree) : Bool :=
  ts.head?.any (fun t => isName t || isOneOf ["self", "super", "crate"] t) ||
    startsWithSigns [':', ':'] ts

/-! ## Imports and foreign items -/

/-- What an import names: a path, a star, or a list in curly brackets. Entries of a
list may start with colons (`rooted`), unless a path or colons stand before the
list. `depth` bounds the trees and groups on the way. -/
def importTree (depth : Nat) (rooted : Bool) : Reader Unit :=
  match depth with
  | 0 => fail
  | depth + 1 => do
    if ← tryTake (fun t => isName t || isOneOf ["self", "super", "crate", "try"] t) then
      if ← trySigns "::" then importTree depth false
      else if ← tryWord "as" then let _ ← nameOrBlank
    else if ← trySigns "*" then pure ()
    else
      group .curly <| commaSeparated do
        let colons ← if rooted then trySigns "::" else pure false
        importTree depth (rooted && !colons)

/-- The number of trees, those inside groups included. -/
def countTrees : List Tree → Nat
  | [] => 0
  | .group _ _ _ inside :: ts => 1 + countTrees inside + countTrees ts
  | _ :: ts => 1 + countTrees ts

def importItem : Reader Unit := do
  let _ ← visibility
  word "use"
  let colons ← trySigns "::"
  let ts := (← ahead).takeWhile (!isSign ';' ·)
  importTree (countTrees ts + 1) (!colons)
  signs ";"

/-- An import of a package. -/
def packageImport : Reader Unit := do
  let _ ← visibility
  word "extern"
  word "crate"
  if ← peekWord "self" then skip 1 else let _ ← name
  if ← tryWord "as" then let _ ← nameOrBlank
  signs ";"

/-- A variable that is defined elsewhere. -/
def foreignStatic : Reader Unit := do
  let _ ← tryTake (isOneOf ["unsafe", "safe"])
  word "static"
  let _ ← tryWord "mut"
  let _ ← name
  signs ":"
  let _ ← g (.type true)
  if ← trySigns "=" then expression g
  signs ";"

/-- One foreign item: a function, a variable, a type or a macro call. -/
def foreignItem : Reader Unit := do
  let _ ← attributes g
  let visible ← visibility
  let ts ← ahead
  let marked := ts.head?.any (isOneOf ["unsafe", "safe"]) && ts[1]?.any (isWord "static")
  if startsFunction true ts then
    signature g true
    if ← peek (isGroup .curly) then block g else signs ";"
  else if marked || ts.head?.any (isWord "static") then foreignStatic g
  else if ← tryWord "type" then aliasRest g .either
  else if !visible && startsMacroCall ts then macroItem
  else fail

/-- A block of foreign items. It has no visibility of its own. -/
def foreignBlock : Reader Unit := do
  let _ ← tryWord "unsafe"
  interface
  group .curly do
    innerAttributes g
    let _ ← many (foreignItem g)

/-! ## Traits -/

/-- An item of a trait body. -/
def traitItem : Reader Unit := do
  let _ ← attributes g
  let visible ← visibility
  let default_ ← tryWord "default"
  let ts ← ahead
  let marked := ts[1]?.any (isOneOf ["async", "unsafe", "extern", "fn"])
  if startsFunction false ts || (ts.head?.any (isWord "const") && marked) then
    signature g false
    bodyOrNone g
  else if ← tryWord "const" then
    let _ ← constantRest g
  else if ← tryWord "type" then aliasRest g .afterDefinition
  else if !visible && !default_ && startsMacroCall ts then macroItem
  else fail

/-- What follows the name and parameters of a trait. -/
def traitRest (n : String) : Reader Item := do
  let bounds ←
    if ← trySigns ":" then
      strictBounds g true (return (← peekWord "where") || (← peek (isGroup .curly)))
    else pure []
  let _ ← conditions g
  group .curly do
    innerAttributes g
    let _ ← many (traitItem g)
  return .trait n bounds

/-- The bounds that a trait alias stands for. -/
def traitAliasRest : Reader Unit := do
  let _ ← strictBounds g false (return (← peekWord "where") || (← peekSigns ";"))
  let _ ← conditions g
  signs ";"

/-- A trait, marked unsafe or automatic or not. An alias of bounds is possible
only without marks. -/
def traitDeclaration : Reader Item := do
  let _ ← visibility
  let hasUnsafe ← tryWord "unsafe"
  let hasAuto ← tryWord "auto"
  word "trait"
  let n ← name
  let _ ← parameters g
  if hasUnsafe || hasAuto then traitRest g n
  else if ← trySigns "=" then
    traitAliasRest g
    return .other
  else traitRest g n

/-! ## Implementation blocks -/

/-- An item of an implementation block. -/
def implItem : Reader ImplItem := do
  let _ ← attributes g
  let visible ← visibility
  let default_ ←
    if (← peekWord "default") && !(← peekAt 1 (isSign '!')) then tryWord "default"
    else pure false
  let ts ← ahead
  if startsFunction false ts then
    signature g false
    bodyOrNone g
    return .other
  else if ← tryWord "const" then
    match ← constantRest g with
    | some n => return .const n
    | none => return .other
  else if ← tryWord "type" then
    aliasRest g .afterDefinition
    return .other
  else if !visible && !default_ && startsMacroCall ts then
    macroItem
    return .other
  else fail

/-- The mark of a constant implementation. -/
def constantMark : Reader Bool := do
  if (← peekSigns "?") && (← peekAt 1 (isWord "const")) then
    skip 2
    return true
  else tryWord "const"

/-- An implementation block. One with a visibility, a constant one, and one for
something that is no trait path count for nothing. A block of the type's own
items cannot be negative. -/
def implementation : Reader Item := do
  let visible ← visibility
  let _ ← tryWord "default"
  let _ ← tryWord "unsafe"
  let line := (← here).line
  word "impl"
  if opensParameters (← ahead) then let _ ← parameters g
  let constant ← constantMark
  let mark ← here
  let negative ←
    if (← peekSigns "!") && !(← peekAt 1 (isGroup .curly)) then trySigns "!" else pure false
  let first ← g (.type true)
  let ofTrait ← tryWord "for"
  if negative && !ofTrait then throw mark
  let self ← if ofTrait then g (.type true) else pure first
  let _ ← conditions g
  let items ← group .curly do
    innerAttributes g
    many (implItem g)
  if visible || constant then return .other
  if ofTrait then
    match first with
    | .path p => return .impl ⟨line, some ⟨p.segments, negative⟩, self.toSelf, items⟩
    | _ => return .other
  else return .impl ⟨line, none, self.toSelf, items⟩

/-! ## Items -/

/-- A module, inline or in a file of its own. -/
def moduleItem : Reader Item := do
  let _ ← visibility
  let _ ← tryWord "unsafe"
  word "mod"
  let n ← if ← peekWord "try" then anyWord else name
  if ← trySigns ";" then return .other
  let items ← group .curly do
    innerAttributes g
    many (g .item)
  return .module n items

/-- What item starts here, behind its attributes. -/
inductive ItemKind where
  | function | packageImport | foreignBlock | import_ | static_ | constant | trait_ | impl_
  | module_ | alias_ | struct_ | enum_ | union_ | macroDefinition | macroCall
deriving DecidableEq

/-- The kind of an item from its trees behind the visibility, or the number of
trees before the one that fits no item. -/
def itemKind (visible : Bool) (ts : List Tree) : Except Nat ItemKind :=
  let is (n : Nat) (w : String) : Bool := ts[n]?.any (isWord w)
  if startsFunction false ts then .ok .function
  else if is 0 "extern" then
    let afterAbi := if ts[1]?.any isText then 2 else 1
    if is 1 "crate" then .ok .packageImport
    else if ts[afterAbi]?.any (isGroup .curly) then .ok .foreignBlock
    else .error afterAbi
  else if is 0 "use" then .ok .import_
  else if is 0 "static" then .ok .static_
  else if is 0 "const" then .ok .constant
  else if is 0 "unsafe" then
    if is 1 "trait" || (is 1 "auto" && is 2 "trait") then .ok .trait_
    else if is 1 "impl" then .ok .impl_
    else if is 1 "extern" then .ok .foreignBlock
    else if is 1 "mod" then .ok .module_
    else .error 1
  else if is 0 "mod" then .ok .module_
  else if is 0 "type" then .ok .alias_
  else if is 0 "struct" then .ok .struct_
  else if is 0 "enum" then .ok .enum_
  else if is 0 "union" && ts[1]?.any isName then .ok .union_
  else if is 0 "trait" || (is 0 "auto" && is 1 "trait") then .ok .trait_
  else if is 0 "impl" || (is 0 "default" && !ts[1]?.any (isSign '!')) then .ok .impl_
  else if is 0 "macro" then .ok .macroDefinition
  else if !visible && startsMacroCall ts then .ok .macroCall
  else .error 0

/-- Looks behind a visibility without taking anything. -/
def peekBehindVisibility : Reader (Bool × List Tree) := do
  let s ← get
  let visible ← visibility
  let ts ← ahead
  set s
  return (visible, ts)

/-- An item whose kind is known. -/
def itemOfKind : ItemKind → Reader Item
  | .function => do
    let _ ← visibility
    signature g false
    bodyOrNone g
    return .other
  | .packageImport => do
    packageImport
    return .other
  | .foreignBlock => do
    foreignBlock g
    return .other
  | .import_ => do
    importItem
    return .other
  | .static_ => do
    staticItem g
    return .other
  | .constant => do
    let _ ← visibility
    word "const"
    let _ ← constantRest g
    return .other
  | .trait_ => traitDeclaration g
  | .impl_ => implementation g
  | .module_ => moduleItem g
  | .alias_ => do
    let _ ← visibility
    word "type"
    aliasRest g .beforeDefinition
    return .other
  | .struct_ => structureItem g
  | .enum_ => enumerationItem g
  | .union_ => unionItem g
  | .macroDefinition => do
    macroDefinition
    return .other
  | .macroCall => do
    namedMacroItem
    return .other

def readItem : Reader Item := do
  let _ ← attributes g
  let (visible, ts) ← peekBehindVisibility
  match itemKind visible ts with
  | .ok kind => itemOfKind g kind
  | .error n =>
    let _ ← visibility
    skip n
    fail

/-- The items of a file. -/
def file : Reader (List Item) := do
  innerAttributes g
  many (g .item)

end EnumFamily.Source.Reader
