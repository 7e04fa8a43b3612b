import EnumFamily.Json.Reader
import EnumFamily.Plan

/-!
# Options of an editor

What an editor may ask for when a session starts: it comes on top of the
settings of each package. Options of the wrong form are not used at all.
-/
namespace EnumFamily

structure ClientOptions where
  parentTypes : List String := []
  deniedStems : List String := []
  ignore : List String := []
deriving Repr, DecidableEq

namespace ClientOptions

/-- A list of strings; an option that is missing is an empty one. -/
def strings? : Option Json → Option (List String)
  | none => some []
  | some (.array items) => items.mapM Json.asString?
  | some _ => none

/-- The options by name in an object, or by position in an array of up to
three. -/
def ofJson? : Json → Option ClientOptions
  | .object members => do
    let named (name : String) : Option Json := (Json.membersNamed name members).getLast?
    some
      { parentTypes := ← strings? (named "parentTypes")
        deniedStems := ← strings? (named "nonEnumPrefixes")
        ignore := ← strings? (named "ignore") }
  | .array items =>
    if items.length ≤ 3 then do
      some
        { parentTypes := ← strings? items[0]?
          deniedStems := ← strings? items[1]?
          ignore := ← strings? items[2]? }
    else none
  | _ => none

/-- The options in what a client sends. -/
def ofJson (sent : Option Json) : ClientOptions := (sent.bind ofJson?).getD {}

def adjust (o : ClientOptions) (p : Plan) : Plan :=
  ((p.addParentTypes o.parentTypes).deny o.deniedStems).ignore o.ignore

end ClientOptions

end EnumFamily
