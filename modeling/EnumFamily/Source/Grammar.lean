import EnumFamily.Source.ItemReader

/-!
# The grammar

The readers of all phrases, tied together: a phrase is read with the grammar for
the phrases inside it, one level of fuel below. Every level takes a tree or
enters a group after a bounded number of rounds, so a text has fuel enough.

* `items`: the items of a source text.
* `pathSegments?`: a text that is one path.
-/
namespace EnumFamily.Source

/-- Reads a phrase with a grammar for the phrases inside. -/
def Phrase.read (g : Grammar) : (p : Phrase) → Reader p.Value
  | .type plus => Reader.readType g plus
  | .bound capture constant => Reader.readBound g capture constant
  | .pattern => Reader.readPattern g
  | .expression structs => Reader.readExpression g structs
  | .bounded => Reader.readBounded g
  | .operand structs => Reader.readOperand g structs
  | .operation structs least left => Reader.readOperation g structs least left
  | .statements => Reader.readStatements g
  | .item => Reader.readItem g

/-- The grammar for phrases of at most `fuel` levels. -/
def grammar : Nat → Grammar
  | 0, _ => Reader.fail
  | fuel + 1, p => p.read (grammar fuel)

/-- A grammar that suffices for the trees. -/
def grammarFor (ts : List Tree) : Grammar := grammar (8 * Reader.countTrees ts + 8)

/-- Reads all trees of a text. -/
def Reader.readAll {α : Type} (ts : List Tree) (r : Reader α) : Except Pos α :=
  match r.run { trees := ts, stop := .start, leftover := none } with
  | .error p => .error p
  | .ok (a, s) =>
    match s.leftover.or (s.trees.head?.map Tree.pos) with
    | some p => .error p
    | none => .ok a

/-- The items of a source text, or where it does not follow the grammar. -/
def items (text : String) : Except Pos (List Item) := do
  let ts ← trees text
  Reader.readAll ts (Reader.file (grammarFor ts))

/-- A text that is exactly one path, with its segments joined. -/
def pathSegments? (text : String) : Option (List String) :=
  match Tree.ofTokens [] [] (tokens text.toList) with
  | .error _ => none
  | .ok ts =>
    match Reader.readAll ts (Reader.path (grammarFor ts) false) with
    | .ok p => some p.segments
    | .error _ => none

end EnumFamily.Source
