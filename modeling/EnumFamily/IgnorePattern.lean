import EnumFamily.SymbolPath
import EnumFamily.Text.Search
import EnumFamily.TypeUnit

/-!
# Ignore patterns

A pattern `start*` matches names by their beginning, `*end` by their end, and
any other pattern matches the names that hold it somewhere.
-/
namespace EnumFamily.IgnorePattern

def accepts (pattern name : String) : Bool :=
  let p := pattern.toList
  if p.getLast? = some '*' then p.dropLast.isPrefixOf name.toList
  else if p.head? = some '*' then p.tail.isSuffixOf name.toList
  else Text.occursIn p name.toList

def anyAccepts (patterns : List String) (name : String) : Bool :=
  patterns.any (accepts · name)

/-- The name under which patterns see a unit: its modules and its own name. -/
def subject (u : TypeUnit) : String :=
  String.ofList
    (SymbolPath.dropRoot (SymbolPath.join u.modules ++ "::" ++ u.name).toList)

end EnumFamily.IgnorePattern
