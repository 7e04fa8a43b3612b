import EnumFamily.FilePath

/-!
# Where reports may be written

A report may be written to a file at or below the working directory. The check
looks at the text of the path only: it must be relative and must not climb.
-/
namespace EnumFamily.OutputPath

inductive Refusal where
  | hasNul
  | absolute (path : String)
  | climbs (path : String)
deriving Repr, DecidableEq

def Refusal.message : Refusal → String
  | hasNul => "Output path contains null bytes"
  | absolute path => "Output path must be relative, not absolute: " ++ path
  | climbs path => "Path traversal (..) not allowed in output paths: " ++ path

/-- The path itself, unless it is refused. -/
def check (path : String) : Except Refusal String :=
  if path.toList.any (·.toNat = 0) then .error .hasNul
  else if FilePath.isAbsolute path then .error (.absolute path)
  else if (FilePath.components path).contains .up then .error (.climbs path)
  else .ok path

end EnumFamily.OutputPath
