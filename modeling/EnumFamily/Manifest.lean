import EnumFamily.FilePath
import EnumFamily.Text.Blank
import EnumFamily.Text.Search

/-!
# Package manifests

What is taken from the manifest of a package: its name, by a search through the
lines, and whether it speaks of a workspace.
-/
namespace EnumFamily.Manifest

/-- The name of manifest files. -/
def fileName : String := "Cargo.toml"

/-- Where the manifest of a directory stands. -/
def pathIn (dir : String) : String := FilePath.join dir fileName

def declaresWorkspace (text : String) : Bool :=
  Text.occursIn "[workspace]".toList text.toList

/-- The value on a line that starts with the word `name` and has an equals sign,
without blanks and quotes around it. -/
def nameOnLine? (line : List Char) : Option String :=
  let line := Text.trimBy Text.isBlank line
  if "name".toList.isPrefixOf line && line.contains '=' then
    let value := Text.trimBy Text.isBlank ((line.dropWhile (· ≠ '=')).drop 1)
    some (String.ofList (Text.trimBy (· = '\'') (Text.trimBy (· = '"') value)))
  else none

/-- The name on the first line that has one. -/
def packageName (text : String) : String :=
  ((FilePath.splitAt '\n' text.toList).findSome? nameOnLine?).getD "unknown"

end EnumFamily.Manifest
