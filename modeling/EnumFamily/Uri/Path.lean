import EnumFamily.FilePath
import EnumFamily.Uri.Percent

/-!
# Paths of identifiers

A path is a list of segments, each behind a slash. One dot stands for the
directory itself and two dots for the one above. A letter and a colon name a
drive, and nothing is above a drive.

* `resolve`: the segments that are left when dots are followed.
* `text`: the spelling of segments.
-/
namespace EnumFamily.Uri.Path

/-- A letter with a colon or a bar behind it. -/
def isDrive : List Char → Bool
  | [c, m] => c.isAlpha && (m = ':' || m = '|')
  | _ => false

/-- A segment that two dots do not leave: a drive, also with a backslash and more
behind it. -/
def isAnchor (s : List Char) : Bool :=
  isDrive (s.take 2) && ((s.drop 2).isEmpty || s[2]? = some '\\')

/-- A segment of one dot or two, also with the dots percent-encoded. -/
def dots (segment : List Char) : Option Nat :=
  let s := String.ofList (segment.map Char.toLower)
  if s = "." ∨ s = "%2e" then some 1
  else if s = ".." ∨ s = ".%2e" ∨ s = "%2e." ∨ s = "%2e%2e" then some 2
  else none

/-- The segments above, with the last one first. -/
def above : List (List Char) → List (List Char)
  | [] => []
  | s :: before => if isAnchor s then s :: before else before

/-- A drive is spelled with a colon. -/
def driveSpelling (segment : List Char) : List Char :=
  if isDrive segment then segment.take 1 ++ [':'] else segment

/-- Follows dots. `before` holds the segments so far, the last one first; dots at
the end leave an empty segment. In a path of files, the first segment may be a
drive. -/
def resolve (ofFiles : Bool) (before : List (List Char)) : List (List Char) → List (List Char)
  | [] => before.reverse
  | s :: rest =>
    match dots s with
    | none =>
      let s := if ofFiles && before.isEmpty then driveSpelling s else s
      resolve ofFiles (s :: before) rest
    | some n =>
      let before := if n = 2 then above before else before
      resolve ofFiles (if rest.isEmpty then [] :: before else before) rest

/-- The segments of a text that stands behind a slash. -/
def read (ofFiles : Bool) (s : List Char) : List (List Char) :=
  resolve ofFiles [] (FilePath.splitAt '/' s)

def text (segments : List (List Char)) : String :=
  String.ofList (segments.flatMap fun s => '/' :: s.flatMap (Percent.escape Percent.inPath))

/-- Slashes at the start count as one. -/
def fileText (segments : List (List Char)) : String :=
  String.ofList ('/' :: (text segments).toList.dropWhile (· = '/'))

end EnumFamily.Uri.Path
