import EnumFamily.FilePath

/-!
# File trees

A tree of files, symbolic links and directories, as seen from a working
directory. Paths are resolved step by step, through links, as an operating
system does; what cannot be resolved fails with one of its causes
(`SystemError`).

* `Node.get?`: the node at a list of names, without following links.
* `FileTree.resolve`: where a path leads, as the names from the root.
* `FileTree.text`, `isFile`, `isDir`, `contains`, `canonical`: what programs ask.
-/
namespace EnumFamily

inductive Node where
  | file (data : ByteArray)
  | link (target : String)
  | dir (entries : List (String × Node))

inductive SystemError where
  | notFound
  | notDirectory
  | isDirectory
  | tooManyLinks
  | notText
deriving Repr, DecidableEq

def SystemError.message : SystemError → String
  | notFound => "No such file or directory (os error 2)"
  | notDirectory => "Not a directory (os error 20)"
  | isDirectory => "Is a directory (os error 21)"
  | tooManyLinks => "Too many levels of symbolic links (os error 40)"
  | notText => "stream did not contain valid UTF-8"

namespace Node

def emptyDir : Node := .dir []

/-- The entry of a directory with the given name. -/
def child? : Node → String → Option Node
  | .dir entries, name => entries.lookup name
  | _, _ => none

def isDir : Node → Bool
  | .dir _ => true
  | _ => false

/-- The node at a list of names; links are not followed. -/
def get? (node : Node) : List String → Option Node
  | [] => some node
  | n :: ns => (node.child? n).bind (·.get? ns)

/-- Puts an entry into a list of entries, in the place of one of that name. -/
def putEntry (name : String) (node : Node) : List (String × Node) → List (String × Node)
  | [] => [(name, node)]
  | (n, old) :: rest =>
    if n = name then (n, node) :: rest else (n, old) :: putEntry name node rest

/-- Puts a node at a list of names, making the directories on the way. -/
def put (node : Node) (names : List String) (new : Node) : Node :=
  match names with
  | [] => new
  | n :: ns =>
    let entries := match node with
      | .dir entries => entries
      | _ => []
    .dir (putEntry n (put ((entries.lookup n).getD emptyDir) ns new) entries)

/-- Takes away the node at a list of names. -/
def erase (node : Node) (names : List String) : Node :=
  match names, node with
  | [n], .dir entries => .dir (entries.filter (·.1 != n))
  | n :: ns, .dir entries =>
    match entries.lookup n with
    | none => .dir entries
    | some child => .dir (putEntry n (erase child ns) entries)
  | _, node => node

end Node

/-- A tree with the names that lead from its root to the working directory. -/
structure FileTree where
  root : Node
  cwd : List String

namespace FileTree

/-! ## Resolving paths -/

/-- One step of a path that is being resolved. -/
inductive Step where
  | stay
  | up
  | name (n : String)
deriving Repr, DecidableEq

def stepOf (piece : String) : Step :=
  if piece = "" ∨ piece = "." then .stay
  else if piece = ".." then .up
  else .name piece

/-- The steps of a path behind its root. A slash at the end is a step that stays. -/
def steps (path : String) : List Step :=
  (FilePath.splitAt '/' path.toList).map fun p => stepOf (String.ofList p)

/-- How many links one resolution may pass. -/
def linkLimit : Nat := 40

/-- What the last step of a path may name. -/
inductive Ending where
  /-- an existing node, a link being passed -/
  | node
  /-- an existing node, which may be a link -/
  | link
  /-- a node that may be missing from its directory -/
  | new
deriving Repr, DecidableEq

/-- Follows steps from the node at `pos`. At a link that has to be passed, the
way goes on as `onLink` says: from a place, with the steps then left. -/
def follow (root : Node) (ending : Ending)
    (onLink : List String → List Step → Except SystemError (List String))
    (pos : List String) : List Step → Except SystemError (List String)
  | [] => .ok pos
  | step :: rest =>
    match root.get? pos with
    | some (.dir entries) =>
      match step with
      | .stay => follow root ending onLink pos rest
      | .up => follow root ending onLink pos.dropLast rest
      | .name n =>
        match entries.lookup n with
        | none =>
          if rest.isEmpty && ending == .new then .ok (pos ++ [n]) else .error .notFound
        | some (.link target) =>
          if rest.isEmpty && ending == .link then .ok (pos ++ [n])
          else if target = "" then .error .notFound
          else onLink (if FilePath.isAbsolute target then [] else pos) (steps target ++ rest)
        | some _ => follow root ending onLink (pos ++ [n]) rest
    | some _ => .error .notDirectory
    | none => .error .notFound

/-- Follows steps through at most `links` links. -/
def walk (root : Node) (ending : Ending) :
    Nat → List String → List Step → Except SystemError (List String)
  | 0 => follow root ending fun _ _ => .error .tooManyLinks
  | links + 1 => follow root ending (walk root ending links)

def resolveTo (t : FileTree) (ending : Ending) (path : String) :
    Except SystemError (List String) :=
  if path = "" then .error .notFound
  else
    walk t.root ending linkLimit (if FilePath.isAbsolute path then [] else t.cwd) (steps path)

/-- The names that lead from the root to what a path means, links passed. -/
def resolve (t : FileTree) (path : String) : Except SystemError (List String) :=
  t.resolveTo .node path

def absolute (names : List String) : String := "/" ++ String.intercalate "/" names

/-- The one path without dots, links and repeated slashes. -/
def canonical (t : FileTree) (path : String) : Except SystemError String :=
  (t.resolve path).map absolute

/-! ## Asking about paths -/

def node (t : FileTree) (path : String) : Except SystemError Node := do
  match t.root.get? (← t.resolve path) with
  | some n => .ok n
  | none => .error .notFound

/-- The node of a path; a link named by the last step is itself meant. -/
def nodeOrLink (t : FileTree) (path : String) : Except SystemError Node := do
  match t.root.get? (← t.resolveTo .link path) with
  | some n => .ok n
  | none => .error .notFound

def contains (t : FileTree) (path : String) : Bool :=
  match t.node path with
  | .ok _ => true
  | .error _ => false

def isDir (t : FileTree) (path : String) : Bool :=
  match t.node path with
  | .ok (.dir _) => true
  | _ => false

def isFile (t : FileTree) (path : String) : Bool :=
  match t.node path with
  | .ok (.file _) => true
  | _ => false

/-- The content of a file as text. -/
def text (t : FileTree) (path : String) : Except SystemError String := do
  match ← t.node path with
  | .file data =>
    match String.fromUTF8? data with
    | some s => .ok s
    | none => .error .notText
  | _ => .error .isDirectory

/-- The names in a directory. -/
def entries (t : FileTree) (path : String) : Except SystemError (List String) := do
  match ← t.node path with
  | .dir entries => .ok (entries.map (·.1))
  | _ => .error .notDirectory

/-! ## Writing -/

/-- Writes a file, replacing the content of one that is there. -/
def write (t : FileTree) (path : String) (data : ByteArray) : Except SystemError FileTree := do
  let names ← t.resolveTo .new path
  match t.root.get? names with
  | some (.dir _) => .error .isDirectory
  | _ => .ok { t with root := t.root.put names (.file data) }

end FileTree

end EnumFamily
