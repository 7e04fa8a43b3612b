import EnumFamily.Json.Reader
import EnumFamily.Package

/-!
# Workspaces

A workspace is a directory with several packages. Its members are those that
the package manager lists, and where it cannot be asked or its answer cannot be
used, the directory itself and the directories right below it. Every member is
analysed on its own; one that fails is left out.
-/
namespace EnumFamily

/-- What the package manager answers when it is asked for the members. -/
structure MemberListing where
  /-- zero for success -/
  status : Nat
  output : String

namespace MemberListing

/-- The field of a record that has one field of interest: an object in which
it stands once, or an array of its value alone. -/
def field? (name : String) : Json → Option Json
  | .object members =>
    match Json.membersNamed name members with
    | [v] => some v
    | _ => none
  | .array [v] => some v
  | _ => none

def items? : Json → Option (List Json)
  | .array items => some items
  | _ => none

/-- The manifests in the answer, if all of it has the right form. -/
def manifests? (l : MemberListing) : Option (List String) := do
  if l.status ≠ 0 then none
  let packages ← (← field? "packages" (← Json.read l.output)) |> items?
  packages.mapM fun p => (field? "manifest_path" p).bind Json.asString?

/-- The directories of the manifests. -/
def roots (l : MemberListing) : List String := (l.manifests?.getD []).filterMap FilePath.parent?

end MemberListing

namespace Workspace

/-! ## Members -/

def byPath (paths : List String) : List String := paths.mergeSort FilePath.le

/-- Names of directories that are no members. -/
def skippedNames : List String := ["target", ".git", "node_modules"]

/-- The directory at a path has a manifest. -/
def isPackageDir (t : FileTree) (path : String) : Bool :=
  t.isDir path && t.contains (Manifest.pathIn path)

/-- The members found by looking: the root, and the directories right below it. -/
def scan (t : FileTree) (root : String) : Except Fault (List String) :=
  let own :=
    if t.contains (FilePath.join root "src") && t.contains (Manifest.pathIn root) then [root]
    else []
  match t.entries root with
  | .error e => .error (.unlisted root e.message)
  | .ok names =>
    let below := (names.filter (!skippedNames.contains ·)).map (FilePath.join root)
    .ok (byPath (own ++ below.filter (isPackageDir t)))

/-- The members in the order of their paths. The package manager can only be
asked in an existing directory. -/
def members (t : FileTree) (listing : Option MemberListing) (root : String) :
    Except Fault (List String) :=
  match if t.isDir root then (listing.map MemberListing.roots).getD [] else [] with
  | [] => scan t root
  | roots => .ok (byPath roots)

/-! ## Analysis -/

/-- An analysis of all members: who they are, and what each gave. -/
structure Result where
  root : String
  members : Except Fault (List String)
  outcomes : List (String × Except Failure PackageAnalysis)

def analyze (t : FileTree) (listing : Option MemberListing) (adjust : Plan → Plan)
    (root : String) : Result :=
  let found := members t listing root
  let roots := match found with
    | .ok roots => roots
    | .error _ => []
  { root, members := found, outcomes := roots.map fun r => (r, Package.analyze t adjust r) }

namespace Result

/-- The members whose analysis succeeded. -/
def packages (r : Result) : List PackageAnalysis :=
  r.outcomes.filterMap fun (_, outcome) =>
    match outcome with
    | .ok a => some a
    | .error _ => none

def event (level : Level) (message : String) (fields : List (String × Json)) : Event :=
  { level, origin := "enumspot_core::workspace", message, fields }

def outcomeEvents (root : String) : Except Failure PackageAnalysis → List Event
  | .ok a => a.result.events
  | .error _ => [event .warn "crate failed" [("crate_root", .string root)]]

def events (r : Result) : List Event :=
  match r.members with
  | .error _ => [event .warn "cannot scan workspace" [("root", .string r.root)]]
  | .ok [] => [event .warn "no crates found in workspace" [("root", .string r.root)]]
  | .ok members =>
    event .info "analyzing workspace" [("crates", .ofNat members.length)] ::
      r.outcomes.flatMap fun (root, outcome) => outcomeEvents root outcome

end Result

/-! ## Recognising a workspace -/

/-- The manifest of the directory speaks of a workspace. -/
def isRoot (t : FileTree) (root : String) : Bool :=
  match t.text (Manifest.pathIn root) with
  | .ok text => Manifest.declaresWorkspace text
  | .error _ => false

/-- A manifest that is there and cannot be read gives a warning. -/
def isRootEvents (t : FileTree) (root : String) : List Event :=
  let manifest := Manifest.pathIn root
  match t.contains manifest, t.text manifest with
  | true, .error _ =>
    [Result.event .warn "cannot read manifest, assuming not a workspace"
      [("path", .string manifest)]]
  | _, _ => []

/-- The names of the directories right below the root that have a manifest. -/
def memberNames (t : FileTree) (root : String) : List String :=
  match t.entries root with
  | .ok names =>
    (names.filter fun n => isPackageDir t (FilePath.join root n)).mergeSort
      (fun a b => decide (a ≤ b))
  | .error _ => []

end Workspace

end EnumFamily
