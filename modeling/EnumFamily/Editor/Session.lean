import EnumFamily.Editor.ClientOptions
import EnumFamily.Editor.Marker
import EnumFamily.Uri
import EnumFamily.Package

/-!
# Editor sessions

A session answers the messages of an editor. When a source file is opened or
saved, its package is analysed as it is on disk, and each file with findings
gets its markers. The session remembers per package which files got markers
last time, so that files that have become clean get an empty list.

A run goes through three steps, which a server may interleave with those of
other runs:

* `Session.compute`: analyse, without touching the session;
* `Session.replace`: put the newly flagged files in the place of the old ones
  and take the stale ones;
* `Update.messages`: what is sent after that, in order.

`Session.handle` answers one message at a time.
-/
namespace EnumFamily

/-! ## What the editor gets -/

inductive LogKind where
  | error
  | info
deriving Repr, DecidableEq

/-- The number of a kind of message. -/
def LogKind.code : LogKind → Nat
  | error => 1
  | info => 3

/-- A message to the editor. -/
inductive ClientMessage where
  /-- the markers of a file from now on -/
  | publish (uri : String) (markers : List Marker)
  | log (kind : LogKind) (text : String)
deriving Repr, DecidableEq

/-- Why a request is refused. -/
inductive RequestError where
  | notStarted
  | invalid
deriving Repr, DecidableEq

def RequestError.code : RequestError → Int
  | notStarted => -32002
  | invalid => -32600

/-! ## Updates -/

/-- What a successful analysis has to publish. -/
structure Update where
  /-- the canonical root of the package -/
  root : String
  /-- the files with findings and their markers -/
  files : List (String × List Marker)
  analyzedFiles : Nat
  units : Nat
  findings : Nat
deriving Repr, DecidableEq

namespace Update

/-- Adds a marker to those of a file. -/
def addMarker (uri : String) (m : Marker) :
    List (String × List Marker) → List (String × List Marker)
  | [] => [(uri, [m])]
  | (u, ms) :: rest => if u = uri then (u, ms ++ [m]) :: rest else (u, ms) :: addMarker uri m rest

/-- The findings by file, the files spelled below `root`. -/
def byFile (root : String) (ds : List Diagnostic) : List (String × List Marker) :=
  ds.foldl
    (fun files d =>
      match Uri.ofFilePath? (FilePath.join root d.file) with
      | some uri => addMarker uri (Marker.ofDiagnostic d) files
      | none => files)
    []

/-- The flagged files. -/
def flagged (u : Update) : List String := u.files.map (·.1)

def summary (u : Update) : String :=
  "Analysis complete: " ++ toString u.analyzedFiles ++ " files, " ++ toString u.units ++
    " units, " ++ toString u.findings ++ " findings"

/-- What is sent for an update: empty lists for stale files, the markers of the
flagged ones, and a summary. -/
def messages (u : Update) (stale : List String) : List ClientMessage :=
  stale.map (.publish · []) ++ u.files.map (fun (uri, markers) => .publish uri markers) ++
    [.log .info u.summary]

end Update

/-! ## Sessions -/

inductive Phase where
  | fresh
  | ready
  | stopped
deriving Repr, DecidableEq

structure Session where
  phase : Phase := .fresh
  options : ClientOptions := {}
  /-- the files that got markers in the last run, by package root -/
  published : List (String × List String) := []
deriving Repr, DecidableEq

namespace Session

/-- The root of the package as the client spells it: as far above the client's
path as the file stands below the canonical root. -/
def clientRoot (t : FileTree) (path root : String) : String :=
  let depth := match t.canonical path with
    | .ok canonical => (FilePath.relativeTo? root canonical).map fun rel =>
        (FilePath.components rel).length
    | .error _ => none
  (depth.bind fun n => (FilePath.ancestors path)[n]?).getD root

/-- Analyses the package that a file belongs to, as it is on disk now, or tells
what to log instead. -/
def compute (t : FileTree) (options : ClientOptions) (uri : Uri) :
    Except (LogKind × String) Update :=
  match uri.filePath? with
  | none => .error (.error, "Invalid file URI")
  | some path =>
    match Package.root? t path with
    | none => .error (.info, "No Cargo.toml found, skipping analysis")
    | some root =>
      match (Plan.load t root).bind fun p => (options.adjust p).analyze t with
      | .error e => .error (.error, "Analysis failed: " ++ e.message)
      | .ok a =>
        .ok
          { root, files := Update.byFile (clientRoot t path root) a.diagnostics,
            analyzedFiles := a.files, units := a.units, findings := a.diagnostics.length }

/-- The files that got markers in the last run on a package. -/
def publishedFor (s : Session) (root : String) : List String :=
  (s.published.lookup root).getD []

/-- Takes over the flagged files of an update, and gives those that were
flagged before and are not any more. -/
def replace (s : Session) (u : Update) : Session × List String :=
  ({ s with published := (u.root, u.flagged) :: s.published.filter (·.1 != u.root) },
    (s.publishedFor u.root).filter (!u.flagged.contains ·))

/-- One run from start to end. -/
def runOn (s : Session) (t : FileTree) (uri : Uri) : Session × List ClientMessage :=
  match compute t s.options uri with
  | .error (kind, text) => (s, [.log kind text])
  | .ok u =>
    let (s, stale) := s.replace u
    (s, u.messages stale)

/-! ## Messages -/

inductive Notification where
  | started
  | opened (uri : Uri)
  | saved (uri : Uri)
  | changed (uri : Uri)
  | closed (uri : Uri)
deriving Repr, DecidableEq

/-- Only source files are analysed. -/
def isSource (uri : Uri) : Bool := ".rs".toList.isSuffixOf uri.path.toList

/-- What the server can do, as the editor is told at the start. -/
def capabilities : Json :=
  .object
    [("capabilities", .object
      [("textDocumentSync", .object
        [("openClose", .bool true), ("change", .ofNat 1),
          ("save", .object [("includeText", .bool false)])])]),
      ("serverInfo", .object
        [("name", .string "enumspot-lsp"), ("version", .string "0.1.0")])]

/-- A session starts once. -/
def start? (s : Session) (options : Option Json) : Except RequestError (Session × Json) :=
  match s.phase with
  | .fresh =>
    .ok ({ s with phase := .ready, options := ClientOptions.ofJson options }, capabilities)
  | _ => .error .invalid

def stop? (s : Session) : Except RequestError (Session × Json) :=
  match s.phase with
  | .fresh => .error .notStarted
  | .ready => .ok ({ s with phase := .stopped }, .null)
  | .stopped => .error .invalid

/-- Handles a notification of a session that has started and not ended. Files
are read from disk, so a change in the editor does nothing before it is saved. -/
def react (s : Session) (t : FileTree) : Notification → Session × List ClientMessage
  | .started => (s, [.log .info "Enumspot LSP server initialized"])
  | .opened uri => if isSource uri then s.runOn t uri else (s, [])
  | .saved uri => if isSource uri then s.runOn t uri else (s, [])
  | .changed _ => (s, [])
  | .closed uri => (s, [.publish uri.text []])

/-- Handles a notification; before the start and after the end it does nothing. -/
def handle (s : Session) (t : FileTree) (n : Notification) : Session × List ClientMessage :=
  match s.phase with
  | .ready => s.react t n
  | _ => (s, [])

end Session

end EnumFamily
