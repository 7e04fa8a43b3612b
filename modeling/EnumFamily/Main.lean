import EnumFamily.CommandLine

/-!
# The program

Takes from the disk what a run may look at, runs the command line on it, and
prints and writes what comes out. The package manager is not asked, so the
members of a workspace are found by looking.
-/
namespace EnumFamily.Program

/-! ## From the disk -/

/-- Files whose content a run may read. -/
def isRead (name : String) : Bool :=
  FileTree.isSource name || name == Manifest.fileName || name == Settings.fileName

/-- The canonical path of something that exists. -/
def real? (path : String) : IO (Option String) := do
  try
    return some (← IO.FS.realPath path).toString
  catch _ => return none

/-- What stands at a path: nothing, or a directory (true) or file (false). -/
def kind? (path : String) : IO (Option Bool) := do
  try
    return some (← (← IO.FS.realPath path).isDir)
  catch _ => return none

/-- A file; one that is not read is kept empty. -/
def fileNode (path name : String) : IO Node := do
  if isRead name then
    try
      return .file (← IO.FS.readBinFile path)
    catch _ => return .file ByteArray.empty
  else return .file ByteArray.empty

/-- The directory at a canonical path with all below it, up to a depth. What
stands somewhere else than it seems to is a link. -/
def dirNode (depth : Nat) (path : String) : IO Node := do
  match depth with
  | 0 => return .emptyDir
  | depth + 1 =>
    let mut entries : List (String × Node) := []
    for e in ← (try (← IO.FS.realPath path).readDir catch _ => pure #[]) do
      let name := e.fileName
      let here := FilePath.join path name
      let node ← match ← real? here with
        | none => pure (Node.link "")
        | some there =>
          if there != here then pure (Node.link there)
          else if (← kind? here) == some true then
            if FileTree.excludedNames.contains name then pure Node.emptyDir
            else dirNode depth here
          else fileNode here name
      entries := (name, node) :: entries
    return .dir entries

/-- Puts what stands at a canonical path into a tree. -/
def load (t : FileTree) (depth : Nat) (path : String) : IO FileTree := do
  let node ←
    if (← kind? path) == some true then dirNode depth path
    else fileNode path ((FilePath.fileName? path).getD "")
  return { t with root := t.root.put (FilePath.names path) node }

/-- Loads what a path names, and the way to it if that goes through links. -/
def loadNamed (t : FileTree) (depth : Nat) (cwd path : String) : IO FileTree := do
  match ← real? path with
  | none => return t
  | some there =>
    let t ← load t depth there
    let here := FilePath.join cwd path
    if FilePath.same here there || (FilePath.components here).contains .up then return t
    else return { t with root := t.root.put (FilePath.names here) (.link there) }

/-- How deep directories are followed. -/
def depthLimit : Nat := 256

/-- What a run with the given options may look at. -/
def treeFor (o : Options) : IO FileTree := do
  let cwd := ((← real? ".").getD "/")
  let mut t : FileTree := { root := .emptyDir, cwd := FilePath.names cwd }
  if let some start ← real? o.inputPath then
    for dir in (FilePath.ancestors start).reverse do
      t ← load t 1 dir
    if let some root := Package.root? t start then
      t ← load t depthLimit root
  if (t.root.get? t.cwd).isNone then t ← load t 1 cwd
  if o.workspace then t ← loadNamed t depthLimit cwd o.inputPath
  if let some out := o.output then
    if let some dir := FilePath.parent? out then
      let dir := if dir.isEmpty then "." else dir
      if let some there ← real? dir then
        match t.root.get? (FilePath.names there) with
        | some _ => pure ()
        | none => t ← load t 1 there
  return t

/-! ## To the disk -/

/-- Writes the report, if the run has written one. -/
def save (o : Options) (before after : FileTree) : IO Unit := do
  if let some path := o.output then
    match before.text path, after.text path with
    | .ok old, .ok new => if old != new then IO.FS.writeFile path new
    | .error _, .ok new => IO.FS.writeFile path new
    | _, _ => return ()

/-- A document on one line. -/
def oneLine (j : Json) : String :=
  String.join ((j.render.splitOn "\n").map fun l => String.ofList (l.toList.dropWhile (· = ' ')))

end EnumFamily.Program

open EnumFamily in
/-- Runs the command line. Events go to standard error, as the variable for the
log asks for. -/
def main (words : List String) : IO UInt32 := do
  let options := match Options.read words with
    | .ok (.run o) => o
    | _ => {}
  let before ← Program.treeFor options
  let outcome := CommandLine.run before none words
  let filter := EventFilter.ofText ((← IO.getEnv "RUST_LOG").getD "")
  for e in outcome.events.filter filter.keeps do
    IO.eprintln (Program.oneLine e.toJson)
  for line in outcome.notes do
    IO.eprintln line
  IO.print outcome.output
  Program.save options before outcome.tree
  return outcome.status.toUInt32
