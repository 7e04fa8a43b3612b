import EnumFamily.Proofs.Adjusting
import EnumFamily.Proofs.Canonical
import EnumFamily.Proofs.Placement

/-!
# Moving a package

A path below a root is the root, however it is spelled, and the names on the way.
All that an analysis takes from the path of a file, its module path, its target,
the path shown, and its rank among the files, depends on those names alone. So a
package with the same files gives the same report wherever it stands.

Results:
* `modulePath_descend_src`, `modulePath_descend_of_ne`, `target_descend`,
  `relative_descend`: where a file stands, from the names that lead to it.
* `Listing.relocate`: files in the order of paths stay so below another root.
* `mem_sourcesIn_descend_iff`: below a directory without links, which files a walk
  finds is a property of that directory.
* `gather_relocated`: the same names are found below two roots with the same files.
* `analyze_relocated`: the two analyses end, with reports that differ in the root.
-/
namespace EnumFamily

/-! ## Where a file stands -/

namespace Location

section
variable {root : String} (hroot : root ≠ "") {ns : List String} (hns : ∀ n ∈ ns, IsEntryName n)
include hroot hns

theorem relative_descend :
    relative root (FilePath.descend root ns) = normalize ("/".intercalate ns) := by
  rw [relative, FilePath.relativeTo_descend hroot hns]
  rfl

theorem target_descend :
    target root (FilePath.descend root ns) = targetOf ("/".intercalate ns) := by
  rw [target, FilePath.relativeTo_descend hroot hns]

theorem modulePath_descend_of_ne (hsrc : ns.head? ≠ some "src") :
    modulePath root (FilePath.descend root ns) = dropTarget false (moduleSegments ns) :=
  modulePath_of_ne (FilePath.liesAt_descend hroot hns) hsrc

theorem modulePath_descend_src :
    modulePath root (FilePath.descend root ("src" :: ns)) =
      dropTarget true (moduleSegments ns) := by
  have hnames : ∀ n ∈ "src" :: ns, IsEntryName n := List.forall_mem_cons.mpr ⟨by decide, hns⟩
  exact modulePath_of_src (FilePath.liesAt_descend hroot hnames)

end

/-- The module path of a file does not depend on the root. -/
theorem modulePath_descend_eq {root root' : String} (hroot : root ≠ "") (hroot' : root' ≠ "")
    {ns : List String} (hns : ∀ n ∈ ns, IsEntryName n) :
    modulePath root (FilePath.descend root ns) = modulePath root' (FilePath.descend root' ns) := by
  by_cases hsrc : ns.head? = some "src"
  · obtain ⟨rest, rfl⟩ := List.head?_eq_some_iff.mp hsrc
    have hrest := (List.forall_mem_cons.mp hns).2
    rw [modulePath_descend_src hroot hrest, modulePath_descend_src hroot' hrest]
  · rw [modulePath_descend_of_ne hroot hns hsrc, modulePath_descend_of_ne hroot' hns hsrc]

end Location

/-- Two files with one text that stand at the same place below their roots are
read alike. -/
theorem Reading.ofFile_descend {t t' : FileTree} {root root' : String} (hroot : root ≠ "")
    (hroot' : root' ≠ "") {ns : List String} (hns : ∀ n ∈ ns, IsEntryName n)
    (htext : t.text (FilePath.descend root ns) = t'.text (FilePath.descend root' ns)) :
    Reading.ofFile t root (FilePath.descend root ns) =
      Reading.ofFile t' root' (FilePath.descend root' ns) := by
  unfold Reading.ofFile
  rw [htext, Location.relative_descend hroot hns, Location.relative_descend hroot' hns,
    Location.target_descend hroot hns, Location.target_descend hroot' hns,
    Location.modulePath_descend_eq hroot hroot' hns]

/-! ## The order of files -/

namespace FilePath

theorem le_descend {root : String} (hroot : root ≠ "") {ns ms : List String}
    (hns : ∀ n ∈ ns, IsEntryName n) (hms : ∀ n ∈ ms, IsEntryName n) :
    le (descend root ns) (descend root ms) =
      componentsLe (ns.map Component.name) (ms.map Component.name) := by
  rw [le, components_descend hroot hns, components_descend hroot hms, componentsLe_append_left]

end FilePath

theorem FileTree.isSource_descend {root : String} (hroot : root ≠ "") {ns : List String}
    (hns : ∀ n ∈ ns, IsEntryName n) (hne : ns ≠ []) :
    isSource (FilePath.descend root ns) =
      (ns.getLast?.bind FilePath.nameExtension? == some "rs") := by
  rw [isSource, FilePath.extension?, FilePath.fileName_descend hroot hns hne]

/-- The listed files are known from the names below the root. -/
theorem Listing.exists_names {root : String} {files : List String} (h : Listing root files) :
    ∃ nss : List (List String), (∀ ns ∈ nss, ∀ n ∈ ns, IsEntryName n) ∧
      files = nss.map (FilePath.descend root) := by
  have hbelow := h.below
  clear h
  induction files with
  | nil => exact ⟨[], by simp, rfl⟩
  | cons f files ih =>
    rw [List.forall_mem_cons] at hbelow
    obtain ⟨ns, hns, rfl⟩ := hbelow.1
    obtain ⟨nss, hnss, rfl⟩ := ih hbelow.2
    exact ⟨ns :: nss, List.forall_mem_cons.mpr ⟨hns, hnss⟩, rfl⟩

/-- A listing stays one when its files move to another root. -/
theorem Listing.relocate {root root' : String} (hroot : root ≠ "") (hroot' : root' ≠ "")
    {nss : List (List String)} (hnss : ∀ ns ∈ nss, ns ≠ [] ∧ ∀ n ∈ ns, IsEntryName n)
    (h : Listing root (nss.map (FilePath.descend root))) :
    Listing root' (nss.map (FilePath.descend root')) where
  below f hf := by
    obtain ⟨ns, hns, rfl⟩ := List.mem_map.mp hf
    exact ⟨ns, (hnss ns hns).2, rfl⟩
  source f hf := by
    obtain ⟨ns, hns, rfl⟩ := List.mem_map.mp hf
    obtain ⟨hne, hnames⟩ := hnss ns hns
    rw [FileTree.isSource_descend hroot' hnames hne, ← FileTree.isSource_descend hroot hnames hne]
    exact h.source _ (List.mem_map_of_mem hns)
  nodup := by
    have hnodup := List.pairwise_map.mp h.nodup
    refine List.pairwise_map.mpr (hnodup.imp_of_mem fun hns hms hne heq => hne ?_)
    rw [FilePath.descend_injective hroot' (hnss _ hns).2 (hnss _ hms).2
      (congrArg FilePath.components heq)]
  sorted := by
    refine List.pairwise_map.mpr ((List.pairwise_map.mp h.sorted).imp_of_mem ?_)
    intro ns ms hns hms hle
    rw [FilePath.le_descend hroot (hnss _ hns).2 (hnss _ hms).2] at hle
    rw [FilePath.le_descend hroot' (hnss _ hns).2 (hnss _ hms).2, hle]

/-! ## Which files are found -/

/-- The names `ns` lead from a directory to a source file, past no directory that is
left out by its name or its manifest. -/
structure Node.Offers (node : Node) (excluded : List String) (ns : List String) : Prop where
  ne_nil : ns ≠ []
  names : ∀ n ∈ ns, IsEntryName n
  file : ∃ data, node.get? ns = some (.file data)
  source : ns.getLast?.bind FilePath.nameExtension? = some "rs"
  way : ∀ ms m, ms ++ [m] <+: ns → ms ++ [m] ≠ ns →
    m ∉ excluded ∧ ∀ data, node.get? (ms ++ [m] ++ [Manifest.fileName]) ≠ some (.file data)

namespace FileTree

theorem hasManifest_descend {t : FileTree} {root : String} {node : Node}
    (hnode : t.node root = .ok node) (hlink : node.Linkless) {ns : List String}
    (hns : ∀ n ∈ ns, IsEntryName n) :
    t.hasManifest (FilePath.descend root ns) = false ↔
      ∀ data, node.get? (ns ++ [Manifest.fileName]) ≠ some (.file data) := by
  have hpath : Manifest.pathIn (FilePath.descend root ns) =
      FilePath.descend root (ns ++ [Manifest.fileName]) := by
    rw [FilePath.descend_append]
    rfl
  have hnames := isEntryName_concat hns (show IsEntryName Manifest.fileName by decide)
  rw [hasManifest, hpath, ← Bool.not_eq_true, isFile]
  constructor
  · intro h data hget
    rw [(node_descend_iff hnode hlink hnames).mpr hget] at h
    exact h rfl
  · intro h hfile
    split at hfile
    · rename_i data hdata
      exact h data ((node_descend_iff hnode hlink hnames).mp hdata)
    · cases hfile

theorem mem_sourcesIn_descend_iff {t : FileTree} {root : String}
    {entries : List (String × Node)} (hnode : t.node root = .ok (.dir entries))
    (hwf : (Node.dir entries).WellFormed) (hlink : (Node.dir entries).Linkless)
    {excluded : List String} {f : String} :
    f ∈ t.sourcesIn excluded root entries ↔
      ∃ ns, (Node.dir entries).Offers excluded ns ∧ f = FilePath.descend root ns := by
  have hroot : root ≠ "" := by
    rintro rfl
    cases hnode
  rw [mem_sourcesIn_iff hwf]
  constructor
  · rintro ⟨ns, hfinds, hopen⟩
    obtain ⟨e, -, rest, rfl, -⟩ := (finds_dir_iff hwf).mp hfinds
    obtain ⟨hns, rfl, ⟨leaf, hleaf, hcounts⟩, hsource⟩ := hfinds
    rw [isSource_descend hroot hns (by simp), beq_iff_eq] at hsource
    refine ⟨_, ⟨by simp, hns, ?_, hsource, fun ms m hpre hproper => ?_⟩, rfl⟩
    · cases leaf with
      | file data => exact ⟨data, hleaf⟩
      | link target => exact absurd hleaf (hlink _ _)
      | dir es => exact hcounts.elim
    · obtain ⟨hname, hmanifest⟩ := hopen ms m hpre hproper
      have hms : ∀ n ∈ ms ++ [m], IsEntryName n := fun n hn => hns n (hpre.subset hn)
      exact ⟨hname, (hasManifest_descend hnode hlink hms).mp hmanifest⟩
  · rintro ⟨ns, ⟨hne, hns, ⟨data, hfile⟩, hsource, hway⟩, rfl⟩
    refine ⟨ns, ⟨hns, rfl, ⟨_, hfile, trivial⟩, ?_⟩, fun ms m hpre hproper => ?_⟩
    · rw [isSource_descend hroot hns hne, beq_iff_eq, hsource]
    · obtain ⟨hname, hmanifest⟩ := hway ms m hpre hproper
      have hms : ∀ n ∈ ms ++ [m], IsEntryName n := fun n hn => hns n (hpre.subset hn)
      exact ⟨hname, (hasManifest_descend hnode hlink hms).mpr hmanifest⟩

end FileTree

/-- The files below a directory without links can be listed; they are those that it
offers. -/
theorem Plan.gather_offered {t : Disk} {root : String} {entries : List (String × Node)}
    (hdir : t.node root = .ok (.dir entries))
    (hlink : (Node.dir entries).Linkless) {excluded : List String}
    (hname : FileTree.rootName root ∉ FileTree.excludedNames ++ excluded) :
    ∃ nss : List (List String),
      gather t root excluded = .ok (nss.map (FilePath.descend root)) ∧
      Listing root (nss.map (FilePath.descend root)) ∧
      ∀ ns, ns ∈ nss ↔ (Node.dir entries).Offers (FileTree.excludedNames ++ excluded) ns := by
  obtain ⟨place, -, hplace⟩ := FileTree.node_eq_ok_iff.mp hdir
  have hgather := gather_eq_ok_iff.mpr ⟨_, FileTree.sourcesBelow_of_dir hdir hname, rfl⟩
  obtain ⟨hroot, hlisting⟩ := listing_of_gather hgather
  have hmem : ∀ f, f ∈ (t.sourcesIn (FileTree.excludedNames ++ excluded) root entries).mergeSort
      FilePath.le ↔ ∃ ns, (Node.dir entries).Offers (FileTree.excludedNames ++ excluded) ns ∧
        f = FilePath.descend root ns := fun f =>
    List.mem_mergeSort.trans
      (FileTree.mem_sourcesIn_descend_iff hdir (t.wellFormed.of_get? hplace) hlink)
  obtain ⟨nss, hnss, hfiles⟩ := hlisting.exists_names
  rw [hfiles] at hgather hlisting hmem
  refine ⟨nss, hgather, hlisting, fun ns => ?_⟩
  constructor
  · intro hns
    obtain ⟨ms, hms, heq⟩ := (hmem _).mp (List.mem_map_of_mem hns)
    rwa [FilePath.descend_injective hroot (hnss ns hns) hms.names
      (congrArg FilePath.components heq)]
  · intro hns
    obtain ⟨ms, hms, heq⟩ := List.mem_map.mp ((hmem _).mpr ⟨ns, hns, rfl⟩)
    rwa [← FilePath.descend_injective hroot (hnss ms hms) hns.names
      (congrArg FilePath.components heq)]

/-! ## Two packages with the same files -/

/-- Two nodes without links hold the same files: at the same places below them, with
the same data. The order of entries may differ, and so may empty directories. -/
structure Node.SameFiles (a b : Node) : Prop where
  linkless : a.Linkless
  linkless_other : b.Linkless
  file_iff : ∀ ns data, a.get? ns = some (.file data) ↔ b.get? ns = some (.file data)

namespace Node

theorem SameFiles.symm {a b : Node} (h : a.SameFiles b) : b.SameFiles a :=
  ⟨h.linkless_other, h.linkless, fun ns data => (h.file_iff ns data).symm⟩

theorem SameFiles.offers {a b : Node} (h : a.SameFiles b) {excluded ns : List String}
    (ha : a.Offers excluded ns) : b.Offers excluded ns where
  ne_nil := ha.ne_nil
  names := ha.names
  file := by
    obtain ⟨data, hfile⟩ := ha.file
    exact ⟨data, (h.file_iff ns data).mp hfile⟩
  source := ha.source
  way ms m hpre hproper := by
    obtain ⟨hname, hmanifest⟩ := ha.way ms m hpre hproper
    exact ⟨hname, fun data hdata => hmanifest data ((h.file_iff _ data).mpr hdata)⟩

/-- The order of entries does not matter. -/
theorem SameFiles.of_perm {es es' : List (String × Node)} (hperm : es.Perm es')
    (hnodup : (es.map (·.1)).Nodup) (hlink : (dir es).Linkless) :
    (dir es).SameFiles (dir es') := by
  have hnodup' := (hperm.map (·.1)).nodup_iff.mp hnodup
  have hcons : ∀ n ns leaf, (dir es).get? (n :: ns) = some leaf ↔
      (dir es').get? (n :: ns) = some leaf := by
    intro n ns leaf
    rw [get?_dir_cons_iff hnodup, get?_dir_cons_iff hnodup']
    simp only [hperm.mem_iff]
  refine ⟨hlink, fun ns target h => ?_, fun ns data => ?_⟩
  · cases ns with
    | nil => simp at h
    | cons n ns => exact hlink _ _ ((hcons n ns _).mpr h)
  · cases ns with
    | nil => simp
    | cons n ns => exact hcons n ns _

end Node

namespace Plan

section
variable {t t' : Disk} {root root' : String} {es es' : List (String × Node)}
  (hdir : t.node root = .ok (.dir es)) (hdir' : t'.node root' = .ok (.dir es'))
  (hsame : (Node.dir es).SameFiles (.dir es'))
include hdir hdir' hsame

/-- The text of an offered file is the same in both places. -/
theorem text_relocated {excluded ns : List String} (h : (Node.dir es).Offers excluded ns) :
    t.text (FilePath.descend root ns) = t'.text (FilePath.descend root' ns) := by
  obtain ⟨data, hfile⟩ := h.file
  have hnode := (FileTree.node_descend_iff hdir hsame.linkless h.names).mpr hfile
  have hnode' := (FileTree.node_descend_iff hdir' hsame.linkless_other h.names).mpr
    ((hsame.file_iff ns data).mp hfile)
  unfold FileTree.text
  rw [hnode, hnode']

theorem gather_relocated {excluded : List String}
    (hname : FileTree.rootName root ∉ FileTree.excludedNames ++ excluded)
    (hname' : FileTree.rootName root' ∉ FileTree.excludedNames ++ excluded) :
    ∃ nss : List (List String),
      gather t root excluded = .ok (nss.map (FilePath.descend root)) ∧
      gather t' root' excluded = .ok (nss.map (FilePath.descend root')) ∧
      ∀ ns ∈ nss, (Node.dir es).Offers (FileTree.excludedNames ++ excluded) ns := by
  obtain ⟨nss, hgather, hlisting, hmem⟩ := gather_offered hdir hsame.linkless hname
  obtain ⟨nss', hgather', hlisting', hmem'⟩ := gather_offered hdir' hsame.linkless_other hname'
  have hroot := (listing_of_gather hgather).1
  have hroot' := (listing_of_gather hgather').1
  have hnss : ∀ ns ∈ nss, ns ≠ [] ∧ ∀ n ∈ ns, IsEntryName n := fun ns hns =>
    ⟨((hmem ns).mp hns).ne_nil, ((hmem ns).mp hns).names⟩
  have hmoved := hlisting.relocate hroot hroot' hnss
  have hnames : ∀ ns, ns ∈ nss' ↔ ns ∈ nss := by
    intro ns
    rw [hmem, hmem']
    exact ⟨hsame.symm.offers, hsame.offers⟩
  have hfiles : nss'.map (FilePath.descend root') = nss.map (FilePath.descend root') := by
    refine hlisting'.ext hroot' hmoved fun f => ?_
    simp only [List.mem_map, hnames]
  exact ⟨nss, hgather, hfiles ▸ hgather', fun ns hns => (hmem ns).mp hns⟩

end

/-- **Relocation.** Take two directories without links, on one disk or on two, that
hold the same files, and for each a path that leads to it: absolute or not, with
dots, repeated slashes or one at its end. If neither path is left out by its name,
both analyses under one rule, with the same directories left out and the same units
ignored, end, and their results differ in the root only. -/
theorem analyze_relocated (p : Plan) {t t' : Disk} {root' : String}
    {es es' : List (String × Node)} (hdir : t.node p.root = .ok (.dir es))
    (hdir' : t'.node root' = .ok (.dir es')) (hsame : (Node.dir es).SameFiles (.dir es'))
    (hname : FileTree.rootName p.root ∉ FileTree.excludedNames ++ p.excludedDirs)
    (hname' : FileTree.rootName root' ∉ FileTree.excludedNames ++ p.excludedDirs) :
    ∃ a, p.analyze t = .ok a ∧ a.root = p.root ∧
      { p with root := root' }.analyze t' = .ok { a with root := root' } := by
  obtain ⟨nss, hgather, hgather', hoffers⟩ :=
    gather_relocated hdir hdir' hsame hname hname'
  have hroot := (listing_of_gather hgather).1
  have hroot' := (listing_of_gather hgather').1
  have hread : { p with root := root' }.read t' (nss.map (FilePath.descend root')) =
      p.read t (nss.map (FilePath.descend p.root)) := by
    unfold read
    rw [List.map_map, List.map_map]
    refine List.map_congr_left fun ns hns => ?_
    have htext := text_relocated hdir hdir' hsame (hoffers ns hns)
    exact (Reading.ofFile_descend hroot hroot' (hoffers ns hns).names htext).symm
  refine ⟨_, analyze_of_gather hgather, rfl, ?_⟩
  rw [analyze_of_gather hgather', hread]
  rfl

/-- A package with a library and a test, as entries of its directory. -/
def movable : List (String × Node) :=
  [("src", .dir [("lib.rs", .file orderText.toUTF8), ("m.rs", .file "trait T {}".toUTF8)]),
    ("tests", .dir [("a.rs", .file "struct R;".toUTF8)])]

/-- The package at `/p`. -/
def oldHome : Disk where
  root := .dir [("p", .dir movable)]
  cwd := []

/-- The package at `/home/q`, its entries the other way round, seen from there. -/
def newHome : Disk where
  root := .dir [("home", .dir [("q", .dir movable.reverse)])]
  cwd := ["home", "q"]

def homePlan (root : String) : Plan := setParentTypes { root } ["Entity"]

def oldReadings : List Reading :=
  (homePlan "//p/./").read oldHome ["//p/./src/lib.rs", "//p/./src/m.rs", "//p/./tests/a.rs"]

theorem analyze_oldHome :
    (homePlan "//p/./").analyze oldHome = .ok ((homePlan "//p/./").report oldReadings) := by
  have hfound : oldHome.sourcesBelow (FileTree.excludedNames ++ []) "//p/./" =
      .ok ["//p/./src/lib.rs", "//p/./src/m.rs", "//p/./tests/a.rs"] := by rfl
  refine analyze_of_gather (gather_eq_ok_iff.mpr ⟨_, hfound, ?_⟩)
  rw [List.mergeSort_of_pairwise (by decide)]

theorem findings_oldHome : ((homePlan "//p/./").report oldReadings).diagnostics =
    [orderFamily.diagnostic (homePlan "//p/./").rule] := by
  have hread : oldReadings = ⟨Location.library, .ok ⟨[order], []⟩⟩ ::
      (homePlan "//p/./").read oldHome ["//p/./src/m.rs", "//p/./tests/a.rs"] := by
    rw [oldReadings, read, List.map_cons, Reading.ofFile_of_ofText Location.library (by rfl)
      (by decide) (by decide) (by decide) ofText_order]
    rfl
  have htargets : ((oldReadings.filter (·.extraction?.isSome)).map (·.target)).eraseDups =
      [Location.library, "tests/a"] := by
    rw [hread]
    decide +kernel
  have hkeys : Target.keys oldReadings = [Location.library, "tests/a"] := by
    rw [Target.keys, htargets, List.mergeSort_of_pairwise (by decide)]
  have hsites : Target.allSites oldReadings =
      orderFamily.site :: Target.sites oldReadings "tests/a" := by
    rw [Target.allSites, hkeys, hread]
    decide +kernel
  have hrest : ∀ s ∈ Target.sites oldReadings "tests/a",
      (homePlan "//p/./").stemsOf s.unit = [] := by
    rw [hread]
    decide +kernel
  have hchecks : (homePlan "//p/./").checks oldReadings orderFamily.site = true :=
    checks_of_chain (by decide +kernel) (List.mem_singleton_self "Entity") List.mem_cons_self
      (List.isChain_singleton "Entity") (by decide)
  rw [diagnostics_eq_reported, reported, families_eq, hsites,
    familiesAt_first hchecks (by decide +kernel) hrest, List.mergeSort_singleton]
  rfl

/-- The three files of the package are read under either path, with one finding. -/
theorem movable_relocated :
    ∃ a, (homePlan "//p/./").analyze oldHome = .ok a ∧ a.root = "//p/./" ∧ a.files = 3 ∧
      a.diagnostics = [orderFamily.diagnostic (homePlan "//p/./").rule] ∧
      (homePlan ".").analyze newHome = .ok { a with root := "." } := by
  have hplain : (Node.dir movable).Plain := by
    simp [movable, Node.plain_dir_iff, Node.Plain.file, Manifest.fileName]
  have hsame : (Node.dir movable).SameFiles (.dir movable.reverse) :=
    Node.SameFiles.of_perm (List.reverse_perm movable).symm (by decide) hplain.linkless
  have hdir : oldHome.node "//p/./" = .ok (.dir movable) := rfl
  have hdir' : newHome.node "." = .ok (.dir movable.reverse) := rfl
  obtain ⟨a, ha, hroot, hmoved⟩ := analyze_relocated (homePlan "//p/./") hdir hdir' hsame
    (by decide) (by decide)
  obtain rfl := Except.ok.inj (analyze_oldHome.symm.trans ha)
  exact ⟨_, ha, hroot, rfl, findings_oldHome, hmoved⟩

end Plan

end EnumFamily
