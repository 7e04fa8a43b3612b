import EnumFamily.Proofs.Canonical
import EnumFamily.Proofs.RelativePaths
import EnumFamily.Proofs.SourceListing
import EnumFamily.Workspace

/-!
# Members found by looking

Where the package manager cannot be asked, the members of a workspace are found in the
file tree: the root itself, and the directories right below it that have a manifest.
The walk for source files passes over every directory below a root that has a manifest,
at any depth, so a package that is no member is analysed by nobody.

Results:
* `scan_of_dir`, `mem_found_iff`: what is found in a directory.
* `strictly_sorted_found`: sorted, it stands in strictly ascending order of paths.
* `near_packages_found`: a package at the root or right below it is found, once, unless
  its name is left out; one that lies deeper is not.
* `deep_package_missed`: so a package two directories below the root is no member, and
  its source file is listed for none.
-/
namespace EnumFamily

namespace FileTree

theorem contains_of_isFile {t : FileTree} {path : String} (h : t.isFile path = true) :
    t.contains path = true := by
  unfold isFile at h
  unfold contains
  cases hnode : t.node path with
  | error e => rw [hnode] at h; cases h
  | ok node => rfl

theorem contains_of_isDir {t : FileTree} {path : String} (h : t.isDir path = true) :
    t.contains path = true := by
  obtain ⟨es, hnode⟩ := isDir_iff.mp h
  rw [contains, hnode]

theorem entries_of_node {t : FileTree} {path : String} {es : List (String × Node)}
    (h : t.node path = .ok (.dir es)) : t.entries path = .ok (es.map (·.1)) := by
  rw [entries, h]
  rfl

/-- A directory inside a directory below a root without links is one of its entries. -/
theorem isDir_of_isDir_below {t : FileTree} {root n m : String} {es : List (String × Node)}
    (hnode : t.node root = .ok (.dir es)) (hlink : (Node.dir es).Linkless) (hn : IsEntryName n)
    (hm : IsEntryName m) (h : t.isDir (FilePath.join (FilePath.descend root [n]) m) = true) :
    n ∈ es.map (·.1) ∧ t.isDir (FilePath.descend root [n]) = true := by
  obtain ⟨inner, hinner⟩ := isDir_iff.mp h
  have hnames : ∀ k ∈ [n] ++ [m], IsEntryName k := by simpa using ⟨hn, hm⟩
  have hbelow : (Node.dir es).get? ([n] ++ [m]) = some (.dir inner) :=
    (node_descend_iff hnode hlink hnames).mp hinner
  obtain ⟨es', hget, -⟩ := Node.exists_dir_of_get?_concat hbelow
  refine ⟨?_, isDir_iff.mpr ⟨es', (node_descend_iff hnode hlink (by simpa using hn)).mpr hget⟩⟩
  rw [Node.get?_dir_cons] at hget
  obtain ⟨child, hl, -⟩ := Option.bind_eq_some_iff.mp hget
  exact List.mem_map_of_mem (Node.mem_of_lookup hl)

end FileTree

namespace Workspace

/-! ## What is found in a directory -/

/-- The members in a directory with the given entries, in no order. -/
def found (t : FileTree) (root : String) (names : List String) : List String :=
  (if t.contains (FilePath.join root "src") && t.contains (Manifest.pathIn root) then [root]
    else []) ++
  ((names.filter (!skippedNames.contains ·)).map (FilePath.join root)).filter (isPackageDir t)

theorem scan_of_dir {t : FileTree} {root : String} {es : List (String × Node)}
    (h : t.node root = .ok (.dir es)) :
    scan t root = .ok ((found t root (es.map (·.1))).mergeSort FilePath.le) := by
  unfold scan
  rw [FileTree.entries_of_node h]
  rfl

/-- The root counts if it has sources and a manifest, an entry if it is a directory with
a manifest and no name that is left out. -/
theorem mem_found_iff {t : FileTree} {root d : String} {names : List String} :
    d ∈ found t root names ↔
      (d = root ∧ t.contains (FilePath.join root "src") = true ∧
        t.contains (Manifest.pathIn root) = true) ∨
      ∃ n ∈ names, n ∉ skippedNames ∧ isPackageDir t (FilePath.join root n) = true ∧
        d = FilePath.join root n := by
  simp only [found, List.mem_append, List.mem_filter, List.mem_map, List.mem_ite_nil_right,
    Bool.and_eq_true, List.mem_singleton, Bool.not_eq_true', List.contains_eq_mem,
    decide_eq_false_iff_not]
  constructor
  · rintro (⟨hown, rfl⟩ | ⟨⟨n, ⟨hn, hskip⟩, rfl⟩, hdir⟩)
    · exact Or.inl ⟨rfl, hown⟩
    · exact Or.inr ⟨n, hn, hskip, hdir, rfl⟩
  · rintro (⟨rfl, hown⟩ | ⟨n, hn, hskip, hdir, rfl⟩)
    · exact Or.inl ⟨hown, rfl⟩
    · exact Or.inr ⟨⟨n, ⟨hn, hskip⟩, rfl⟩, hdir⟩

section
variable {t : FileTree} {root : String} {names : List String}
  (hnames : ∀ n ∈ names, IsEntryName n)
include hnames

/-- What is found is the root, or has one name more. -/
theorem near_of_mem_found {d : String} (h : d ∈ found t root names) :
    ∃ ns, ns.length ≤ 1 ∧ (∀ n ∈ ns, IsEntryName n) ∧ d = FilePath.descend root ns := by
  rcases mem_found_iff.mp h with ⟨rfl, -⟩ | ⟨n, hn, -, -, rfl⟩
  · exact ⟨[], by simp, by simp, rfl⟩
  · exact ⟨[n], by simp, by simpa using hnames n hn, rfl⟩

theorem nodup_found (hnodup : names.Nodup) : (found t root names).Nodup := by
  have hjoin : ((names.filter (!skippedNames.contains ·)).map (FilePath.join root)).Nodup := by
    refine List.pairwise_map.mpr ((hnodup.filter _).imp_of_mem fun {n m} hn hm hne heq => hne ?_)
    have hcomponents := congrArg FilePath.components heq
    rw [FilePath.components_join root (hnames n (List.mem_filter.mp hn).1),
      FilePath.components_join root (hnames m (List.mem_filter.mp hm).1)] at hcomponents
    simpa using hcomponents
  refine List.nodup_append.mpr ⟨by split <;> simp, hjoin.filter _, ?_⟩
  rintro d hd d' hd' rfl
  obtain ⟨n, hn, hjoined⟩ := List.mem_map.mp (List.mem_filter.mp hd').1
  obtain rfl : d = root := List.mem_singleton.mp (List.mem_ite_nil_right.mp hd).2
  -- a path with one name more is another path
  have hcomponents := congrArg FilePath.components hjoined
  rw [FilePath.components_join d (hnames n (List.mem_filter.mp hn).1)] at hcomponents
  simp at hcomponents

end

/-- Packages at the root or right below it are found, if their names are not left out. -/
theorem mem_found_of_package {t : FileTree} {root : String} {es : List (String × Node)}
    (hnode : t.node root = .ok (.dir es)) (hlink : (Node.dir es).Linkless) {ns : List String}
    (hns : ∀ n ∈ ns, IsEntryName n ∧ n ∉ skippedNames) (hnear : ns.length ≤ 1)
    (hmanifest : t.hasManifest (FilePath.descend root ns) = true)
    (hsources : t.isDir (FilePath.join (FilePath.descend root ns) "src") = true) :
    FilePath.descend root ns ∈ found t root (es.map (·.1)) := by
  have hcontains : t.contains (Manifest.pathIn (FilePath.descend root ns)) = true :=
    FileTree.contains_of_isFile hmanifest
  refine mem_found_iff.mpr ?_
  match ns, hnear with
  | [], _ => exact Or.inl ⟨rfl, FileTree.contains_of_isDir hsources, hcontains⟩
  | [n], _ =>
    obtain ⟨hn, hskip⟩ := hns n List.mem_cons_self
    obtain ⟨hmem, hdir⟩ :=
      FileTree.isDir_of_isDir_below hnode hlink hn (by decide) hsources
    refine Or.inr ⟨n, hmem, hskip, ?_, rfl⟩
    exact Bool.and_eq_true_iff.mpr ⟨hdir, hcontains⟩

/-! ## The members in order -/

theorem same_eq_false_of_lt {a b : String} (h : FilePath.le a b = false) :
    FilePath.same a b = false ∧ FilePath.same b a = false := by
  have hne : FilePath.components a ≠ FilePath.components b := by
    intro heq
    have hself := FilePath.componentsLe_total (FilePath.components b) (FilePath.components b)
    rw [FilePath.le, heq] at h
    simp [h] at hself
  exact ⟨beq_eq_false_iff_ne.mpr hne, beq_eq_false_iff_ne.mpr hne.symm⟩

/-- No path stands twice in a strictly ascending list, however it is spelled. -/
theorem countP_same_of_mem {paths : List String}
    (h : paths.Pairwise fun a b => FilePath.le a b = true ∧ FilePath.le b a = false) {d : String}
    (hd : d ∈ paths) : paths.countP (FilePath.same d) = 1 := by
  obtain ⟨before, after, rfl⟩ := List.append_of_mem hd
  obtain ⟨-, hafter, hbefore⟩ := List.pairwise_append.mp h
  have hnone : before.countP (FilePath.same d) = 0 := by
    refine List.countP_eq_zero.mpr fun a ha => ?_
    have hlt := (hbefore a ha d List.mem_cons_self).2
    simp [(same_eq_false_of_lt hlt).1]
  have hnone' : after.countP (FilePath.same d) = 0 := by
    refine List.countP_eq_zero.mpr fun a ha => ?_
    have hlt := ((List.pairwise_cons.mp hafter).1 a ha).2
    simp [(same_eq_false_of_lt hlt).2]
  have hself : FilePath.same d d = true := beq_self_eq_true _
  rw [List.countP_append, List.countP_cons, hnone, hnone', hself]
  rfl

/-- Without a usable answer of the package manager the tree is looked at. -/
theorem members_eq_scan (t : FileTree) (root : String) {listing : Option MemberListing}
    (hlisting : ∀ l ∈ listing, l.roots = []) : members t listing root = scan t root := by
  have hnone : (listing.map MemberListing.roots).getD [] = [] := by
    cases listing with
    | none => rfl
    | some l => exact hlisting l rfl
  unfold members
  rw [hnone, ite_self]

theorem outcomes_of_members {t : FileTree} {root : String} {listing : Option MemberListing}
    {ms : List String} (h : members t listing root = .ok ms) (adjust : Plan → Plan) :
    (analyze t listing adjust root).outcomes.map (·.1) = ms := by
  simp only [analyze, h, List.map_map]
  exact List.map_id ms

/-- In a directory what is found gives the members, in strictly ascending order. -/
theorem strictly_sorted_found {t : Disk} {root : String} {es : List (String × Node)}
    (hnode : t.node root = .ok (.dir es)) :
    (∀ d ∈ found t root (es.map (·.1)),
      ∃ ns, ns.length ≤ 1 ∧ (∀ n ∈ ns, IsEntryName n) ∧ d = FilePath.descend root ns) ∧
    ((found t root (es.map (·.1))).mergeSort FilePath.le).Pairwise fun a b =>
      FilePath.le a b = true ∧ FilePath.le b a = false := by
  obtain ⟨place, hplace, hget⟩ := FileTree.node_eq_ok_iff.mp hnode
  cases t.wellFormed.of_get? hget with
  | dir hnodup hnames _ =>
    have hentry : ∀ n ∈ es.map (·.1), IsEntryName n := by
      intro n hn
      obtain ⟨e, he, rfl⟩ := List.mem_map.mp hn
      exact hnames e he
    have hsort := stableSort_mergeSort FilePath.le_isTotalPreorder (found t root (es.map (·.1)))
    refine ⟨fun d hd => near_of_mem_found hentry hd, ?_⟩
    refine strictly_sorted_of_below (FileTree.ne_empty_of_resolve hplace) (fun d hd => ?_)
      (hsort.perm.nodup_iff.mpr (nodup_found hentry hnodup)) hsort.sorted
    obtain ⟨ns, -, hns, hd⟩ := near_of_mem_found hentry (List.mem_mergeSort.mp hd)
    exact ⟨ns, hns, hd⟩

/-- **Members found by looking.** Take a disk without links, a directory on it as the root
of a workspace, and no usable answer of the package manager. The members can be listed, in
strictly ascending order of paths, and these are the packages that are analysed. A
directory with a manifest and a directory of sources is one of them, once, if it is the
root or stands right below it under a name that is not left out. If it lies deeper it is
none of them. -/
theorem near_packages_found {t : Disk} (hlink : t.root.Linkless) {root : String}
    (hroot : t.isDir root = true) {listing : Option MemberListing}
    (hlisting : ∀ l ∈ listing, l.roots = []) :
    ∃ ms, members t listing root = .ok ms ∧
      ms.Pairwise (fun a b => FilePath.le a b = true ∧ FilePath.le b a = false) ∧
      (∀ adjust, (analyze t listing adjust root).outcomes.map (·.1) = ms) ∧
      ∀ ns, (∀ n ∈ ns, IsEntryName n ∧ n ∉ ["target", ".git", "node_modules", ".cargo"]) →
        t.isFile (Manifest.pathIn (FilePath.descend root ns)) = true →
        t.isDir (FilePath.join (FilePath.descend root ns) "src") = true →
        (ns.length ≤ 1 → FilePath.descend root ns ∈ ms ∧
          ms.countP (FilePath.same (FilePath.descend root ns)) = 1) ∧
        (1 < ns.length → ms.countP (FilePath.same (FilePath.descend root ns)) = 0) := by
  obtain ⟨es, hnode⟩ := FileTree.isDir_iff.mp hroot
  obtain ⟨place, hplace, hget⟩ := FileTree.node_eq_ok_iff.mp hnode
  have hmembers := (members_eq_scan t root hlisting).trans (scan_of_dir hnode)
  obtain ⟨hnear, hsorted⟩ := strictly_sorted_found hnode
  refine ⟨_, hmembers, hsorted, outcomes_of_members hmembers, ?_⟩
  intro ns hns hmanifest hsources
  constructor
  · intro hlength
    have hkept : ∀ n ∈ ns, IsEntryName n ∧ n ∉ skippedNames := by
      have hless : ∀ n ∈ skippedNames, n ∈ ["target", ".git", "node_modules", ".cargo"] := by decide
      exact fun n hn => ⟨(hns n hn).1, fun hskip => (hns n hn).2 (hless n hskip)⟩
    have hmem := mem_found_of_package hnode (hlink.of_get? hget) hkept hlength hmanifest hsources
    exact ⟨List.mem_mergeSort.mpr hmem, countP_same_of_mem hsorted (List.mem_mergeSort.mpr hmem)⟩
  · intro hlength
    refine List.countP_eq_zero.mpr fun d hd hsame => ?_
    obtain ⟨ms, hms, hnames, rfl⟩ := hnear d (List.mem_mergeSort.mp hd)
    obtain rfl : ns = ms := FilePath.descend_injective (FileTree.ne_empty_of_resolve hplace)
      (fun n hn => (hns n hn).1) hnames (beq_iff_eq.mp hsame)
    omega

/-- A package at `/ws`, one right below it, and one in a directory of packages. -/
def layered : Disk where
  root := .dir [("ws", .dir [("Cargo.toml", .file "".toUTF8),
    ("src", .dir [("lib.rs", .file "".toUTF8)]),
    ("core", .dir [("Cargo.toml", .file "".toUTF8), ("src", .dir [])]),
    ("crates", .dir [("a", .dir [("Cargo.toml", .file "".toUTF8),
      ("src", .dir [("lib.rs", .file "".toUTF8)])])])])]
  cwd := []

theorem layered_linkless : layered.root.Linkless := by
  have hplain : layered.root.Plain := by
    simp [layered, Node.plain_dir_iff, Node.Plain.file, Manifest.fileName]
  exact hplain.linkless

theorem members_layered : members layered none "/ws" = .ok ["/ws", "/ws/core"] := by
  have hfound : ∃ es, layered.node "/ws" = .ok (.dir es) ∧
      found layered "/ws" (es.map (·.1)) = ["/ws", "/ws/core"] := ⟨_, rfl, by decide⟩
  obtain ⟨es, hnode, hfound⟩ := hfound
  rw [members_eq_scan layered "/ws" (by simp), scan_of_dir hnode, hfound,
    List.mergeSort_of_pairwise (by decide)]

/-- The packages at `/ws` and at `/ws/core` are members. -/
theorem layered_near :
    ∃ ms, members layered none "/ws" = .ok ms ∧ "/ws" ∈ ms ∧ "/ws/core" ∈ ms ∧
      ms.countP (FilePath.same "/ws/core") = 1 := by
  have hdir : layered.isDir "/ws" = true := by rfl
  have hnone : ∀ l ∈ (none : Option MemberListing), l.roots = [] := by simp
  obtain ⟨ms, hms, -, -, hpackages⟩ :=
    near_packages_found layered_linkless hdir hnone
  obtain ⟨hroot, -⟩ := (hpackages [] (by simp) (by rfl) (by rfl)).1 (by decide)
  obtain ⟨hcore, honce⟩ := (hpackages ["core"] (by decide) (by rfl) (by rfl)).1 (by decide)
  exact ⟨ms, hms, hroot, hcore, honce⟩

/-- The package at `/ws/crates/a` is not a member, and its file is listed for none. -/
theorem deep_package_missed :
    layered.root.Linkless ∧ layered.isDir "/ws" = true ∧
      (∀ n ∈ ["crates", "a"],
        IsEntryName n ∧ n ∉ ["target", ".git", "node_modules", ".cargo"]) ∧
      layered.isFile (Manifest.pathIn "/ws/crates/a") = true ∧
      layered.isDir (FilePath.join "/ws/crates/a" "src") = true ∧
      members layered none "/ws" = .ok ["/ws", "/ws/core"] ∧
      "/ws/crates/a" ∉ ["/ws", "/ws/core"] ∧
      layered.isFile "/ws/crates/a/src/lib.rs" = true ∧
      Plan.gather layered "/ws" [] = .ok ["/ws/src/lib.rs"] ∧
      Plan.gather layered "/ws/core" [] = .ok [] := by
  have hroot : Plan.gather layered "/ws" [] = .ok ["/ws/src/lib.rs"] :=
    Plan.gather_eq_ok_iff.mpr ⟨["/ws/src/lib.rs"], by rfl, by simp⟩
  have hcore : Plan.gather layered "/ws/core" [] = .ok [] :=
    Plan.gather_eq_ok_iff.mpr ⟨[], by rfl, by simp⟩
  exact ⟨layered_linkless, by rfl, by decide, by rfl, by rfl, members_layered,
    by decide, by rfl, hroot, hcore⟩

end Workspace

end EnumFamily
