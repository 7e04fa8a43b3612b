import EnumFamily.Proofs.Gathering
import EnumFamily.Proofs.Reordering

/-!
# Which source files are listed

The walk decides entry by entry, on the way down, what it passes over. `Listed` says
of a path what an operating system can be asked about it and about the directories
above it. The two agree, so the listed files do not depend on the order in which
directories give their entries, nor on the order in which the files arrive at the
sort.

Results:
* `isRealDir_descend_iff`, `exists_countsAsFile`: what stands below a real directory, asked
  by its path.
* `mem_sourcesIn_iff_listed`: the walk finds what is `Listed`.
* `Listing.mergeSort_of_perm`: files that arrive in another order are sorted alike.
* `gather_listed`: which files are listed, and in which order, whatever the order in
  which they were found.
-/
namespace EnumFamily

namespace FileTree

/-- The path names a directory itself, not a link to one. -/
def IsRealDir (t : FileTree) (path : String) : Prop := ∃ es, t.nodeOrLink path = .ok (.dir es)

/-- The names `ns` lead from a root to a source file, through directories that are no
links, have no excluded name, and, the root apart, no manifest. -/
structure Listed (t : FileTree) (excluded : List String) (root : String) (ns : List String) :
    Prop where
  ne_nil : ns ≠ []
  names : ∀ n ∈ ns, IsEntryName n
  file : t.isFile (FilePath.descend root ns) = true
  extension : FilePath.extension? (FilePath.descend root ns) = some "rs"
  /-- a link to a directory is passed as a root, whatever it is called; the name of a
  directory is the last one of its path, or the whole path if that ends in no name -/
  start : t.IsRealDir root → rootName root ∉ excluded
  way : ∀ ms m, ms ++ [m] <+: ns → ms ++ [m] ≠ ns →
    t.IsRealDir (FilePath.descend root (ms ++ [m])) ∧ m ∉ excluded ∧
      t.hasManifest (FilePath.descend root (ms ++ [m])) = false

/-! ## Below a real directory -/

section
variable {t : FileTree} {root : String} {place : List String} (hroot : t.resolve root = .ok place)
  {ms : List String} {m : String} (hns : ∀ n ∈ ms ++ [m], IsEntryName n)
  {es : List (String × Node)} (hdir : t.root.get? (place ++ ms) = some (.dir es))
include hroot hns hdir

theorem resolveTo_link_below {dest : List String}
    (h : t.resolveTo .link (FilePath.descend root (ms ++ [m])) = .ok dest) :
    dest = place ++ ms ++ [m] := by
  obtain ⟨ss, k, -, hsteps, hleads⟩ := leads_root hroot hns (by simp)
  rw [List.map_append, ← List.append_assoc] at hsteps
  have hempty := FilePath.descend_ne_empty (ne_empty_of_resolve hroot) hns
  obtain ⟨k', mid, -, hmid, hlast⟩ := (resolveTo_link_iff hempty hsteps).mp h
  obtain rfl : mid = place ++ ms := hmid.unique (hleads.append (leads_names hdir))
  cases hlast
  rfl

theorem isRealDir_descend_iff :
    t.IsRealDir (FilePath.descend root (ms ++ [m])) ↔
      ∃ es', t.root.get? (place ++ ms ++ [m]) = some (.dir es') := by
  constructor
  · rintro ⟨es', hnode⟩
    obtain ⟨dest, hdest, hget⟩ := nodeOrLink_eq_ok_iff.mp hnode
    rw [resolveTo_link_below hroot hns hdir hdest] at hget
    exact ⟨es', hget⟩
  · rintro ⟨es', hget⟩
    have hentry := resolveTo_link_descend hroot hns (by simp) (List.append_assoc .. ▸ hget)
    exact ⟨es', nodeOrLink_eq_ok_iff.mpr ⟨_, hentry, List.append_assoc .. ▸ hget⟩⟩

/-- If a path leads to a file, its last name is that of a file or of a link to one. -/
theorem exists_countsAsFile (hfile : t.isFile (FilePath.descend root (ms ++ [m])) = true) :
    ∃ leaf, t.root.get? (place ++ ms ++ [m]) = some leaf ∧
      t.CountsAsFile (FilePath.descend root (ms ++ [m])) leaf := by
  obtain ⟨dest, data, hdest, hdata⟩ := isFile_iff.mp hfile
  obtain ⟨k, hlast⟩ := leads_last_of_resolve hroot hns hdir hdest
  rcases (leads_name_iff hdir).mp hlast with ⟨node, hl, hno, hdone⟩ | ⟨target, j, hl, -⟩
  · cases hdone
    exact ⟨_, hdata, trivial⟩
  · exact ⟨_, Node.get?_concat hdir hl, hfile⟩

end

/-! ## What the walk finds -/

section
variable {t : FileTree} {root : String} {place : List String} (hroot : t.resolve root = .ok place)
  {es : List (String × Node)} (hdir : t.root.get? place = some (.dir es))
include hroot hdir

/-- If all directories on the way are real, the names lead through directories. -/
theorem dir_of_way {ns : List String} (hns : ∀ n ∈ ns, IsEntryName n)
    (hway : ∀ ms m, ms ++ [m] <+: ns → ms ++ [m] ≠ ns →
      t.IsRealDir (FilePath.descend root (ms ++ [m])))
    {ms : List String} (hpre : ms <+: ns) (hproper : ms ≠ ns) :
    ∃ es', t.root.get? (place ++ ms) = some (.dir es') := by
  induction ms using List.reverseRecOn with
  | nil => exact ⟨es, by simpa using hdir⟩
  | append_singleton ms m ih =>
    have hshort : ms <+: ns := (List.prefix_append ms [m]).trans hpre
    have hne : ms ≠ ns := by
      rintro rfl
      have hlen := hpre.length_le
      rw [List.length_append, List.length_singleton] at hlen
      omega
    obtain ⟨es', hes'⟩ := ih hshort hne
    have hnames : ∀ n ∈ ms ++ [m], IsEntryName n := fun n hn => hns n (hpre.subset hn)
    rw [← List.append_assoc]
    exact (isRealDir_descend_iff hroot hnames hes').mp (hway ms m hpre hproper)

omit hroot in
theorem get?_below (ns : List String) : t.root.get? (place ++ ns) = (Node.dir es).get? ns := by
  rw [Node.get?_append, hdir, Option.bind_some]

/-- The directories that the walk passes are real. -/
theorem isRealDir_of_finds {ns : List String} {f : String} (h : t.Finds root (.dir es) ns f)
    {ms : List String} {m : String} (hpre : ms ++ [m] <+: ns) (hproper : ms ++ [m] ≠ ns) :
    t.IsRealDir (FilePath.descend root (ms ++ [m])) := by
  have hnames : ∀ n ∈ ms ++ [m], IsEntryName n := fun n hn => h.names n (hpre.subset hn)
  obtain ⟨leaf, hleaf, -⟩ := h.leaf
  obtain ⟨rest, rfl⟩ := hpre
  cases rest with
  | nil => simp at hproper
  | cons r rest =>
    -- something lies below the names, so they lead to a directory
    rw [Node.get?_append] at hleaf
    obtain ⟨node, hnode, hbelow⟩ := Option.bind_eq_some_iff.mp hleaf
    obtain ⟨es', rfl⟩ := Node.dir_of_get?_cons hbelow
    rw [← get?_below hdir, ← List.append_assoc] at hnode
    obtain ⟨above, habove, -⟩ := Node.exists_dir_of_get?_concat hnode
    exact (isRealDir_descend_iff hroot hnames habove).mpr ⟨es', hnode⟩

/-- What the walk finds below a root that is not left out. -/
theorem mem_sourcesIn_iff_listed (hwf : (Node.dir es).WellFormed) {excluded : List String}
    (hstart : t.IsRealDir root → rootName root ∉ excluded) {f : String} :
    f ∈ t.sourcesIn excluded root es ↔
      ∃ ns, t.Listed excluded root ns ∧ f = FilePath.descend root ns := by
  rw [mem_sourcesIn_iff hwf]
  constructor
  · rintro ⟨ns, hfinds, hopen⟩
    have hne : ns ≠ [] := by
      obtain ⟨e, -, rest, rfl, -⟩ := (finds_dir_iff hwf).mp hfinds
      simp
    obtain ⟨dest, data, hstands⟩ := hfinds.stands hroot hdir hne
    have hfile : t.isFile f = true := isFile_iff.mpr ⟨dest, data, hstands.content, hstands.data⟩
    have hway : ∀ ms m, ms ++ [m] <+: ns → ms ++ [m] ≠ ns →
        t.IsRealDir (FilePath.descend root (ms ++ [m])) ∧ m ∉ excluded ∧
          t.hasManifest (FilePath.descend root (ms ++ [m])) = false := fun ms m hpre hproper =>
      ⟨isRealDir_of_finds hroot hdir hfinds hpre hproper, hopen ms m hpre hproper⟩
    obtain ⟨hns, rfl, -, hsource⟩ := hfinds
    exact ⟨ns, ⟨hne, hns, hfile, beq_iff_eq.mp hsource, hstart, hway⟩, rfl⟩
  · rintro ⟨ns, ⟨hne, hns, hfile, hext, -, hway⟩, rfl⟩
    obtain ⟨ms, m, rfl⟩ : ∃ ms m, ns = ms ++ [m] :=
      ⟨_, _, (List.dropLast_concat_getLast hne).symm⟩
    obtain ⟨above, habove⟩ := dir_of_way hroot hdir hns
      (fun ms' m' hpre hproper => (hway ms' m' hpre hproper).1) (List.prefix_append ms [m])
      (by simp)
    obtain ⟨leaf, hleaf, hcounts⟩ := exists_countsAsFile hroot hns habove hfile
    rw [List.append_assoc, get?_below hdir] at hleaf
    exact ⟨_, ⟨hns, rfl, ⟨leaf, hleaf, hcounts⟩, beq_iff_eq.mpr hext⟩, fun ms' m' hpre hproper =>
      (hway ms' m' hpre hproper).2⟩

end

/-- A directory is walked through, unless it is real and its name is excluded. -/
theorem sourcesBelow_iff_listed {t : Disk} {root : String} (hroot : t.isDir root = true)
    (excluded : List String) :
    ∃ found, t.sourcesBelow excluded root = .ok found ∧
      ∀ f, f ∈ found ↔ ∃ ns, t.Listed excluded root ns ∧ f = FilePath.descend root ns := by
  obtain ⟨es, hnode⟩ := isDir_iff.mp hroot
  obtain ⟨place, hplace, hdir⟩ := node_eq_ok_iff.mp hnode
  have hfound := fun hstart f =>
    @mem_sourcesIn_iff_listed t root place hplace es hdir (t.wellFormed.of_get? hdir) excluded
      hstart f
  rcases nodeOrLink_of_node hnode with hreal | ⟨target, hlink⟩
  · by_cases hname : rootName root ∈ excluded
    · refine ⟨[], by simp [sourcesBelow, hreal, bind, Except.bind, hname], fun f => ?_⟩
      refine iff_of_false List.not_mem_nil ?_
      rintro ⟨ns, hlisted, -⟩
      exact hlisted.start ⟨es, hreal⟩ hname
    · exact ⟨_, sourcesBelow_of_dir hnode hname, hfound fun _ => hname⟩
  · have hnot : ¬ t.IsRealDir root := by
      rintro ⟨es', hreal⟩
      cases hlink.symm.trans hreal
    refine ⟨t.sourcesIn excluded root es, ?_, hfound fun hreal => absurd hreal hnot⟩
    simp [sourcesBelow, hlink, hnode, bind, Except.bind]

/-! ## Any order -/

/-- What is listed depends on which paths are files and real directories. -/
theorem Listed.congr {t t' : FileTree} (hfile : ∀ path, t.isFile path = t'.isFile path)
    (hreal : ∀ path, t.IsRealDir path ↔ t'.IsRealDir path) {excluded : List String} {root : String}
    {ns : List String} (h : t.Listed excluded root ns) : t'.Listed excluded root ns where
  ne_nil := h.ne_nil
  names := h.names
  file := hfile _ ▸ h.file
  extension := h.extension
  start hstart := h.start ((hreal root).mpr hstart)
  way ms m hpre hproper := by
    obtain ⟨hdir, hname, hmanifest⟩ := h.way ms m hpre hproper
    refine ⟨(hreal _).mp hdir, hname, ?_⟩
    rw [hasManifest, ← hfile]
    exact hmanifest

theorem listed_reordered {t : Disk} {t' : FileTree} (h : t.Reordered t')
    {excluded : List String} {root : String} {ns : List String} :
    t'.Listed excluded root ns ↔ t.Listed excluded root ns := by
  have hfile : ∀ path, t.isFile path = t'.isFile path := isFile_reordered h
  have hreal : ∀ path, t.IsRealDir path ↔ t'.IsRealDir path := by
    intro path
    simp only [IsRealDir, nodeOrLink_eq_ok_iff]
    exact leads_to_dir_reordered h .link path
  constructor
  · exact Listed.congr (fun path => (hfile path).symm) fun path => (hreal path).symm
  · exact Listed.congr hfile hreal

end FileTree

/-! ## Sorted files -/

/-- Different paths below one root, in ascending order, are in strictly ascending order. -/
theorem strictly_sorted_of_below {root : String} (hroot : root ≠ "") {paths : List String}
    (hbelow : ∀ f ∈ paths, ∃ ns, (∀ n ∈ ns, IsEntryName n) ∧ f = FilePath.descend root ns)
    (hnodup : paths.Nodup) (hsorted : paths.Pairwise fun f g => FilePath.le f g = true) :
    paths.Pairwise fun f g => FilePath.le f g = true ∧ FilePath.le g f = false := by
  refine (hsorted.and hnodup).imp_of_mem fun {f g} hf hg ⟨hle, hne⟩ => ⟨hle, ?_⟩
  refine Bool.eq_false_iff.mpr fun hge => hne ?_
  obtain ⟨ns, hns, rfl⟩ := hbelow f hf
  obtain ⟨ms, hms, rfl⟩ := hbelow g hg
  rw [FilePath.descend_injective hroot hns hms (FilePath.componentsLe_antisymm hle hge)]

namespace Listing

variable {root : String} {files : List String}

theorem of_perm (h : Listing root files) {l : List String} (hperm : l.Perm files)
    (hsorted : l.Pairwise fun f g => FilePath.le f g = true) : Listing root l where
  below f hf := h.below f (hperm.mem_iff.mp hf)
  source f hf := h.source f (hperm.mem_iff.mp hf)
  nodup := hperm.nodup_iff.mpr h.nodup
  sorted := hsorted

theorem strictly_sorted (hroot : root ≠ "") (h : Listing root files) :
    files.Pairwise fun f g => FilePath.le f g = true ∧ FilePath.le g f = false :=
  strictly_sorted_of_below hroot h.below h.nodup h.sorted

/-- In whatever order the files arrive, sorting them gives the same list. -/
theorem mergeSort_of_perm (hroot : root ≠ "") {found delivered : List String}
    (h : Listing root (found.mergeSort FilePath.le)) (hperm : delivered.Perm found) :
    delivered.mergeSort FilePath.le = found.mergeSort FilePath.le := by
  have hsort := stableSort_mergeSort FilePath.le_isTotalPreorder delivered
  have hperm' : (delivered.mergeSort FilePath.le).Perm (found.mergeSort FilePath.le) :=
    hsort.perm.trans (hperm.trans (List.mergeSort_perm found FilePath.le).symm)
  exact (h.of_perm hperm' hsort.sorted).ext hroot h fun f => hperm'.mem_iff

end Listing

namespace Plan

/-- The files below a directory can be listed; they are those that the names tell. -/
theorem gather_eq_ok_of_isDir {t : Disk} {root : String} (hroot : t.isDir root = true)
    (excluded : List String) :
    ∃ found, t.sourcesBelow (FileTree.excludedNames ++ excluded) root = .ok found ∧
      gather t root excluded = .ok (found.mergeSort FilePath.le) ∧
      ∀ f, f ∈ found.mergeSort FilePath.le ↔
        ∃ ns, t.Listed (FileTree.excludedNames ++ excluded) root ns ∧
          f = FilePath.descend root ns := by
  obtain ⟨found, hfound, hmem⟩ :=
    FileTree.sourcesBelow_iff_listed hroot (FileTree.excludedNames ++ excluded)
  exact ⟨found, hfound, gather_eq_ok_iff.mpr ⟨found, hfound, rfl⟩, fun f =>
    List.mem_mergeSort.trans (hmem f)⟩

/-- **The listed files.** Take a directory, or a link to one, as root. Its files can be
listed, in strictly ascending order of paths. In the list are exactly the paths below
the root that lead to a file, itself or through a link, with the extension `rs`, where
every directory in between is real, has no excluded name and no manifest, and where the
root, if it is real, has no excluded name either. In whatever order directories give
their entries, and in whatever order the files that are found arrive at the sort, the
list is the same. -/
theorem gather_listed {t : Disk} {root : String} (hroot : t.isDir root = true)
    (excluded : List String) :
    ∃ files, gather t root excluded = .ok files ∧
      files.Pairwise (fun f g => FilePath.le f g = true ∧ FilePath.le g f = false) ∧
      (∀ f, f ∈ files ↔ ∃ ns, t.Listed (FileTree.excludedNames ++ excluded) root ns ∧
        f = FilePath.descend root ns) ∧
      ∀ t' : FileTree, t.Reordered t' → gather t' root excluded = .ok files ∧
        ∃ found, t'.sourcesBelow (FileTree.excludedNames ++ excluded) root = .ok found ∧
          ∀ delivered : List String, delivered.Perm found →
            delivered.mergeSort FilePath.le = files := by
  obtain ⟨found, -, hgather, hmem⟩ := gather_eq_ok_of_isDir hroot excluded
  obtain ⟨hempty, hlisting⟩ := listing_of_gather hgather
  refine ⟨_, hgather, hlisting.strictly_sorted hempty, hmem, fun t' ht' => ?_⟩
  obtain ⟨d, rfl⟩ := ht'.exists_disk
  have hroot' : d.isDir root = true := FileTree.isDir_reordered ht' root ▸ hroot
  obtain ⟨found', hfound', hgather', hmem'⟩ := gather_eq_ok_of_isDir hroot' excluded
  have hlisting' := (listing_of_gather hgather').2
  have hsame : found'.mergeSort FilePath.le = found.mergeSort FilePath.le := by
    refine hlisting'.ext hempty hlisting fun f => ?_
    simp only [hmem, hmem', FileTree.listed_reordered ht']
  refine ⟨hsame ▸ hgather', found', hfound', fun delivered hperm => ?_⟩
  exact (hlisting'.mergeSort_of_perm hempty hperm).trans hsame

/-- A package with a link to a file, a link to a directory, a directory that is left out
by its name, and another package whose manifest is a link. -/
def tangled : List (String × Node) :=
  [("a.rs", .link "b.rs"), ("b.rs", .file "".toUTF8), ("d", .link "s"),
    ("n", .dir [("Cargo.toml", .link "../b.rs"), ("y.rs", .file "".toUTF8)]),
    ("s", .dir [("c.rs", .file "".toUTF8)]), ("target", .dir [("x.rs", .file "".toUTF8)])]

/-- The package at `/p`, with a link to it that is called like an excluded directory. -/
def tangledShop : Disk where
  root := .dir [("p", .dir tangled), ("target", .link "p")]
  cwd := []

/-- The same with all entries the other way round. -/
def turnedShop : Disk where
  root := .dir [("target", .link "p"), ("p", .dir tangled.reverse)]
  cwd := []

theorem tangledShop_listed :
    gather tangledShop "/target" [] =
        .ok ["/target/a.rs", "/target/b.rs", "/target/s/c.rs"] ∧
      gather turnedShop "/target" [] =
        .ok ["/target/a.rs", "/target/b.rs", "/target/s/c.rs"] ∧
      ∃ ns, tangledShop.Listed FileTree.excludedNames "/target" ns ∧
        "/target/a.rs" = FilePath.descend "/target" ns := by
  have hturned : tangledShop.Reordered turnedShop := by
    refine ⟨?_, rfl⟩
    refine @Node.Reordered.dir _ [("p", .dir tangled.reverse), ("target", .link "p")] _ rfl ?_
      (List.Perm.swap _ _ _)
    simp [Node.Reordered.refl, Node.Reordered.of_perm (List.reverse_perm tangled).symm]
  have hgather : gather tangledShop "/target" [] =
      .ok ["/target/a.rs", "/target/b.rs", "/target/s/c.rs"] := by
    have hfound : tangledShop.sourcesBelow (FileTree.excludedNames ++ []) "/target" =
        .ok ["/target/a.rs", "/target/b.rs", "/target/s/c.rs"] := by decide +kernel
    refine gather_eq_ok_iff.mpr ⟨_, hfound, ?_⟩
    rw [List.mergeSort_of_pairwise (by decide)]
  have hdir : tangledShop.isDir "/target" = true := by rfl
  obtain ⟨files, hfiles, -, hmem, hreordered⟩ := gather_listed hdir []
  obtain rfl := Except.ok.inj (hgather.symm.trans hfiles)
  exact ⟨hgather, (hreordered turnedShop hturned).1, (hmem _).mp List.mem_cons_self⟩

end Plan

end EnumFamily
