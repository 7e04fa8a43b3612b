import EnumFamily.Proofs.Canonical
import EnumFamily.Proofs.Gathering

/-!
# Every source file belongs to one package

The walk down from the root of a package passes over directories with a manifest
of their own; the search up from a file stops at the nearest directory with a
manifest and sources. In a tree without links, where manifests are files, the two
agree: between a file that the walk finds and the root there is no manifest, so
the search goes up to that root.

Results:
* `open_of_mem_sourcesIn`: the directories that a walk enters have no manifest.
* `gather_of_dir`: the files below a canonical root can be listed.
* `root?_of_passed`: the search goes up past directories without a manifest.
* `gathered_files_owned`: from each listed file the search leads back to the root,
  so no file is listed for two roots.
-/
namespace EnumFamily

namespace FileTree

/-! ## The directories on the way down -/

section
variable {t : FileTree} {excluded : List String}

theorem open_of_mem_sourcesIn {entries : List (String × Node)}
    (hwf : (Node.dir entries).WellFormed) {dir f : String}
    (h : f ∈ t.sourcesIn excluded dir entries) :
    ∃ n ns, t.Finds dir (.dir entries) (n :: ns) f ∧
      ∀ ms, ms <+: n :: ns → ms ≠ [] → ms ≠ n :: ns →
        t.hasManifest (FilePath.descend dir ms) = false := by
  obtain ⟨ns, hfinds, hopen⟩ := (mem_sourcesIn_iff hwf).mp h
  obtain ⟨e, -, rest, rfl, -⟩ := (finds_dir_iff hwf).mp hfinds
  refine ⟨e.1, rest, hfinds, fun ms hms hne hproper => ?_⟩
  rw [← List.dropLast_concat_getLast hne] at hms hproper ⊢
  exact (hopen _ _ hms hproper).2

end

/-! ## The way up -/

section
variable {t : FileTree} (hplain : t.root.Plain) {entries : List (String × Node)}
  (hdir : t.root = .dir entries)
include hplain hdir

/-- A directory that counts as the root of a package has a manifest. -/
theorem hasManifest_of_isRoot {ns : List String} (hns : ∀ n ∈ ns, IsEntryName n)
    (h : Package.isRoot t (absolute ns) = true) : t.hasManifest (absolute ns) = true := by
  have hname : IsEntryName Manifest.fileName := by decide
  obtain ⟨⟨node, hnode⟩, -⟩ := (isRoot_absolute_iff hplain hdir hns).mp h
  -- this is where the two ways to look for a manifest could differ
  obtain ⟨data, rfl⟩ := hplain.manifest hnode
  unfold hasManifest Manifest.pathIn
  rw [FilePath.join_absolute hns hname, isFile_iff]
  have hnames := isEntryName_concat hns hname
  exact ⟨_, data, (resolve_absolute_iff hplain hdir hnames).mpr ⟨rfl, _, hnode⟩, hnode⟩

/-- From a file the search goes up past directories without a manifest. -/
theorem root?_of_passed {place ms : List String} {n : String}
    (hns : ∀ m ∈ place ++ ms ++ [n], IsEntryName m) {data : ByteArray}
    (hfile : t.root.get? (place ++ ms ++ [n]) = some (.file data))
    (hroot : Package.isRoot t (absolute place) = true)
    (hpassed : ∀ ms', ms' <+: ms → ms' ≠ [] → t.hasManifest (absolute (place ++ ms')) = false) :
    Package.root? t (absolute (place ++ ms ++ [n])) = some (absolute place) := by
  have hresolve : t.resolve (absolute (place ++ ms ++ [n])) = .ok (place ++ ms ++ [n]) :=
    (resolve_absolute_iff hplain hdir hns).mpr ⟨rfl, _, hfile⟩
  have hcanonical := canonical_of_resolve hresolve
  have hisFile : t.isFile (absolute (place ++ ms ++ [n])) = true :=
    isFile_iff.mpr ⟨_, data, hresolve, hfile⟩
  have hnames : ∀ m ∈ place ++ ms, IsEntryName m := fun m hm => hns m (List.mem_append_left _ hm)
  unfold Package.root?
  simp only [hcanonical, hisFile, if_true, FilePath.parent?_absolute hns, Option.bind_some]
  refine FilePath.find?_ancestors hroot hnames fun ms' hms' hne => ?_
  refine Bool.eq_false_iff.mpr fun hstop => ?_
  have hsub : ∀ m ∈ place ++ ms', IsEntryName m := by
    intro m hm
    refine hnames m (List.mem_append.mpr ((List.mem_append.mp hm).imp_right fun h => ?_))
    exact hms'.subset h
  have hmanifest := hasManifest_of_isRoot hplain hdir hsub hstop
  rw [hpassed ms' hms' hne] at hmanifest
  cases hmanifest

/-! ## Listing the files of a package -/

omit hplain in
theorem nodeOrLink_absolute {place : List String} (hns : ∀ n ∈ place, IsEntryName n)
    {es : List (String × Node)} (h : t.root.get? place = some (.dir es)) :
    t.nodeOrLink (absolute place) = .ok (.dir es) := by
  have hslash := resolve_slash hdir
  refine nodeOrLink_eq_ok_iff.mpr ⟨place, ?_, h⟩
  by_cases hne : place = []
  · subst hne
    have hsteps : steps "/" = [.stay] ++ [.stay] := rfl
    refine (resolveTo_link_iff (by decide) hsteps).mpr ⟨0, [], Nat.zero_le _, ?_, .stay h⟩
    exact .stay h (.done [])
  · rw [← FilePath.descend_slash hns]
    exact resolveTo_link_descend hslash hns hne h

end

end FileTree

namespace Plan

/-- The files below a directory can be listed; they are those that the walk finds. -/
theorem gather_of_dir {t : FileTree} {root : String} {es : List (String × Node)}
    (h : t.nodeOrLink root = .ok (.dir es)) (excluded : List String) :
    ∃ files, gather t root excluded = .ok files ∧
      ∀ f ∈ files, f ∈ t.sourcesIn (FileTree.excludedNames ++ excluded) root es := by
  have hbelow : t.sourcesBelow (FileTree.excludedNames ++ excluded) root =
      .ok (if (FileTree.excludedNames ++ excluded).contains (FileTree.rootName root) then []
        else t.sourcesIn (FileTree.excludedNames ++ excluded) root es) := by
    unfold FileTree.sourcesBelow
    rw [h]
    rfl
  refine ⟨_, gather_eq_ok_iff.mpr ⟨_, hbelow, rfl⟩, fun f hf => ?_⟩
  rw [List.mem_mergeSort, List.mem_ite_nil_left] at hf
  exact hf.2

/-- What is listed for a package belongs to it. -/
theorem gathered_owned {t : Disk} (hplain : t.root.Plain) {root : String}
    (hcanonical : t.canonical root = .ok root)
    (hroot : Package.isRoot t root = true) (excluded : List String) :
    ∃ files, gather t root excluded = .ok files ∧
      ∀ f ∈ files, Package.root? t f = some root := by
  obtain ⟨place, entries, rfl, hdir, hplace⟩ := FileTree.exists_absolute_of_canonical hcanonical
  obtain ⟨-, sources, hsources⟩ := (FileTree.isRoot_absolute_iff hplain hdir hplace).mp hroot
  obtain ⟨es, hes, -⟩ := Node.exists_dir_of_get?_concat hsources
  obtain ⟨files, hfiles, hwalk⟩ :=
    gather_of_dir (FileTree.nodeOrLink_absolute hdir hplace hes) excluded
  refine ⟨files, hfiles, fun f hf => ?_⟩
  obtain ⟨n, ns, hfinds, hpassed⟩ :=
    FileTree.open_of_mem_sourcesIn (t.wellFormed.of_get? hes) (hwalk f hf)
  obtain ⟨ms, last, hlast⟩ : ∃ ms last, n :: ns = ms ++ [last] :=
    ⟨_, _, (List.dropLast_concat_getLast (List.cons_ne_nil n ns)).symm⟩
  rw [hlast] at hfinds hpassed
  obtain ⟨hnames, rfl, ⟨leaf, hget, hleaf⟩, -⟩ := hfinds
  have hfile : t.root.get? (place ++ (ms ++ [last])) = some leaf := by
    rw [Node.get?_append, hes]
    exact hget
  have hall : ∀ m ∈ place ++ ms ++ [last], IsEntryName m := by
    intro m hm
    rw [List.append_assoc] at hm
    exact (List.mem_append.mp hm).elim (hplace m) (hnames m)
  rw [FilePath.descend_absolute hplace hnames]
  rw [← List.append_assoc] at hfile ⊢
  cases leaf with
  | dir es => exact hleaf.elim
  | link target => exact absurd hfile (hplain.linkless _ target)
  | file data =>
    refine FileTree.root?_of_passed hplain hdir hall hfile hroot fun ms' hms' hne => ?_
    have hsub : ∀ m ∈ ms', IsEntryName m := fun m hm =>
      hnames m (List.mem_append_left _ (hms'.subset hm))
    rw [← FilePath.descend_absolute hplace hsub]
    refine hpassed ms' (hms'.trans (List.prefix_append ms [last])) hne ?_
    -- a part of what is left without the last name is not the whole
    intro heq
    have hlen := hms'.length_le
    rw [heq, List.length_append, List.length_singleton] at hlen
    omega

/-- **One owner.** Take a disk without links on which what is called like a
manifest is a file, and a canonical path to a directory with a manifest and with
sources. Its source files can be listed, whatever further directories are left
out, and from each the search for the root of its package ends at that directory.
So none of them is listed for another such directory. -/
theorem gathered_files_owned {t : Disk} (hplain : t.root.Plain) {root : String}
    (hcanonical : t.canonical root = .ok root)
    (hroot : Package.isRoot t root = true) (excluded : List String) :
    (∃ files, gather t root excluded = .ok files ∧
      ∀ f ∈ files, Package.root? t f = some root) ∧
    ∀ root' excluded' files files', t.canonical root' = .ok root' →
      Package.isRoot t root' = true → root' ≠ root → gather t root excluded = .ok files →
      gather t root' excluded' = .ok files' → ∀ f ∈ files, f ∉ files' := by
  have howned := gathered_owned hplain hcanonical hroot excluded
  refine ⟨howned, ?_⟩
  intro root' excluded' files files' hcanonical' hroot' hne hfiles hfiles' f hf hf'
  obtain ⟨listed, hlisted, hown⟩ := howned
  obtain ⟨listed', hlisted', hown'⟩ := gathered_owned hplain hcanonical' hroot' excluded'
  obtain rfl := Except.ok.inj (hlisted.symm.trans hfiles)
  obtain rfl := Except.ok.inj (hlisted'.symm.trans hfiles')
  have hsame := (hown' f hf').symm.trans (hown f hf)
  exact hne (Option.some.inj hsame)

/-- A package at `/ws` with another one inside. -/
def nestedShops : Disk where
  root := .dir [("ws", .dir [("Cargo.toml", .file "".toUTF8),
    ("src", .dir [("a.rs", .file "".toUTF8)]),
    ("n", .dir [("Cargo.toml", .file "".toUTF8), ("src", .dir [("b.rs", .file "".toUTF8)])])])]
  cwd := []

/-- Each of the two packages lists its own file. -/
theorem nestedShops_owned :
    gather nestedShops "/ws" [] = .ok ["/ws/src/a.rs"] ∧
      gather nestedShops "/ws/n" [] = .ok ["/ws/n/src/b.rs"] ∧
      Package.root? nestedShops "/ws/src/a.rs" = some "/ws" ∧
      "/ws/src/a.rs" ∉ ["/ws/n/src/b.rs"] := by
  have hplain : nestedShops.root.Plain := by
    simp [nestedShops, Node.plain_dir_iff, Node.Plain.file, Manifest.fileName]
  have houter : gather nestedShops "/ws" [] = .ok ["/ws/src/a.rs"] :=
    gather_eq_ok_iff.mpr ⟨["/ws/src/a.rs"], by rfl, by simp⟩
  have hinner : gather nestedShops "/ws/n" [] = .ok ["/ws/n/src/b.rs"] :=
    gather_eq_ok_iff.mpr ⟨["/ws/n/src/b.rs"], by rfl, by simp⟩
  have hcanonical : nestedShops.canonical "/ws" = .ok "/ws" := by rfl
  have hroot : Package.isRoot nestedShops "/ws" = true := by rfl
  obtain ⟨⟨files, hfiles, howned⟩, hdisjoint⟩ :=
    gathered_files_owned hplain hcanonical hroot []
  obtain rfl := Except.ok.inj (houter.symm.trans hfiles)
  refine ⟨houter, hinner, howned _ List.mem_cons_self, ?_⟩
  exact hdisjoint "/ws/n" [] _ _ (by rfl) (by rfl) (by decide) houter hinner _ List.mem_cons_self

end Plan

end EnumFamily
