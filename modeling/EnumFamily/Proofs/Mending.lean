import EnumFamily.Proofs.Gathering
import EnumFamily.Proofs.Removal

/-!
# A tree without its broken files

A source file is broken if its text cannot be read or does not follow the
grammar. `Disk.mend` leaves out the entries of the broken ones among some files.

Results:
* `Below.text_mend`: the other files can be read as before.
* `Below.hasManifest_mend`: a manifest that is itself a file stays.
* `Below.sourcesBelow_mend`: if every directory below the root that has a
  manifest keeps one, a walk finds the other files and no more.
-/
namespace EnumFamily

/-- The text of the file cannot be read, or does not follow the grammar. -/
def FileTree.isBroken (t : FileTree) (f : String) : Bool :=
  match t.text f with
  | .error _ => true
  | .ok text =>
    match Source.items text with
    | .ok _ => false
    | .error _ => true

namespace FileTree

theorem text_congr {t : FileTree} {f g : String} (h : t.resolve f = t.resolve g) :
    t.text f = t.text g := by
  unfold text FileTree.node
  rw [h]

theorem isBroken_congr {t t' : FileTree} {f g : String} (h : t.text f = t'.text g) :
    t.isBroken f = t'.isBroken g := by
  unfold isBroken
  rw [h]

/-! ## Files below a directory -/

/-- Files that a walk finds below a directory, and where the directory is. -/
structure Below (t : FileTree) (root : String) (place : List String)
    (entries : List (String × Node)) (files : List String) : Prop where
  resolve : t.resolve root = .ok place
  dir : t.root.get? place = some (.dir entries)
  finds : ∀ f ∈ files, ∃ ns, ns ≠ [] ∧ t.Finds root (.dir entries) ns f

section
variable {t : FileTree} {root : String} {place : List String} {entries : List (String × Node)}
  {files : List String} (h : t.Below root place entries files)
include h

theorem Below.root_ne : root ≠ "" := ne_empty_of_resolve h.resolve

theorem Below.stands {f : String} (hf : f ∈ files) : ∃ ns dest data, (∀ n ∈ ns, IsEntryName n) ∧
    f = FilePath.descend root ns ∧ t.Stands f (place ++ ns) dest data := by
  obtain ⟨ns, hne, hfinds⟩ := h.finds f hf
  obtain ⟨dest, data, hstands⟩ := hfinds.stands h.resolve h.dir hne
  exact ⟨ns, dest, data, hfinds.names, hfinds.path_eq, hstands⟩

theorem Below.subset {files' : List String} (hsub : ∀ f ∈ files', f ∈ files) :
    t.Below root place entries files' where
  resolve := h.resolve
  dir := h.dir
  finds f hf := h.finds f (hsub f hf)

theorem Below.filter (p : String → Bool) : t.Below root place entries (files.filter p) :=
  h.subset fun _ hf => (List.mem_filter.mp hf).1

/-- The entries of found files stand where their names lead, each in its own place. -/
theorem Below.entryOf_iff {ns : List String} (hns : ∀ n ∈ ns, IsEntryName n) :
    t.entryOf files (place ++ ns) = true ↔ FilePath.descend root ns ∈ files := by
  rw [FileTree.entryOf_iff]
  constructor
  · rintro ⟨f, hf, hplace⟩
    obtain ⟨ms, dest, data, -, rfl, hstands⟩ := h.stands hf
    rw [hstands.entry] at hplace
    rw [← List.append_cancel_left (Except.ok.inj hplace)]
    exact hf
  · intro hf
    obtain ⟨ms, dest, data, hms, heq, hstands⟩ := h.stands hf
    have hsame := FilePath.descend_injective h.root_ne hns hms (congrArg FilePath.components heq)
    exact ⟨_, hf, hsame ▸ hstands.entry⟩

theorem Below.leadToFiles : LeadToFiles t.root (t.entryOf files) := by
  intro q hq
  obtain ⟨f, hf, hplace⟩ := FileTree.entryOf_iff.mp hq
  obtain ⟨ns, dest, data, -, -, hstands⟩ := h.stands hf
  obtain rfl := Except.ok.inj (hstands.entry.symm.trans hplace)
  obtain ⟨pos, n, k, hpos, hleads⟩ := hstands.leads
  exact ⟨pos, n, k, dest, data, hpos, hleads, hstands.data⟩

theorem Below.nodup_entryPlaces (hnodup : files.Nodup) : (t.entryPlaces files).Nodup := by
  refine List.pairwise_filterMap.mpr (hnodup.imp_of_mem ?_)
  intro f g hf hg hne q hq q' hq' heq
  obtain ⟨ns, dest, data, -, rfl, hstands⟩ := h.stands hf
  obtain ⟨ms, dest', data', -, rfl, hstands'⟩ := h.stands hg
  rw [hstands.entry] at hq
  rw [hstands'.entry] at hq'
  obtain rfl := Option.some.inj hq
  obtain rfl := Option.some.inj hq'
  exact hne (by rw [List.append_cancel_left heq])

/-- A file whose content an entry of `files` leads to has the text of one of them. -/
theorem Below.text_of_lost {f : String} {dest : List String} (hf : t.resolve f = .ok dest)
    (hlost : Lost t.root (t.entryOf files) dest) : ∃ g ∈ files, t.text g = t.text f := by
  obtain ⟨pos, n, k, hg, hleads⟩ := hlost
  obtain ⟨g, hgfile, hplace⟩ := FileTree.entryOf_iff.mp hg
  obtain ⟨ns, dest', data, -, -, hstands⟩ := h.stands hgfile
  obtain ⟨pos', n', k', hpos, hleads'⟩ := hstands.leads
  have hplace := Except.ok.inj (hstands.entry.symm.trans hplace)
  obtain ⟨rfl, hn⟩ := List.append_inj' (hpos.symm.trans hplace) rfl
  obtain rfl := (List.cons.inj hn).1
  refine ⟨g, hgfile, text_congr ?_⟩
  rw [hstands.content, hleads'.unique hleads, hf]

end

/-! ## Leaving out the broken ones -/

/-- The place is that of the entry of a broken file. -/
def holdsBroken (t : FileTree) (files : List String) : List String → Bool :=
  t.entryOf (files.filter t.isBroken)

end FileTree

/-- The disk without those of the files that are broken. -/
def Disk.mend (t : Disk) (files : List String) : Disk := t.prune (t.holdsBroken files)

namespace FileTree

section
variable {t : Disk} {root : String} {place : List String} {entries : List (String × Node)}
  {files : List String} (h : t.Below root place entries files)
include h

theorem Below.broken_leadToFiles : LeadToFiles t.root (t.holdsBroken files) :=
  (h.filter t.isBroken).leadToFiles

theorem Below.holdsBroken_iff {ns : List String} (hns : ∀ n ∈ ns, IsEntryName n) :
    t.holdsBroken files (place ++ ns) = true ↔
      FilePath.descend root ns ∈ files ∧ t.isBroken (FilePath.descend root ns) = true :=
  ((h.filter t.isBroken).entryOf_iff hns).trans List.mem_filter

theorem Below.ok_of_kept {ns : List String} (hns : ∀ n ∈ ns, IsEntryName n)
    (hkept : t.holdsBroken files (place ++ ns) = false)
    (hf : FilePath.descend root ns ∈ files) : t.isBroken (FilePath.descend root ns) = false := by
  rw [← Bool.not_eq_true] at hkept ⊢
  intro hbroken
  exact hkept ((h.holdsBroken_iff hns).mpr ⟨hf, hbroken⟩)

/-- What ends like a manifest is no source file, so it is not taken away itself. -/
theorem Below.manifest_kept {dir : String} (hdir : dir ≠ "") {q : List String}
    (hq : t.resolveTo .link (Manifest.pathIn dir) = .ok q) : t.holdsBroken files q = false := by
  have hname : IsEntryName Manifest.fileName := by decide
  obtain ⟨ss, -, hsteps⟩ := steps_descend hdir (List.forall_mem_singleton.mpr hname) (by simp)
  obtain ⟨k, mid, -, -, hlast⟩ :=
    (resolveTo_link_iff (FilePath.join_ne_empty hdir hname) hsteps).mp hq
  rw [← Bool.not_eq_true]
  intro hgone
  obtain ⟨f, hf, hplace⟩ := FileTree.entryOf_iff.mp hgone
  obtain ⟨ns, hne, hfinds⟩ := h.finds f (List.mem_filter.mp hf).1
  obtain ⟨dest, data, hstands⟩ := hfinds.stands h.resolve h.dir hne
  have hsource := hfinds.source
  rw [hfinds.path_eq, isSource, FilePath.extension?,
    FilePath.fileName_descend h.root_ne hfinds.names hne] at hsource
  cases hlast with
  | name _ _ =>
    have hsame := congrArg List.getLast? (Except.ok.inj (hstands.entry.symm.trans hplace))
    rw [List.getLast?_append, List.getLast?_concat, List.getLast?_eq_some_getLast hne] at hsame
    rw [List.getLast?_eq_some_getLast hne, Option.some.inj hsame] at hsource
    revert hsource
    decide

theorem Below.hasManifest_mend {dir : String} (hdir : dir ≠ "") {data : ByteArray}
    (hnode : t.nodeOrLink (Manifest.pathIn dir) = .ok (.file data)) :
    (t.mend files).hasManifest dir = true := by
  obtain ⟨q, hq, hget⟩ := nodeOrLink_eq_ok_iff.mp hnode
  have hkept := h.manifest_kept hdir hq
  have hget' := Node.get?_prune (onlyLeaves h.broken_leadToFiles) hget hkept
  rw [Node.prune] at hget'
  refine isFile_iff.mpr ⟨q, data, ?_, hget'⟩
  exact resolve_of_resolveTo_link (Disk.resolveTo_link_prune h.broken_leadToFiles hq hkept)
    hget' (by simp)

/-- Once the broken files are gone the others can be read as before. -/
theorem Below.node_of_not_broken {f : String} (hf : f ∈ files) (hok : t.isBroken f = false) :
    ∃ data, t.node f = .ok (.file data) ∧ (t.mend files).node f = .ok (.file data) := by
  obtain ⟨ns, dest, data, -, -, hstands⟩ := h.stands hf
  refine ⟨data, node_eq_ok_iff.mpr ⟨dest, hstands.content, hstands.data⟩, ?_⟩
  refine Disk.node_prune_file h.broken_leadToFiles hstands.content hstands.data fun hlost => ?_
  obtain ⟨g, hg, htext⟩ := (h.filter _).text_of_lost hstands.content hlost
  rw [← isBroken_congr htext, (List.mem_filter.mp hg).2] at hok
  cases hok

theorem Below.text_mend {f : String} (hf : f ∈ files) (hok : t.isBroken f = false) :
    (t.mend files).text f = t.text f := by
  obtain ⟨data, hnode, hnode'⟩ := h.node_of_not_broken hf hok
  unfold text
  rw [hnode, hnode']

theorem Below.isFile_mend {f : String} (hf : f ∈ files) (hok : t.isBroken f = false) :
    (t.mend files).isFile f = true := by
  obtain ⟨data, -, hnode'⟩ := h.node_of_not_broken hf hok
  unfold isFile
  rw [hnode']

variable {excluded : List String}

/-- An entry that is gone held nothing but a broken file. -/
theorem Below.sourcesAt_of_gone {ns : List String} (hns : ∀ n ∈ ns, IsEntryName n) {name : String}
    {node : Node} (hget : t.root.get? (place ++ ns) = some node)
    (hgone : t.holdsBroken files (place ++ ns) = true) :
    (t.sourcesAt excluded (FilePath.descend root ns) name node).filter (!t.isBroken ·) = [] := by
  have hbroken := ((h.holdsBroken_iff hns).mp hgone).2
  cases node with
  | dir es =>
    rw [onlyLeaves h.broken_leadToFiles _ _ hget] at hgone
    cases hgone
  | file data =>
    rw [sourcesAt]
    split <;> simp [hbroken]
  | link target =>
    rw [sourcesAt]
    split <;> simp [hbroken]

/-- What is found in a mended directory, from what is found at each entry that is left. -/
theorem Below.sourcesIn_mend_of {es : List (String × Node)} {ns : List String}
    (hns : ∀ n ∈ ns, IsEntryName n) (hwf : (Node.dir es).WellFormed)
    (hget : t.root.get? (place ++ ns) = some (.dir es))
    (heach : ∀ e ∈ es, t.holdsBroken files (place ++ (ns ++ [e.1])) = false →
      (t.mend files).sourcesAt excluded (FilePath.descend root (ns ++ [e.1])) e.1
        (e.2.prune (t.holdsBroken files) (place ++ (ns ++ [e.1]))) =
      (t.sourcesAt excluded (FilePath.descend root (ns ++ [e.1])) e.1 e.2).filter
        (!t.isBroken ·)) :
    (t.mend files).sourcesIn excluded (FilePath.descend root ns)
        (Node.pruneEntries (t.holdsBroken files) (place ++ ns) es) =
      (t.sourcesIn excluded (FilePath.descend root ns) es).filter (!t.isBroken ·) := by
  have hjoin : ∀ n, FilePath.join (FilePath.descend root ns) n =
      FilePath.descend root (ns ++ [n]) := fun n => (FilePath.descend_append root ns [n]).symm
  rw [sourcesIn_eq_flatMap, sourcesIn_eq_flatMap, Node.pruneEntries_eq, List.filter_flatMap]
  simp only [hjoin, List.append_assoc]
  refine flatMap_filter_map (fun e he hkeep => ?_) fun e he hdrop => ?_
  · exact heach e he (by simpa using hkeep)
  · cases hwf with
    | dir hnodup hnames _ =>
      refine h.sourcesAt_of_gone (isEntryName_concat hns (hnames e he)) ?_ (by simpa using hdrop)
      rw [← List.append_assoc]
      exact Node.get?_concat hget (Node.lookup_of_mem hnodup he)

variable (hmanifests : ∀ ns, ns ≠ [] → (∀ n ∈ ns, IsEntryName n) →
    t.hasManifest (FilePath.descend root ns) = true →
    (t.mend files).hasManifest (FilePath.descend root ns) = true)
include hmanifests

/-- A walk through the mended tree finds at each entry what it found there before,
without the broken files. -/
theorem Below.sourcesAt_mend {node : Node} (hwf : node.WellFormed) {ns : List String}
    {name : String} (hns : ∀ n ∈ ns, IsEntryName n) (hne : ns ≠ [])
    (hget : t.root.get? (place ++ ns) = some node)
    (hfound : ∀ f ∈ t.sourcesAt excluded (FilePath.descend root ns) name node, f ∈ files)
    (hkept : t.holdsBroken files (place ++ ns) = false) :
    (t.mend files).sourcesAt excluded (FilePath.descend root ns) name
        (node.prune (t.holdsBroken files) (place ++ ns)) =
      (t.sourcesAt excluded (FilePath.descend root ns) name node).filter (!t.isBroken ·) := by
  induction hwf generalizing ns name with
  | file data =>
    rw [Node.prune, sourcesAt, sourcesAt]
    rw [sourcesAt] at hfound
    split
    · rename_i hsource
      have hf := hfound _ (by rw [if_pos hsource]; exact List.mem_cons_self)
      have hok := h.ok_of_kept hns hkept hf
      rw [List.filter_cons_of_pos (by rw [hok]; rfl), List.filter_nil]
    · rfl
  | link target =>
    rw [Node.prune, sourcesAt, sourcesAt]
    rw [sourcesAt] at hfound
    cases hsource : isSource (FilePath.descend root ns) && t.isFile (FilePath.descend root ns) with
    | true =>
      have hf := hfound _ (by rw [if_pos hsource]; exact List.mem_cons_self)
      have hok := h.ok_of_kept hns hkept hf
      have hsource' := (Bool.and_eq_true _ _ ▸ hsource).1
      rw [if_pos rfl, List.filter_cons_of_pos (by rw [hok]; rfl), List.filter_nil, hsource',
        h.isFile_mend hf hok]
      rfl
    | false =>
      -- a link that leads to a file afterwards led to that file before
      rw [if_neg Bool.false_ne_true, List.filter_nil, if_neg]
      intro hsource'
      rw [Bool.and_eq_true] at hsource'
      rw [hsource'.1, Disk.isFile_of_prune hsource'.2] at hsource
      cases hsource
  | @dir es hnodup hnames hchild ih =>
    have hmanifest : (t.mend files).hasManifest (FilePath.descend root ns) =
        t.hasManifest (FilePath.descend root ns) := by
      rw [Bool.eq_iff_iff]
      exact ⟨Disk.isFile_of_prune, hmanifests ns hne hns⟩
    rw [Node.prune_dir, sourcesAt, sourcesAt, hmanifest]
    rw [sourcesAt] at hfound
    split
    · rfl
    · rename_i hopen
      rw [if_neg hopen] at hfound
      refine h.sourcesIn_mend_of hns (.dir hnodup hnames hchild) hget fun e he hkept => ?_
      refine ih e he (isEntryName_concat hns (hnames e he)) (by simp) ?_ (fun f hf => ?_) hkept
      · rw [← List.append_assoc]
        exact Node.get?_concat hget (Node.lookup_of_mem hnodup he)
      · refine hfound f ?_
        rw [sourcesIn_eq_flatMap]
        rw [FilePath.descend_append] at hf
        exact List.mem_flatMap.mpr ⟨e, he, hf⟩

theorem Below.sourcesIn_mend (hwf : (Node.dir entries).WellFormed)
    (hfound : ∀ f ∈ t.sourcesIn excluded root entries, f ∈ files) :
    (t.mend files).sourcesIn excluded root
        (Node.pruneEntries (t.holdsBroken files) place entries) =
      (t.sourcesIn excluded root entries).filter (!t.isBroken ·) := by
  have hget : t.root.get? (place ++ []) = some (.dir entries) := by
    rw [List.append_nil]
    exact h.dir
  have hmend : (t.mend files).sourcesIn excluded (FilePath.descend root [])
      (Node.pruneEntries (t.holdsBroken files) (place ++ []) entries) =
        (t.sourcesIn excluded (FilePath.descend root []) entries).filter (!t.isBroken ·) := by
    refine h.sourcesIn_mend_of (by simp) hwf hget fun e he hkept => ?_
    cases hwf with
    | dir hnodup hnames hchild =>
      refine h.sourcesAt_mend hmanifests (hchild e he) (isEntryName_concat (by simp) (hnames e he))
        (by simp) ?_ (fun f hf => hfound f ?_) hkept
      · exact Node.get?_concat h.dir (Node.lookup_of_mem hnodup he)
      · rw [sourcesIn_eq_flatMap]
        exact List.mem_flatMap.mpr ⟨e, he, hf⟩
  rw [List.append_nil] at hmend
  exact hmend

/-- Below the root of a mended tree there are the files that are not broken. -/
theorem Below.sourcesBelow_mend {found : List String}
    (hfound : t.sourcesBelow excluded root = .ok found) (hfiles : ∀ f ∈ found, f ∈ files) :
    (t.mend files).sourcesBelow excluded root = .ok (found.filter (!t.isBroken ·)) := by
  have hwf := t.wellFormed.of_get? h.dir
  have hnode' : (t.mend files).node root =
      .ok (.dir (Node.pruneEntries (t.holdsBroken files) place entries)) :=
    Disk.node_prune_dir h.broken_leadToFiles h.resolve h.dir
  unfold sourcesBelow at hfound ⊢
  cases hn : t.nodeOrLink root with
  | error e =>
    rw [hn] at hfound
    cases hfound
  | ok node =>
    obtain ⟨q, hq, hget⟩ := nodeOrLink_eq_ok_iff.mp hn
    have hkept := Disk.kept_of_resolve_dir h.broken_leadToFiles h.resolve h.dir hq
    have hn' : (t.mend files).nodeOrLink root = .ok (node.prune (t.holdsBroken files) q) :=
      nodeOrLink_eq_ok_iff.mpr ⟨q, Disk.resolveTo_link_prune h.broken_leadToFiles hq hkept,
        Node.get?_prune (onlyLeaves h.broken_leadToFiles) hget hkept⟩
    rw [hn] at hfound
    rw [hn']
    cases node with
    | file data =>
      have hq' := resolve_of_resolveTo_link hq hget (by simp)
      obtain rfl := Except.ok.inj (hq'.symm.trans h.resolve)
      rw [h.dir] at hget
      cases hget
    | dir es =>
      -- the root is no link, so its entry and its place are the same
      have hq' := resolve_of_resolveTo_link hq hget (by simp)
      obtain rfl := Except.ok.inj (hq'.symm.trans h.resolve)
      obtain rfl := Node.dir.inj (Option.some.inj (hget.symm.trans h.dir))
      rw [Node.prune_dir]
      simp only [bind, Except.bind, Except.ok.injEq] at hfound ⊢
      split at hfound
      · rename_i hexcluded
        rw [if_pos hexcluded, ← hfound]
        rfl
      · rename_i hexcluded
        subst hfound
        rw [if_neg hexcluded]
        exact h.sourcesIn_mend hmanifests hwf hfiles
    | link target =>
      -- a root that is a link is entered whatever its name
      have hnode : t.node root = .ok (.dir entries) := node_eq_ok_iff.mpr ⟨_, h.resolve, h.dir⟩
      rw [Node.prune]
      simp only [bind, Except.bind, hnode, Except.ok.injEq] at hfound
      subst hfound
      have hmend := h.sourcesIn_mend hmanifests hwf hfiles
      simp only [bind, Except.bind]
      rw [hnode']
      exact congrArg Except.ok hmend

end

/-- Below a directory a walk finds files that stand there. -/
theorem below_of_sourcesBelow {t : Disk} {excluded : List String} {root : String}
    (hdir : t.isDir root = true) {found : List String}
    (h : t.sourcesBelow excluded root = .ok found) :
    ∃ place entries, t.Below root place entries found := by
  obtain ⟨entries, hnode⟩ := isDir_iff.mp hdir
  obtain ⟨place, hplace, hget⟩ := node_eq_ok_iff.mp hnode
  refine ⟨place, entries, hplace, hget, fun f hf => ?_⟩
  rcases sourcesBelow_cases h with ⟨entries', hnode', hfound⟩ | ⟨⟨node, hnode', hno⟩, -⟩
  · obtain rfl := Node.dir.inj (Except.ok.inj (hnode.symm.trans hnode'))
    rcases hfound with rfl | rfl
    · obtain ⟨n, ns, hfinds⟩ := finds_of_mem_sourcesIn (t.wellFormed.of_get? hget) hf
      exact ⟨n :: ns, List.cons_ne_nil n ns, hfinds⟩
    · cases hf
  · obtain rfl := Except.ok.inj (hnode.symm.trans hnode')
    cases hno

end FileTree

end EnumFamily
