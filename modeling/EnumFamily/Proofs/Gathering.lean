import EnumFamily.Analysis
import EnumFamily.Proofs.ListOrder
import EnumFamily.Proofs.Resolution

/-!
# The files that a walk below a root finds

In a well-formed tree (distinct entry names in every directory) each source file
is found under one path, which joins the names on the way to the root, and the
order of paths is strict on what is found. So the list of files is determined by
which files are in it.

Results:
* `mem_sourcesIn_iff`: what is found below a directory, namely the source files to
  which the way is open: no directory on it is left out by its name or a manifest.
* `nodup_sourcesIn`: it is found once.
* `Listing.ext`: files listed below one root are known from their membership.
* `Finds.stands`: where the entry of a found file is, and where its content is.
* `listing_of_gather`: the files of a package are such a list.
-/
namespace EnumFamily

namespace FileTree

/-! ## What is found below a directory -/

/-- The node at a path counts as a file: it is one, or a link to one. -/
def CountsAsFile (t : FileTree) (path : String) : Node → Prop
  | .file _ => True
  | .link _ => t.isFile path = true
  | .dir _ => False

theorem sourcesIn_eq_flatMap (t : FileTree) (excluded : List String) (dir : String)
    (entries : List (String × Node)) :
    t.sourcesIn excluded dir entries =
      entries.flatMap fun e => t.sourcesAt excluded (FilePath.join dir e.1) e.1 e.2 := by
  induction entries with
  | nil => rw [sourcesIn]; rfl
  | cons e rest ih => rw [sourcesIn, ih]; rfl

/-- The names `ns` lead from the node at `path` to the source file `f`. -/
structure Finds (t : FileTree) (path : String) (node : Node) (ns : List String) (f : String) :
    Prop where
  names : ∀ n ∈ ns, IsEntryName n
  path_eq : f = FilePath.descend path ns
  leaf : ∃ leaf, node.get? ns = some leaf ∧ t.CountsAsFile f leaf
  source : isSource f = true

section
variable {t : FileTree} {excluded : List String}

theorem finds_dir_iff {entries : List (String × Node)} (hwf : (Node.dir entries).WellFormed)
    {path f : String} {ns : List String} :
    t.Finds path (.dir entries) ns f ↔
      ∃ e ∈ entries, ∃ ms, ns = e.1 :: ms ∧ t.Finds (FilePath.join path e.1) e.2 ms f := by
  cases hwf with
  | dir hnodup hnames hchild =>
    constructor
    · rintro ⟨hns, rfl, ⟨leaf, hget, hleaf⟩, hsource⟩
      cases ns with
      | nil =>
        rw [Node.get?_nil, Option.some.injEq] at hget
        subst hget
        exact hleaf.elim
      | cons n ms =>
        obtain ⟨node, hmem, hget⟩ := (Node.get?_dir_cons_iff hnodup).mp hget
        have hms := (List.forall_mem_cons.mp hns).2
        exact ⟨(n, node), hmem, ms, rfl, hms, rfl, ⟨leaf, hget, hleaf⟩, hsource⟩
    · rintro ⟨e, he, ms, rfl, ⟨hms, hpath, ⟨leaf, hget, hleaf⟩, hsource⟩⟩
      have hns := List.forall_mem_cons.mpr ⟨hnames e he, hms⟩
      exact ⟨hns, hpath, ⟨leaf, (Node.get?_dir_cons_iff hnodup).mpr ⟨e.2, he, hget⟩, hleaf⟩,
        hsource⟩

theorem finds_leaf_iff {node : Node} (hleaf : node.isDir = false) {path f : String}
    {ns : List String} :
    t.Finds path node ns f ↔
      ns = [] ∧ f = path ∧ isSource path = true ∧ t.CountsAsFile path node := by
  constructor
  · rintro ⟨-, rfl, ⟨leaf, hget, hcounts⟩, hsource⟩
    cases ns with
    | nil =>
      rw [Node.get?_nil, Option.some.injEq] at hget
      exact ⟨rfl, rfl, hsource, hget ▸ hcounts⟩
    | cons n ns =>
      obtain ⟨entries, rfl⟩ := Node.dir_of_get?_cons hget
      cases hleaf
  · rintro ⟨rfl, rfl, hsource, hcounts⟩
    exact ⟨by simp, rfl, ⟨node, Node.get?_nil node, hcounts⟩, hsource⟩

/-- No directory that stands strictly between the start and the end of the way
along `ns` has an excluded name or a manifest. -/
def OpenAlong (t : FileTree) (excluded : List String) (dir : String) (ns : List String) : Prop :=
  ∀ ms m, ms ++ [m] <+: ns → ms ++ [m] ≠ ns →
    m ∉ excluded ∧ t.hasManifest (FilePath.descend dir (ms ++ [m])) = false

@[simp] theorem openAlong_nil (dir : String) : t.OpenAlong excluded dir [] := by
  intro ms m hpre
  simp at hpre

theorem openAlong_cons_iff {dir n : String} {ns : List String} :
    t.OpenAlong excluded dir (n :: ns) ↔
      (ns ≠ [] → n ∉ excluded ∧ t.hasManifest (FilePath.join dir n) = false) ∧
        t.OpenAlong excluded (FilePath.join dir n) ns := by
  constructor
  · intro h
    refine ⟨fun hne => h [] n (by simp) (by simpa using Ne.symm hne), fun ms m hpre hproper => ?_⟩
    exact h (n :: ms) m (by simpa using hpre) (by simpa using hproper)
  · rintro ⟨hfirst, hrest⟩ ms m hpre hproper
    cases ms with
    | nil =>
      obtain ⟨rfl, -⟩ := List.cons_prefix_cons.mp hpre
      exact hfirst fun hns => hproper (by rw [hns]; rfl)
    | cons k ms =>
      obtain ⟨rfl, htail⟩ := List.cons_prefix_cons.mp hpre
      exact hrest ms m htail fun heq => hproper (by rw [← heq]; rfl)

theorem mem_sourcesIn_of_children {entries : List (String × Node)}
    (hwf : (Node.dir entries).WellFormed)
    (heach : ∀ e ∈ entries, ∀ path name f, f ∈ t.sourcesAt excluded path name e.2 ↔
      ∃ ns, t.Finds path e.2 ns f ∧
        (ns ≠ [] → name ∉ excluded ∧ t.hasManifest path = false) ∧ t.OpenAlong excluded path ns)
    {dir f : String} :
    f ∈ t.sourcesIn excluded dir entries ↔
      ∃ ns, t.Finds dir (.dir entries) ns f ∧ t.OpenAlong excluded dir ns := by
  rw [sourcesIn_eq_flatMap, List.mem_flatMap]
  constructor
  · rintro ⟨e, he, hf⟩
    obtain ⟨ns, hfinds, hopen⟩ := (heach e he _ _ f).mp hf
    exact ⟨e.1 :: ns, (finds_dir_iff hwf).mpr ⟨e, he, ns, rfl, hfinds⟩,
      openAlong_cons_iff.mpr hopen⟩
  · rintro ⟨ns, hfinds, hopen⟩
    obtain ⟨e, he, ms, rfl, hchild⟩ := (finds_dir_iff hwf).mp hfinds
    exact ⟨e, he, (heach e he _ _ f).mpr ⟨ms, hchild, openAlong_cons_iff.mp hopen⟩⟩

/-- From a node called `name` the walk goes on if it is a file, or a directory that
is not left out. -/
theorem mem_sourcesAt_iff {node : Node} (hwf : node.WellFormed) (path name f : String) :
    f ∈ t.sourcesAt excluded path name node ↔
      ∃ ns, t.Finds path node ns f ∧
        (ns ≠ [] → name ∉ excluded ∧ t.hasManifest path = false) ∧
        t.OpenAlong excluded path ns := by
  induction hwf generalizing path name f with
  | file data =>
    have hleaf : (Node.file data).isDir = false := rfl
    simp [sourcesAt, finds_leaf_iff hleaf, CountsAsFile, and_comm]
  | link target =>
    have hleaf : (Node.link target).isDir = false := rfl
    simp [sourcesAt, finds_leaf_iff hleaf, CountsAsFile, and_comm]
  | @dir entries hnodup hnames hchild ih =>
    have hwf : (Node.dir entries).WellFormed := .dir hnodup hnames hchild
    rw [sourcesAt, List.mem_ite_nil_left, mem_sourcesIn_of_children hwf ih, Bool.or_eq_true, not_or,
      List.contains_iff_mem, Bool.not_eq_true]
    constructor
    · rintro ⟨hself, ns, hfinds, hopen⟩
      exact ⟨ns, hfinds, fun _ => hself, hopen⟩
    · rintro ⟨ns, hfinds, hself, hopen⟩
      obtain ⟨e, -, ms, rfl, -⟩ := (finds_dir_iff hwf).mp hfinds
      exact ⟨hself (by simp), _, hfinds, hopen⟩

theorem mem_sourcesIn_iff {entries : List (String × Node)} (hwf : (Node.dir entries).WellFormed)
    {dir f : String} :
    f ∈ t.sourcesIn excluded dir entries ↔
      ∃ ns, t.Finds dir (.dir entries) ns f ∧ t.OpenAlong excluded dir ns := by
  refine mem_sourcesIn_of_children hwf fun e he path name f => ?_
  cases hwf with
  | dir _ _ hchild => exact mem_sourcesAt_iff (hchild e he) path name f

theorem finds_of_mem_sourcesAt {node : Node} (hwf : node.WellFormed) {path name f : String}
    (h : f ∈ t.sourcesAt excluded path name node) : ∃ ns, t.Finds path node ns f := by
  obtain ⟨ns, hfinds, -⟩ := (mem_sourcesAt_iff hwf path name f).mp h
  exact ⟨ns, hfinds⟩

theorem finds_of_mem_sourcesIn {entries : List (String × Node)}
    (hwf : (Node.dir entries).WellFormed) {dir f : String}
    (h : f ∈ t.sourcesIn excluded dir entries) :
    ∃ n ns, t.Finds dir (.dir entries) (n :: ns) f := by
  obtain ⟨ns, hfinds, -⟩ := (mem_sourcesIn_iff hwf).mp h
  obtain ⟨e, -, ms, rfl, -⟩ := (finds_dir_iff hwf).mp hfinds
  exact ⟨e.1, ms, hfinds⟩

/-- What is found under different names of a directory is different. -/
theorem ne_of_mem_sourcesAt {dir : String} (hdir : dir ≠ "") {e e' : String × Node}
    (hname : IsEntryName e.1) (hname' : IsEntryName e'.1) (hwf : e.2.WellFormed)
    (hwf' : e'.2.WellFormed) (hne : e.1 ≠ e'.1) {f f' : String}
    (h : f ∈ t.sourcesAt excluded (FilePath.join dir e.1) e.1 e.2)
    (h' : f' ∈ t.sourcesAt excluded (FilePath.join dir e'.1) e'.1 e'.2) : f ≠ f' := by
  obtain ⟨ns, hf⟩ := finds_of_mem_sourcesAt hwf h
  obtain ⟨ns', hf'⟩ := finds_of_mem_sourcesAt hwf' h'
  intro heq
  have hdescend : FilePath.descend dir (e.1 :: ns) = FilePath.descend dir (e'.1 :: ns') :=
    hf.path_eq.symm.trans (heq.trans hf'.path_eq)
  have hnames := FilePath.descend_injective hdir (List.forall_mem_cons.mpr ⟨hname, hf.names⟩)
    (List.forall_mem_cons.mpr ⟨hname', hf'.names⟩) (congrArg FilePath.components hdescend)
  exact hne (List.cons.inj hnames).1

theorem nodup_flatMap_sourcesAt {entries : List (String × Node)} {dir : String} (hdir : dir ≠ "")
    (hnodup : (entries.map (·.1)).Nodup) (hnames : ∀ e ∈ entries, IsEntryName e.1)
    (hchild : ∀ e ∈ entries, e.2.WellFormed)
    (heach : ∀ e ∈ entries, (t.sourcesAt excluded (FilePath.join dir e.1) e.1 e.2).Nodup) :
    (t.sourcesIn excluded dir entries).Nodup := by
  rw [sourcesIn_eq_flatMap]
  refine List.pairwise_flatMap.mpr ⟨heach, ?_⟩
  refine (List.pairwise_map.mp hnodup).imp_of_mem ?_
  intro e e' he he' hne f hf f' hf'
  exact ne_of_mem_sourcesAt hdir (hnames e he) (hnames e' he') (hchild e he) (hchild e' he') hne
    hf hf'

theorem nodup_sourcesAt {node : Node} (hwf : node.WellFormed) {path name : String}
    (hpath : path ≠ "") : (t.sourcesAt excluded path name node).Nodup := by
  induction hwf generalizing path name with
  | file data =>
    rw [sourcesAt]
    split <;> simp
  | link target =>
    rw [sourcesAt]
    split <;> simp
  | @dir entries hnodup hnames hchild ih =>
    rw [sourcesAt]
    split
    · simp
    · refine nodup_flatMap_sourcesAt hpath hnodup hnames hchild fun e he => ?_
      exact ih e he (FilePath.join_ne_empty hpath (hnames e he))

theorem nodup_sourcesIn {entries : List (String × Node)} (hwf : (Node.dir entries).WellFormed)
    {dir : String} (hdir : dir ≠ "") : (t.sourcesIn excluded dir entries).Nodup := by
  cases hwf with
  | dir hnodup hnames hchild =>
    refine nodup_flatMap_sourcesAt hdir hnodup hnames hchild fun e he => ?_
    exact nodup_sourcesAt (hchild e he) (FilePath.join_ne_empty hdir (hnames e he))

end

/-! ## Where a found file stands -/

/-- The entry of a file is at `place`, and its content, behind links, at `dest`. -/
structure Stands (t : FileTree) (f : String) (place dest : List String) (data : ByteArray) :
    Prop where
  entry : t.resolveTo .link f = .ok place
  content : t.resolve f = .ok dest
  leads : ∃ pos n k, place = pos ++ [n] ∧ Leads t.root pos [.name n] k dest
  data : t.root.get? dest = some (.file data)

theorem Finds.stands {t : FileTree} {root f : String} {place : List String}
    (hroot : t.resolve root = .ok place) {node : Node} (hnode : t.root.get? place = some node)
    {ns : List String} (hne : ns ≠ []) (h : t.Finds root node ns f) :
    ∃ dest data, t.Stands f (place ++ ns) dest data := by
  obtain ⟨hns, rfl, ⟨leaf, hleaf, hcounts⟩, -⟩ := h
  have hget : t.root.get? (place ++ ns) = some leaf := by
    rw [Node.get?_append, hnode]
    exact hleaf
  have hentry := resolveTo_link_descend hroot hns hne hget
  obtain ⟨ms, n, rfl⟩ : ∃ ms n, ns = ms ++ [n] :=
    ⟨_, _, (List.dropLast_concat_getLast hne).symm⟩
  rw [← List.append_assoc] at hget hentry ⊢
  obtain ⟨entries, hdir, hl⟩ := Node.exists_dir_of_get?_concat hget
  cases leaf with
  | dir es => exact hcounts.elim
  | file data =>
    have hlast : Leads t.root (place ++ ms) [.name n] 0 (place ++ ms ++ [n]) :=
      .enter hdir hl (by simp) (.done _)
    exact ⟨_, data, hentry, resolve_of_leads_last hroot hns hdir hlast,
      ⟨_, n, 0, rfl, hlast⟩, hget⟩
  | link target =>
    obtain ⟨dest, data, hdest, hdata⟩ := isFile_iff.mp hcounts
    obtain ⟨k, hlast⟩ := leads_last_of_resolve hroot hns hdir hdest
    exact ⟨dest, data, hentry, hdest, ⟨_, n, k, rfl, hlast⟩, hdata⟩

/-! ## A root of any kind -/

theorem root_ne_empty {t : FileTree} {excluded : List String} {root : String} {files : List String}
    (h : t.sourcesBelow excluded root = .ok files) : root ≠ "" := by
  rintro rfl
  simp [sourcesBelow, nodeOrLink, resolveTo_empty, bind, Except.bind] at h

/-- A directory is walked through, unless its name is excluded. -/
theorem sourcesBelow_of_dir {t : FileTree} {excluded : List String} {root : String}
    {entries : List (String × Node)} (hdir : t.node root = .ok (.dir entries))
    (hname : rootName root ∉ excluded) :
    t.sourcesBelow excluded root = .ok (t.sourcesIn excluded root entries) := by
  unfold sourcesBelow
  rcases nodeOrLink_of_node hdir with h | ⟨target, h⟩
  · rw [h]
    simp [bind, Except.bind, hname]
  · rw [h]
    simp [bind, Except.bind, hdir]

/-- A directory gives the files below it or, left out, nothing; else a root gives
itself or nothing. -/
theorem sourcesBelow_cases {t : FileTree} {excluded : List String} {root : String}
    {files : List String} (h : t.sourcesBelow excluded root = .ok files) :
    (∃ entries, t.node root = .ok (.dir entries) ∧
      (files = t.sourcesIn excluded root entries ∨ files = [])) ∨
    ((∃ node, t.node root = .ok node ∧ node.isDir = false) ∧
      (files = [] ∨ files = [root] ∧ isSource root = true)) := by
  have hself : (if isSource root then [root] else []) = files →
      files = [] ∨ (files = [root] ∧ isSource root = true) := by
    rintro rfl
    cases isSource root
    · exact Or.inl rfl
    · exact Or.inr ⟨rfl, rfl⟩
  unfold sourcesBelow at h
  cases hn : t.nodeOrLink root with
  | error e =>
    rw [hn] at h
    cases h
  | ok node =>
    rw [hn] at h
    cases node with
    | dir entries =>
      refine Or.inl ⟨entries, node_of_nodeOrLink hn (by simp), ?_⟩
      simp only [bind, Except.bind, Except.ok.injEq] at h
      split at h
      · exact Or.inr h.symm
      · exact Or.inl h.symm
    | file data =>
      exact Or.inr ⟨⟨_, node_of_nodeOrLink hn (by simp), rfl⟩, hself (Except.ok.inj h)⟩
    | link target =>
      cases hr : t.node root with
      | error e =>
        simp only [bind, Except.bind, hr] at h
        cases h
      | ok node =>
        simp only [bind, Except.bind, hr] at h
        cases node with
        | dir entries => exact Or.inl ⟨entries, rfl, Or.inl (Except.ok.inj h).symm⟩
        | file data => exact Or.inr ⟨⟨_, rfl, rfl⟩, hself (Except.ok.inj h)⟩
        | link target => exact Or.inr ⟨⟨_, rfl, rfl⟩, hself (Except.ok.inj h)⟩

end FileTree

/-! ## The order of paths -/

theorem Component.le_trans {a b c : Component} (hab : a.le b = true) (hbc : b.le c = true) :
    a.le c = true := by
  cases a <;> cases b <;> cases c <;> simp_all [Component.le, Component.rank]
  exact String.le_trans hab hbc

theorem Component.le_total (a b : Component) : a.le b = true ∨ b.le a = true := by
  cases a <;> cases b <;> simp [Component.le, Component.rank]
  exact String.le_total _ _

theorem Component.le_antisymm {a b : Component} (hab : a.le b = true) (hba : b.le a = true) :
    a = b := by
  cases a <;> cases b <;> simp_all [Component.le, Component.rank]
  exact String.le_antisymm hab hba

namespace FilePath

theorem componentsLe_append_left (cs as bs : List Component) :
    componentsLe (cs ++ as) (cs ++ bs) = componentsLe as bs := by
  induction cs with
  | nil => rfl
  | cons c cs ih => rw [List.cons_append, List.cons_append, componentsLe, if_pos rfl, ih]

theorem componentsLe_cons_iff {a b : Component} {as bs : List Component} :
    componentsLe (a :: as) (b :: bs) = true ↔
      a = b ∧ componentsLe as bs = true ∨ a ≠ b ∧ a.le b = true := by
  rw [componentsLe]
  split
  · rename_i h
    simp [h]
  · rename_i h
    simp [h]

theorem componentsLe_trans {as bs cs : List Component} (hab : componentsLe as bs = true)
    (hbc : componentsLe bs cs = true) : componentsLe as cs = true := by
  induction as generalizing bs cs with
  | nil => simp [componentsLe]
  | cons a as ih =>
    cases bs with
    | nil => simp [componentsLe] at hab
    | cons b bs =>
      cases cs with
      | nil => simp [componentsLe] at hbc
      | cons c cs =>
        rw [componentsLe_cons_iff] at hab hbc ⊢
        rcases hab with ⟨rfl, hab⟩ | ⟨hne, hle⟩
        · rcases hbc with ⟨rfl, hbc⟩ | hbc
          · exact Or.inl ⟨rfl, ih hab hbc⟩
          · exact Or.inr hbc
        · rcases hbc with ⟨rfl, -⟩ | ⟨-, hle'⟩
          · exact Or.inr ⟨hne, hle⟩
          · -- were the ends equal, the one in the middle would be too
            refine Or.inr ⟨?_, Component.le_trans hle hle'⟩
            rintro rfl
            exact hne (Component.le_antisymm hle hle')

theorem componentsLe_total (as bs : List Component) :
    componentsLe as bs = true ∨ componentsLe bs as = true := by
  induction as generalizing bs with
  | nil => simp [componentsLe]
  | cons a as ih =>
    cases bs with
    | nil => simp [componentsLe]
    | cons b bs =>
      rw [componentsLe_cons_iff, componentsLe_cons_iff]
      by_cases h : a = b
      · rcases ih bs with hle | hle
        · exact Or.inl (Or.inl ⟨h, hle⟩)
        · exact Or.inr (Or.inl ⟨h.symm, hle⟩)
      · rcases Component.le_total a b with hle | hle
        · exact Or.inl (Or.inr ⟨h, hle⟩)
        · exact Or.inr (Or.inr ⟨Ne.symm h, hle⟩)

theorem componentsLe_antisymm {as bs : List Component} (hab : componentsLe as bs = true)
    (hba : componentsLe bs as = true) : as = bs := by
  induction as generalizing bs with
  | nil =>
    cases bs with
    | nil => rfl
    | cons b bs => simp [componentsLe] at hba
  | cons a as ih =>
    cases bs with
    | nil => simp [componentsLe] at hab
    | cons b bs =>
      rw [componentsLe_cons_iff] at hab hba
      rcases hab with ⟨rfl, hab⟩ | ⟨hne, hle⟩
      · rcases hba with ⟨-, hba⟩ | ⟨hne, -⟩
        · rw [ih hab hba]
        · exact absurd rfl hne
      · rcases hba with ⟨heq, -⟩ | ⟨-, hle'⟩
        · exact absurd heq.symm hne
        · exact absurd (Component.le_antisymm hle hle') hne

theorem le_isTotalPreorder : IsTotalPreorder le where
  trans _ _ _ := componentsLe_trans
  total a b := by simpa [le] using componentsLe_total (components a) (components b)

end FilePath

/-! ## Listings -/

/-- Source files below a root, each once, in the order of paths. -/
structure Listing (root : String) (files : List String) : Prop where
  below : ∀ f ∈ files, ∃ ns, (∀ n ∈ ns, IsEntryName n) ∧ f = FilePath.descend root ns
  source : ∀ f ∈ files, FileTree.isSource f = true
  nodup : files.Nodup
  sorted : files.Pairwise fun a b => FilePath.le a b = true

theorem Listing.filter {root : String} {files : List String} (h : Listing root files)
    (p : String → Bool) : Listing root (files.filter p) where
  below f hf := h.below f (List.mem_filter.mp hf).1
  source f hf := h.source f (List.mem_filter.mp hf).1
  nodup := h.nodup.sublist List.filter_sublist
  sorted := h.sorted.sublist List.filter_sublist

/-- Two listings below one root that hold the same files are the same list. -/
theorem Listing.ext {root : String} (hroot : root ≠ "") {files files' : List String}
    (h : Listing root files) (h' : Listing root files') (hmem : ∀ f, f ∈ files ↔ f ∈ files') :
    files = files' := by
  have hperm : files.Perm files' := (List.perm_ext_iff_of_nodup h.nodup h'.nodup).mpr hmem
  refine hperm.eq_of_pairwise ?_ h.sorted h'.sorted
  intro f g hf hg hfg hgf
  obtain ⟨ns, hns, rfl⟩ := h.below f hf
  obtain ⟨ms, hms, rfl⟩ := h'.below g hg
  rw [FilePath.descend_injective hroot hns hms (FilePath.componentsLe_antisymm hfg hgf)]

theorem FileTree.listing_of_sourcesBelow {t : Disk} {excluded : List String} {root : String}
    {found : List String} (h : t.sourcesBelow excluded root = .ok found) :
    root ≠ "" ∧ Listing root (found.mergeSort FilePath.le) := by
  have hroot := root_ne_empty h
  have hfound : (∀ f ∈ found, ∃ ns, (∀ n ∈ ns, IsEntryName n) ∧ f = FilePath.descend root ns) ∧
      (∀ f ∈ found, isSource f = true) ∧ found.Nodup := by
    rcases sourcesBelow_cases h with ⟨entries, hdir, rfl | rfl⟩ | ⟨-, rfl | ⟨rfl, hsource⟩⟩
    · obtain ⟨dest, -, hget⟩ := node_eq_ok_iff.mp hdir
      have hwf := t.wellFormed.of_get? hget
      refine ⟨fun f hf => ?_, fun f hf => ?_, nodup_sourcesIn hwf hroot⟩
      · obtain ⟨n, ns, hfinds⟩ := finds_of_mem_sourcesIn hwf hf
        exact ⟨n :: ns, hfinds.names, hfinds.path_eq⟩
      · obtain ⟨n, ns, hfinds⟩ := finds_of_mem_sourcesIn hwf hf
        exact hfinds.source
    · simp
    · simp
    · refine ⟨fun f hf => ⟨[], by simp, List.mem_singleton.mp hf⟩, ?_, by simp⟩
      intro f hf
      rw [List.mem_singleton.mp hf, hsource]
  have hsort := stableSort_mergeSort FilePath.le_isTotalPreorder found
  refine ⟨hroot, fun f hf => ?_, fun f hf => ?_, ?_, hsort.sorted⟩
  · exact hfound.1 f (hsort.perm.mem_iff.mp hf)
  · exact hfound.2.1 f (hsort.perm.mem_iff.mp hf)
  · exact hsort.perm.nodup_iff.mpr hfound.2.2

/-- The listed files are those that a walk finds, in the order of paths. -/
theorem Plan.gather_eq_ok_iff {t : FileTree} {root : String} {excluded files : List String} :
    gather t root excluded = .ok files ↔
      ∃ found, t.sourcesBelow (FileTree.excludedNames ++ excluded) root = .ok found ∧
        files = found.mergeSort FilePath.le := by
  unfold gather FileTree.sources
  cases t.sourcesBelow (FileTree.excludedNames ++ excluded) root with
  | error e => simp [Except.map]
  | ok found => simp [Except.map, eq_comm]

theorem Plan.listing_of_gather {t : Disk} {root : String} {excluded files : List String}
    (h : gather t root excluded = .ok files) :
    root ≠ "" ∧ Listing root files := by
  obtain ⟨found, hfound, rfl⟩ := gather_eq_ok_iff.mp h
  exact FileTree.listing_of_sourcesBelow hfound

end EnumFamily
