import EnumFamily.Proofs.Ancestors
import EnumFamily.Proofs.Extracting
import EnumFamily.Proofs.Merging
import EnumFamily.Proofs.Ownership
import EnumFamily.Proofs.Publishing
import EnumFamily.Proofs.Relocation

/-!
# The root as the client spells it

The root of a package is found by its canonical path. For the editor the paths of the
findings are spelled below `Session.clientRoot` instead: the client's path, cut by as many
components as the canonical path of the file has below the canonical root.

Results:
* `file_of_finding`: a finding shows the path, below the root, of a file that was listed.
* `exists_place`: where the root of a package stands, seen from a file in it.
* `clientRoot_cases`, `resolve_clientRoot`: which path the client's root is, and where it
  leads.
* `resolve_clientRoot_of_direct`: it leads to the root if no link is passed below that.
* `clientRoot_names_root`: so the paths below it name the files that were analysed. A link
  below the root can change the depth of a file; then they do not.
-/
namespace EnumFamily

/-! ## The file of a finding -/

theorem Reading.file_of_mem_units {t : FileTree} {root file : String} {u : TypeUnit}
    (h : u ∈ (Reading.ofFile t root file).units) : u.file = Location.relative root file := by
  unfold Reading.units at h
  rcases Reading.outcome_ofFile t root file with
    ⟨text, items, -, -, ho⟩ | ⟨e, -, ho⟩ | ⟨text, pos, -, -, ho⟩
  · rw [ho] at h
    simp only [Extraction.units_ofItems] at h
    obtain ⟨k, -, rfl⟩ := List.mem_map.mp h
    rfl
  · rw [ho] at h
    cases h
  · rw [ho] at h
    cases h

/-- Merging keeps the file of the unit that takes over. -/
theorem TypeUnit.file_of_mem_merge {units : List TypeUnit} {m : TypeUnit} (h : m ∈ merge units) :
    ∃ u ∈ units, m.file = u.file := by
  rw [merge_eq_map] at h
  obtain ⟨x, hx, rfl⟩ := List.mem_map.mp h
  obtain ⟨hclaim, -⟩ := List.mem_filter.mp hx
  rw [List.mem_zipIdx_iff_getElem?, getElem?_claims, Option.map_eq_some_iff] at hclaim
  obtain ⟨u, hu, hx⟩ := hclaim
  exact ⟨u, List.mem_of_getElem? hu, by rw [← hx]; rfl⟩

namespace Plan

/-- A finding shows the path of a listed file below the root. -/
theorem file_of_finding {p : Plan} {t : FileTree} {files : List String} {d : Diagnostic}
    (h : d ∈ (p.report (p.read t files)).diagnostics) :
    ∃ file ∈ files, d.file = Location.relative p.root file := by
  obtain ⟨family, hfamily, rfl⟩ := (mem_diagnostics_iff p _).mp h
  obtain ⟨-, hunit⟩ := Target.mem_allSites_iff.mp (mem_families_iff.mp hfamily).1
  obtain ⟨u, hu, hsame⟩ := TypeUnit.file_of_mem_merge (List.mem_of_getElem? hunit)
  obtain ⟨r, hr, hu⟩ := List.mem_flatMap.mp hu
  obtain ⟨file, hfile, rfl⟩ := List.mem_map.mp (List.mem_filter.mp hr).1
  exact ⟨file, hfile, hsame.trans (Reading.file_of_mem_units hu)⟩

end Plan

/-! ## The root of a package, seen from a file in it -/

namespace FileTree

/-- The canonical path of a place leads to it. -/
theorem resolve_absolute {t : FileTree} {entries : List (String × Node)}
    (hdir : t.root = .dir entries) {ns : List String} (hns : ∀ n ∈ ns, IsEntryName n) {node : Node}
    (hget : t.root.get? ns = some node) (hno : ∀ target, node ≠ .link target) :
    t.resolve (absolute ns) = .ok ns := by
  by_cases hne : ns = []
  · subst hne
    exact resolve_slash hdir
  · rw [← FilePath.descend_slash hns]
    have hentry := resolveTo_link_descend (resolve_slash hdir) hns hne hget
    exact resolve_of_resolveTo_link hentry hget hno

/-- A file below the root of its package: the root stands at `place`, and from there
the names `ns` lead to the file. -/
structure InPackage (t : FileTree) (f root : String) (place ns : List String) : Prop where
  root_eq : root = absolute place
  ne_nil : ns ≠ []
  names : ∀ n ∈ place ++ ns, IsEntryName n
  resolve_root : t.resolve root = .ok place
  resolve_file : t.resolve f = .ok (place ++ ns)
  dir : ∃ entries, t.root.get? place = some (.dir entries)

section
variable {t : FileTree} {f root : String} {place ns : List String}
  (h : t.InPackage f root place ns)
include h

theorem InPackage.root_names : ∀ n ∈ place, IsEntryName n := fun n hn =>
  h.names n (List.mem_append_left _ hn)

theorem InPackage.components_root :
    FilePath.components root = .root :: place.map Component.name := by
  rw [h.root_eq, FilePath.components_absolute h.root_names]

theorem InPackage.ne_nil_of_length {gone : List Component} (hgone : gone.length = ns.length) :
    gone ≠ [] := by
  rintro rfl
  exact h.ne_nil (List.length_eq_zero_iff.mp hgone.symm)

end

end FileTree

theorem Package.exists_place {t : Disk} {f root : String} (habs : FilePath.isAbsolute f = true)
    (hfile : t.isFile f = true) (hroot : Package.root? t f = some root) :
    ∃ place ns, t.InPackage f root place ns := by
  obtain ⟨dest, data, hdest, hdata⟩ := FileTree.isFile_iff.mp hfile
  obtain ⟨entries, hdir⟩ := FileTree.root_of_resolve_absolute habs hdest
  have hnames := t.wellFormed.names_of_get? hdata
  have hreal : t.resolve (FileTree.absolute dest) = .ok dest :=
    FileTree.resolve_absolute hdir hnames hdata (by simp)
  have hisFile : t.isFile (FileTree.absolute dest) = true :=
    FileTree.isFile_iff.mpr ⟨dest, data, hreal, hdata⟩
  rcases List.eq_nil_or_concat dest with rfl | ⟨init, n, rfl⟩
  · rw [Node.get?_nil, hdir] at hdata
    cases hdata
  · rw [List.concat_eq_append] at *
    -- the search begins in the directory of the file
    unfold Package.root? at hroot
    simp only [FileTree.canonical_of_resolve hdest, hisFile, if_true,
      FilePath.parent?_absolute hnames, Option.bind_some] at hroot
    have hinit : ∀ m ∈ init, IsEntryName m := fun m hm => hnames m (List.mem_append_left _ hm)
    obtain ⟨place, ⟨rest, rfl⟩, rfl⟩ :=
      FilePath.exists_prefix_of_mem_ancestorsUpTo hinit (List.mem_of_find?_eq_some hroot)
    have hplace : ∀ m ∈ place, IsEntryName m := fun m hm => hinit m (List.mem_append_left _ hm)
    obtain ⟨above, habove, -⟩ := Node.exists_dir_of_get?_concat hdata
    obtain ⟨es, hes⟩ := Node.dir_above habove
    rw [List.append_assoc] at hdest hnames
    exact ⟨place, rest ++ [n], rfl, by simp, hnames,
      FileTree.resolve_absolute hdir hplace hes (by simp), hdest, es, hes⟩

/-! ## The client's root -/

namespace Session

/-- From `q` on, a path to the root or to a directory above it, the client's path goes by
the same names as its canonical path. So a link may lead to that directory, and none is
passed below it. -/
structure Direct (t : FileTree) (f root q c : String) (ms : List String) : Prop where
  leads : t.canonical q = .ok c
  above : ∃ up, FilePath.LiesAt c up root
  spelled : FilePath.LiesAt q ms f
  same : ∃ g, t.canonical f = .ok g ∧ FilePath.LiesAt c ms g

section
variable {t : Disk} {f root : String} {place ns : List String}
  (habs : FilePath.isAbsolute f = true) (hpackage : t.InPackage f root place ns)
include habs hpackage

/-- The client's root is the client's path less as many components as the file has below
the root, or the root itself if that leaves nothing. -/
theorem clientRoot_cases :
    (∃ gone, FilePath.components f = FilePath.components (clientRoot t f root) ++ gone ∧
      gone.length = ns.length ∧ clientRoot t f root ≠ "") ∨
    ((FilePath.components f).length ≤ ns.length ∧ clientRoot t f root = root) := by
  have hbelow : FilePath.components (FileTree.absolute (place ++ ns)) =
      FilePath.components root ++ ns.map Component.name := by
    rw [hpackage.components_root, FilePath.components_absolute hpackage.names, List.map_append]
    rfl
  obtain ⟨rel, hrel, hcomponents⟩ := FilePath.exists_relativeTo hbelow
  have hdepth : clientRoot t f root = ((FilePath.ancestors f)[ns.length]?).getD root := by
    simp [clientRoot, FileTree.canonical_of_resolve hpackage.resolve_file, hrel, hcomponents]
  rw [hdepth]
  by_cases hshort : (FilePath.components f).length ≤ ns.length
  · exact Or.inr ⟨hshort, by rw [FilePath.ancestors_getElem?_eq_none habs hshort]; rfl⟩
  · left
    obtain ⟨cs, gone, hsplit, hlength, hcs⟩ : ∃ cs gone, FilePath.components f = cs ++ gone ∧
        gone.length = ns.length ∧ cs ≠ [] := by
      refine ⟨_, _, (List.take_append_drop
        ((FilePath.components f).length - ns.length) _).symm, ?_, fun hnil => ?_⟩
      · rw [List.length_drop]
        omega
      · have hnone := congrArg List.length hnil
        rw [List.length_take, List.length_nil] at hnone
        omega
    obtain ⟨q, hq, rfl⟩ := FilePath.exists_ancestor hsplit hcs
    rw [← hlength, hq, Option.getD_some]
    refine ⟨gone, hsplit, rfl, ?_⟩
    rintro rfl
    exact hcs rfl

/-- However the client's path without those components is spelled, the client's root has
its components and leads where it leads. -/
theorem resolve_clientRoot {q : String} {gone : List Component} (hq : q ≠ "")
    (h : FilePath.components f = FilePath.components q ++ gone) (hgone : gone.length = ns.length) :
    FilePath.components (clientRoot t f root) = FilePath.components q ∧
      t.resolve (clientRoot t f root) = t.resolve q := by
  rcases clientRoot_cases habs hpackage with ⟨gone', h', hgone', hne⟩ | ⟨hshort, -⟩
  · have hsame := (List.append_inj' (h'.symm.trans h) (hgone'.trans hgone.symm)).1
    obtain ⟨mid, -, -, hmid, -⟩ :=
      FileTree.resolve_above habs hpackage.resolve_file hq (hpackage.ne_nil_of_length hgone) h
    obtain ⟨mid', -, -, hmid', -⟩ :=
      FileTree.resolve_above habs hpackage.resolve_file hne (hpackage.ne_nil_of_length hgone') h'
    refine ⟨hsame, ?_⟩
    rw [hmid, hmid', FileTree.resolve_unique (FilePath.isAbsolute_above habs hne h')
      (FilePath.isAbsolute_above habs hq h) hsame hmid' hmid]
  · have hpos := List.length_pos_iff.mpr (FilePath.components_ne_nil hq)
    rw [h, List.length_append] at hshort
    omega

theorem resolve_clientRoot_of_direct {q c : String} {ms : List String}
    (h : Direct t f root q c ms) : t.resolve (clientRoot t f root) = .ok place := by
  have hq : q ≠ "" := by
    rintro rfl
    cases h.leads
  have habsq := FilePath.isAbsolute_above habs hq h.spelled
  obtain ⟨p, hp, rfl⟩ := FileTree.canonical_eq_ok_iff.mp h.leads
  have hnames := FileTree.names_of_resolve_absolute habsq hp
  obtain ⟨up, hup⟩ := h.above
  obtain ⟨g, hg, hms⟩ := h.same
  -- both canonical paths begin with the same names
  have hinj : Function.Injective (List.map Component.name) :=
    List.map_injective_iff.mpr fun _ _ => Component.name.inj
  have hplace : place = p ++ up := by
    rw [FilePath.LiesAt, hpackage.components_root, FilePath.components_absolute hnames,
      List.cons_append, ← List.map_append] at hup
    exact hinj (List.cons.inj hup).2
  have hbelow : ms = up ++ ns := by
    have hcanonical := FileTree.canonical_of_resolve hpackage.resolve_file
    obtain rfl := Except.ok.inj (hcanonical.symm.trans hg)
    rw [FilePath.LiesAt, FilePath.components_absolute hpackage.names,
      FilePath.components_absolute hnames, List.cons_append, ← List.map_append, hplace,
      List.append_assoc] at hms
    exact (List.append_cancel_left (hinj (List.cons.inj hms).2)).symm
  subst hplace hbelow
  have hentries : ∀ n ∈ up, IsEntryName n := fun n hn =>
    hpackage.root_names n (List.mem_append_right p hn)
  obtain ⟨es, hes⟩ := hpackage.dir
  have hlead : t.resolve (FilePath.descend q up) = .ok (p ++ up) := by
    by_cases hnil : up = []
    · rw [hnil, FilePath.descend_nil, List.append_nil, hp]
    · have hentry := FileTree.resolveTo_link_descend hp hentries hnil hes
      exact FileTree.resolve_of_resolveTo_link hentry hes (by simp)
  have hcomponents : FilePath.components f =
      FilePath.components (FilePath.descend q up) ++ ns.map Component.name := by
    rw [FilePath.components_descend hq hentries, h.spelled, List.map_append, List.append_assoc]
  have hne := FilePath.descend_ne_empty hq hentries
  exact (resolve_clientRoot habs hpackage hne hcomponents (List.length_map _)).2.trans hlead

/-- Only the place of the root has its canonical path. -/
theorem resolve_of_canonical_clientRoot (h : t.canonical (clientRoot t f root) = .ok root) :
    t.resolve (clientRoot t f root) = .ok place := by
  rcases clientRoot_cases habs hpackage with ⟨gone, hcomponents, -, hne⟩ | ⟨-, hsame⟩
  · have habsq := FilePath.isAbsolute_above habs hne hcomponents
    obtain ⟨p, hp, hroot⟩ := FileTree.canonical_eq_ok_iff.mp h
    have hnames := FileTree.names_of_resolve_absolute habsq hp
    have hsame := hroot.symm.trans hpackage.root_eq
    rw [hp, FilePath.absolute_injective hnames hpackage.root_names hsame]
  · rw [hsame]
    exact hpackage.resolve_root

end

end Session

/-! ## Files below the client's root -/

namespace FilePath

theorem isAbsolute_append_of_name {n : String} (hn : IsEntryName n) (s : String) :
    isAbsolute (n ++ s) = false := by
  have hne : n.toList ≠ [] := fun h => hn.ne_empty (String.toList_eq_nil_iff.mp h)
  obtain ⟨c, cs, hcs⟩ := List.exists_cons_of_ne_nil hne
  have hc : c ≠ '/' := fun h => hn.no_slash (by simp [hcs, h])
  simp [isAbsolute, hcs, hc]

theorem join_append {root n p : String} (hroot : root ≠ "") (hn : IsEntryName n)
    (hp : isAbsolute p = false) : join root (n ++ "/" ++ p) = join (join root n) p := by
  have hlast : (join root n).toList.getLast? ≠ some '/' := by
    obtain ⟨s, -, hs⟩ := toList_join hroot hn
    rw [hs]
    exact getLast?_ne_slash s hn
  have hright : join (join root n) p = join root n ++ "/" ++ p := by
    rw [join, hp, if_neg Bool.false_ne_true, if_neg (not_or.mpr ⟨join_ne_empty hroot hn, hlast⟩)]
  have hleft : isAbsolute (n ++ "/" ++ p) = false := by
    rw [String.append_assoc]
    exact isAbsolute_append_of_name hn _
  rw [hright, join, join, hleft, isAbsolute_of_name hn]
  simp only [Bool.false_eq_true, if_false]
  split <;> simp only [String.append_assoc]

/-- Joining a relative path at once or name by name. -/
theorem join_intercalate {root : String} (hroot : root ≠ "") {ns : List String}
    (hns : ∀ n ∈ ns, IsEntryName n) (hne : ns ≠ []) :
    join root ("/".intercalate ns) = descend root ns := by
  induction ns generalizing root with
  | nil => exact absurd rfl hne
  | cons n ns ih =>
    have hn := hns n List.mem_cons_self
    cases ns with
    | nil => simp [String.intercalate_singleton]
    | cons m ms =>
      have hms := fun k hk => hns k (List.mem_cons_of_mem n hk)
      have hm := hms m List.mem_cons_self
      have hrest : isAbsolute ("/".intercalate (m :: ms)) = false := by
        cases ms with
        | nil => simpa using isAbsolute_of_name hm
        | cons k ks =>
          rw [String.intercalate_cons_cons, String.append_assoc]
          exact isAbsolute_append_of_name hm _
      rw [descend_cons, ← ih (join_ne_empty hroot hn) hms (List.cons_ne_nil m ms),
        String.intercalate_cons_cons, join_append hroot hn hrest]

end FilePath

namespace Location

theorem normalize_append (a b : String) : normalize (a ++ b) = normalize a ++ normalize b := by
  simp [normalize]

theorem normalize_of_not_mem {s : String} (h : '\\' ∉ s.toList) : normalize s = s := by
  have hsame : ∀ c ∈ s.toList, (if c = '\\' then '/' else c) = c := by
    intro c hc
    refine if_neg ?_
    rintro rfl
    exact h hc
  rw [normalize, List.map_congr_left hsame, List.map_id', String.ofList_toList]

/-- Names without a backslash are shown as they are. -/
theorem normalize_intercalate {ns : List String} (h : ∀ n ∈ ns, '\\' ∉ n.toList) :
    normalize ("/".intercalate ns) = "/".intercalate ns := by
  induction ns with
  | nil => rfl
  | cons n ns ih =>
    have hn := normalize_of_not_mem (h n List.mem_cons_self)
    cases ns with
    | nil => simpa using hn
    | cons m ms =>
      have hslash : normalize "/" = "/" := by decide
      rw [String.intercalate_cons_cons, normalize_append, normalize_append, hn, hslash,
        ih fun k hk => h k (List.mem_cons_of_mem n hk)]

end Location

namespace FileTree

/-- The two paths name one entry of a directory, and if the first leads anywhere, through
a link perhaps, the second leads there. -/
structure SameEntry (t : FileTree) (path file : String) : Prop where
  entry : ∃ place, t.resolveTo .link path = .ok place ∧ t.resolveTo .link file = .ok place
  content : ∀ dest, t.resolve path = .ok dest → t.resolve file = .ok dest

/-- Below two paths to one directory the names of a file name one entry. -/
theorem Finds.sameEntry {t : FileTree} {root q file : String} {place : List String}
    (hroot : t.resolve root = .ok place) (hq : t.resolve q = .ok place) {node : Node}
    (hnode : t.root.get? place = some node) {ns : List String} (hne : ns ≠ [])
    (h : t.Finds root node ns file) : t.SameEntry (FilePath.descend q ns) file := by
  obtain ⟨dest, data, hstands⟩ := h.stands hroot hnode hne
  obtain ⟨hns, rfl, ⟨leaf, hleaf, -⟩, -⟩ := h
  have hget : t.root.get? (place ++ ns) = some leaf := by
    rw [Node.get?_append, hnode]
    exact hleaf
  refine ⟨⟨_, resolveTo_link_descend hq hns hne hget, hstands.entry⟩, fun dest' hdest' => ?_⟩
  obtain ⟨k, hleads⟩ := leads_of_resolve hroot hns hne hstands.content
  obtain ⟨k', hleads'⟩ := leads_of_resolve hq hns hne hdest'
  rw [hleads'.unique hleads]
  exact hstands.content

end FileTree

namespace Plan

theorem root_of_load {t : FileTree} {root : String} {p : Plan} (h : load t root = .ok p) :
    p.root = root := by
  unfold load at h
  cases hload : Settings.load t root with
  | error e =>
    rw [hload] at h
    cases h
  | ok settings =>
    rw [hload] at h
    cases settings with
    | none =>
      cases h
      rfl
    | some s =>
      simp only [bind, Except.bind, ofSettings] at h
      split at h
      · cases h
        rfl
      · cases h

theorem exists_gather {p : Plan} {t : FileTree} {a : Analysis} (h : p.analyze t = .ok a) :
    ∃ files, gather t p.root p.excludedDirs = .ok files ∧ a = p.report (p.read t files) := by
  cases hfiles : gather t p.root p.excludedDirs with
  | error e =>
    rw [analyze, readings, hfiles] at h
    cases h
  | ok files => exact ⟨files, rfl, (Except.ok.inj ((analyze_of_gather hfiles).symm.trans h)).symm⟩

end Plan

namespace Session

/-- Each finding, spelled below `q`, names the listed file that it shows, if no name on
the way to that file has a backslash in it, which is shown as a slash. -/
def NamesFiles (t : FileTree) (root q : String) (ds : List Diagnostic) : Prop :=
  ∀ d ∈ ds, ∃ excluded files ns, Plan.gather t root excluded = .ok files ∧
    FilePath.descend root ns ∈ files ∧ d.file = Location.normalize ("/".intercalate ns) ∧
    ((∀ n ∈ ns, '\\' ∉ n.toList) →
      t.SameEntry (FilePath.join q d.file) (FilePath.descend root ns))

theorem namesFiles_of_resolve {t : Disk} {f root : String} {place ns : List String}
    (habs : FilePath.isAbsolute f = true) (hpackage : t.InPackage f root place ns) {q : String}
    (hq : t.resolve q = .ok place) {options : ClientOptions} {uri : Uri} {a : Analysis}
    (ha : Analysed t options uri f root a) : NamesFiles t root q a.diagnostics := by
  intro d hd
  obtain ⟨plan, hplan, hanalysis⟩ := ha.hanalysis
  have hload := Plan.root_of_load hplan
  have hrooted : (options.adjust plan).root = root := hload
  obtain ⟨files, hfiles, rfl⟩ := Plan.exists_gather hanalysis
  obtain ⟨file, hmem, hshown⟩ := Plan.file_of_finding hd
  rw [hrooted] at hfiles hshown
  -- the walk found the file below the root
  obtain ⟨es, hes⟩ := hpackage.dir
  obtain ⟨entries, hdir⟩ := FileTree.root_of_resolve_absolute habs hpackage.resolve_file
  have hroot := FileTree.nodeOrLink_absolute hdir hpackage.root_names hes
  rw [← hpackage.root_eq] at hroot
  obtain ⟨files', hfiles', hwalk⟩ := Plan.gather_of_dir hroot (options.adjust plan).excludedDirs
  obtain rfl := Except.ok.inj (hfiles'.symm.trans hfiles)
  obtain ⟨m, ms, hfinds⟩ :=
    FileTree.finds_of_mem_sourcesIn (t.wellFormed.of_get? hes) (hwalk file hmem)
  have hsame := hfinds.sameEntry hpackage.resolve_root hq hes (List.cons_ne_nil m ms)
  obtain ⟨hnames, rfl, -, -⟩ := hfinds
  rw [Location.relative_descend (FileTree.ne_empty_of_resolve hpackage.resolve_root) hnames]
    at hshown
  refine ⟨_, files', m :: ms, hfiles, hmem, hshown, fun hclean => ?_⟩
  rw [hshown, Location.normalize_intercalate hclean, FilePath.join_intercalate
    (FileTree.ne_empty_of_resolve hq) hnames (List.cons_ne_nil m ms)]
  exact hsame

/-- **The client's root.** Take an absolute path of the client to a file in a package. The
root of the package is a canonical path to a directory above the file. The client's root
is the client's path less as many components as the file has below the root, in any
spelling, and leads where that leads; if the client's path is too short for that, it is
the root itself. So it leads to the root if links lead only to the root or to a
directory above it. Whenever it does, each finding of a run names, spelled below it, the
very file that was analysed. -/
theorem clientRoot_names_root {t : Disk} {f root : String} (habs : FilePath.isAbsolute f = true)
    (hfile : t.isFile f = true) (hroot : Package.root? t f = some root) :
    ∃ place ns, root = FileTree.absolute place ∧ t.canonical root = .ok root ∧
      t.canonical f = .ok (FileTree.absolute (place ++ ns)) ∧
      (∀ q gone, q ≠ "" → FilePath.components f = FilePath.components q ++ gone →
        gone.length = ns.length →
        FilePath.components (clientRoot t f root) = FilePath.components q ∧
          t.canonical (clientRoot t f root) = t.canonical q) ∧
      ((FilePath.components f).length ≤ ns.length → clientRoot t f root = root) ∧
      (∀ q c ms, Direct t f root q c ms → t.canonical (clientRoot t f root) = .ok root) ∧
      (t.canonical (clientRoot t f root) = .ok root →
        ∀ options uri a, Analysed t options uri f root a →
          NamesFiles t root (clientRoot t f root) a.diagnostics) := by
  obtain ⟨place, ns, hpackage⟩ := Package.exists_place habs hfile hroot
  have hcanonical : t.canonical root = .ok root := by
    rw [FileTree.canonical_of_resolve hpackage.resolve_root, ← hpackage.root_eq]
  refine ⟨place, ns, hpackage.root_eq, hcanonical,
    FileTree.canonical_of_resolve hpackage.resolve_file, ?_, ?_, ?_, ?_⟩
  · intro q gone hq h hgone
    obtain ⟨hsame, hleads⟩ := resolve_clientRoot habs hpackage hq h hgone
    exact ⟨hsame, by rw [FileTree.canonical, hleads, FileTree.canonical]⟩
  · intro hshort
    rcases clientRoot_cases habs hpackage with ⟨gone, h, hgone, hne⟩ | ⟨-, h⟩
    · have hpos := List.length_pos_iff.mpr (FilePath.components_ne_nil hne)
      rw [h, List.length_append] at hshort
      omega
    · exact h
  · intro q c ms hdirect
    have hplace := resolve_clientRoot_of_direct habs hpackage hdirect
    rw [FileTree.canonical_of_resolve hplace, ← hpackage.root_eq]
  · intro h options uri a ha
    exact namesFiles_of_resolve habs hpackage
      (resolve_of_canonical_clientRoot habs hpackage h) ha

/-- A package that the client reaches through a link. -/
def linkedShop : Disk where
  root := .dir [("real", .dir [("Cargo.toml", .file "".toUTF8),
      ("src", .dir [("order.rs", .file "".toUTF8)])]),
    ("link", .link "/real")]
  cwd := []

/-- The link above the root is kept. -/
theorem linkedShop_root :
    Package.root? linkedShop "/link/src/order.rs" = some "/real" ∧
      clientRoot linkedShop "/link/src/order.rs" "/real" = "/link" ∧
      linkedShop.canonical "/link" = .ok "/real" := by
  have hfile : linkedShop.isFile "/link/src/order.rs" = true := by decide +kernel
  have hroot : Package.root? linkedShop "/link/src/order.rs" = some "/real" := by decide +kernel
  have hclient : clientRoot linkedShop "/link/src/order.rs" "/real" = "/link" := by decide +kernel
  have hdirect : Direct linkedShop "/link/src/order.rs" "/real" "/link" "/real"
      ["src", "order.rs"] :=
    { leads := by decide +kernel
      above := ⟨[], by decide⟩
      spelled := by decide
      same := ⟨"/real/src/order.rs", by decide +kernel, by decide⟩ }
  obtain ⟨place, ns, -, -, -, -, -, hnames, -⟩ :=
    clientRoot_names_root (by decide) hfile hroot
  have hcanonical := hnames _ _ _ hdirect
  rw [hclient] at hcanonical
  exact ⟨hroot, hclient, hcanonical⟩

/-- A package with a source file that is a link into a directory below. -/
def deepLinkShop : Disk where
  root := .dir [("shop", .dir [("Cargo.toml", .file "".toUTF8),
    ("src", .dir [("lib.rs", .link "gen/lib.txt"),
      ("gen", .dir [("lib.txt", .file "".toUTF8)])])])]
  cwd := []

/-- The file has three names below the root, but only two in the client's path. -/
theorem deep_link_misses_root :
    FilePath.isAbsolute "/shop/src/lib.rs" = true ∧
      deepLinkShop.isFile "/shop/src/lib.rs" = true ∧
      Package.root? deepLinkShop "/shop/src/lib.rs" = some "/shop" ∧
      clientRoot deepLinkShop "/shop/src/lib.rs" "/shop" = "/" ∧
      deepLinkShop.canonical (clientRoot deepLinkShop "/shop/src/lib.rs" "/shop") ≠
        .ok "/shop" := by
  decide +kernel

end Session

end EnumFamily
