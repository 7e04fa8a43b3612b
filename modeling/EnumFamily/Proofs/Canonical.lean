import EnumFamily.Package
import EnumFamily.Proofs.Resolution

/-!
# Canonical paths

The canonical path of a place spells the names on the way from the root of the
file tree: `FileTree.absolute names`. Going up from it drops the last name, and
in a tree without links it leads to the place that it spells.

Results:
* `descend_absolute`, `parent?_absolute`: joining names to a canonical path, and
  going up from it.
* `find?_ancestors`: the first path with a property at or above a canonical one.
* `exists_absolute_of_canonical`: a path that is its own canonical form spells an
  existing place.
* `resolve_descend_iff`, `node_descend_iff`: below a directory without links a path
  leads to the place that it spells.
* `node_absolute`, `isRoot_absolute_iff`: in a tree without links, what stands at a
  canonical path, and when it is the root of a package.
-/
namespace EnumFamily

/-! ## Names from the root -/

namespace FilePath

open FileTree (absolute)

theorem toList_absolute_concat (ns : List String) (n : String) :
    ∃ init, (absolute (ns ++ [n])).toList = init ++ '/' :: n.toList := by
  unfold absolute
  cases ns with
  | nil => exact ⟨[], by simp⟩
  | cons m ms =>
    rw [String.intercalate_append_of_ne_nil (List.cons_ne_nil m ms) (List.cons_ne_nil n [])]
    exact ⟨'/' :: ("/".intercalate (m :: ms)).toList, by simp⟩

theorem getLast?_ne_slash (init : List Char) {n : String} (hn : IsEntryName n) :
    (init ++ '/' :: n.toList).getLast? ≠ some '/' := by
  have hne : n.toList ≠ [] := fun h => hn.ne_empty (String.toList_eq_nil_iff.mp h)
  intro hlast
  rw [List.append_cons, List.getLast?_append, List.getLast?_eq_some_getLast hne] at hlast
  have hmem := List.getLast_mem hne
  rw [Option.some_or, Option.some.injEq] at hlast
  exact hn.no_slash (hlast ▸ hmem)

/-- A canonical path below the root does not end in a slash. -/
theorem getLast?_absolute_concat {ns : List String} {n : String} (hn : IsEntryName n) :
    (absolute (ns ++ [n])).toList.getLast? ≠ some '/' := by
  obtain ⟨init, hinit⟩ := toList_absolute_concat ns n
  rw [hinit]
  exact getLast?_ne_slash init hn

theorem join_absolute {ns : List String} (hns : ∀ m ∈ ns, IsEntryName m) {n : String}
    (hn : IsEntryName n) : join (absolute ns) n = absolute (ns ++ [n]) := by
  unfold join
  rw [isAbsolute_of_name hn, if_neg Bool.false_ne_true]
  rcases List.eq_nil_or_concat ns with rfl | ⟨ms, m, rfl⟩
  · simp [absolute]
  · have hm := hns m (by simp)
    rw [List.concat_eq_append] at *
    have hempty : absolute (ms ++ [m]) ≠ "" := by simp [absolute]
    rw [if_neg (not_or.mpr ⟨hempty, getLast?_absolute_concat hm⟩)]
    unfold absolute
    rw [String.intercalate_append_of_ne_nil (l := ms ++ [m]) (by simp) (List.cons_ne_nil n [])]
    simp [String.append_assoc]

theorem descend_absolute {ns ms : List String} (hns : ∀ n ∈ ns, IsEntryName n)
    (hms : ∀ n ∈ ms, IsEntryName n) : descend (absolute ns) ms = absolute (ns ++ ms) := by
  induction ms generalizing ns with
  | nil => simp
  | cons m ms ih =>
    have hm := hms m List.mem_cons_self
    rw [descend_cons, join_absolute hns hm,
      ih (isEntryName_concat hns hm) fun n hn => hms n (List.mem_cons_of_mem m hn),
      List.append_assoc]
    rfl

theorem descend_slash {ns : List String} (hns : ∀ n ∈ ns, IsEntryName n) :
    descend "/" ns = absolute ns := by
  have hnil : ∀ n ∈ ([] : List String), IsEntryName n := by simp
  exact descend_absolute hnil hns

/-! ## Going up -/

/-- The piece in front of the first slash of an absolute path. -/
def rootPiece : Piece := ⟨"", some .root⟩

theorem pieces_absolute {ns : List String} (hns : ∀ n ∈ ns, IsEntryName n) (hne : ns ≠ []) :
    pieces (absolute ns) = rootPiece :: ns.map entryPiece := by
  have hsplit : splitAt '/' (absolute ns).toList = [] :: ns.map String.toList := by
    have hlist : (absolute ns).toList = [] ++ '/' :: ("/".intercalate ns).toList := by
      simp [absolute]
    rw [hlist, splitAt_append_sep, splitAt_intercalate (fun n hn => (hns n hn).no_slash) hne]
    rfl
  have hmore : (ns.map String.toList).isEmpty = false := by simp [hne]
  rw [pieces_of_splitAt hsplit, map_piece_names hns, hmore]
  rfl

theorem trimEnd_rooted (ns : List String) :
    trimEnd (rootPiece :: ns.map entryPiece) = rootPiece :: ns.map entryPiece := by
  unfold trimEnd
  rcases List.eq_nil_or_concat ns with rfl | ⟨ms, m, rfl⟩
  · rfl
  · simp [List.concat_eq_append, entryPiece]

theorem spell_rooted (ns : List String) :
    spell (rootPiece :: ns.map entryPiece) = absolute ns := by
  cases ns with
  | nil => rfl
  | cons n ns =>
    have htexts : ((n :: ns).map entryPiece).map (·.text) = n :: ns := by
      rw [List.map_map]
      exact List.map_id (n :: ns)
    have hspell : spell (rootPiece :: (n :: ns).map entryPiece) =
        "/".intercalate ("" :: ((n :: ns).map entryPiece).map (·.text)) := rfl
    rw [hspell, htexts, String.intercalate_cons_of_ne_nil (List.cons_ne_nil n ns)]
    rfl

theorem parent?_absolute {ns : List String} {n : String} (hns : ∀ m ∈ ns ++ [n], IsEntryName m) :
    parent? (absolute (ns ++ [n])) = some (absolute ns) := by
  have hreverse : (trimEnd (pieces (absolute (ns ++ [n])))).reverse =
      entryPiece n :: (rootPiece :: ns.map entryPiece).reverse := by
    rw [pieces_absolute hns (by simp), trimEnd_rooted]
    simp
  unfold parent?
  rw [hreverse]
  show some (spell (trimEnd (rootPiece :: ns.map entryPiece).reverse.reverse)) = _
  rw [List.reverse_reverse, trimEnd_rooted, spell_rooted]

/-- Upwards from a canonical path, the first path with a property is the one that
has it where those passed on the way do not. -/
theorem find?_ancestorsUpTo {p : String → Bool} {place : List String}
    (hplace : p (absolute place) = true) {fuel : Nat} {ms : List String}
    (hns : ∀ n ∈ place ++ ms, IsEntryName n) (hfuel : ms.length ≤ fuel)
    (hpassed : ∀ ms', ms' <+: ms → ms' ≠ [] → p (absolute (place ++ ms')) = false) :
    (ancestorsUpTo fuel (absolute (place ++ ms))).find? p = some (absolute place) := by
  induction fuel generalizing ms with
  | zero =>
    have hnil : ms = [] := List.length_eq_zero_iff.mp (by omega)
    subst hnil
    simp [ancestorsUpTo, hplace]
  | succ fuel ih =>
    rcases List.eq_nil_or_concat ms with rfl | ⟨init, m, rfl⟩
    · simp [ancestorsUpTo, hplace]
    · rw [List.concat_eq_append] at *
      have hhere := hpassed (init ++ [m]) List.prefix_rfl (by simp)
      have hup : parent? (absolute (place ++ (init ++ [m]))) = some (absolute (place ++ init)) := by
        rw [← List.append_assoc] at hns ⊢
        exact parent?_absolute hns
      rw [ancestorsUpTo, List.find?_cons, hhere, hup]
      refine ih (fun n hn => hns n ?_) ?_ fun ms' hms' => hpassed ms' ?_
      · rw [← List.append_assoc]
        exact List.mem_append_left _ hn
      · simp only [List.length_append, List.length_singleton] at hfuel
        omega
      · exact hms'.trans (List.prefix_append init [m])

theorem find?_ancestors {p : String → Bool} {place : List String}
    (hplace : p (absolute place) = true) {ms : List String}
    (hns : ∀ n ∈ place ++ ms, IsEntryName n)
    (hpassed : ∀ ms', ms' <+: ms → ms' ≠ [] → p (absolute (place ++ ms')) = false) :
    (ancestors (absolute (place ++ ms))).find? p = some (absolute place) := by
  refine find?_ancestorsUpTo hplace hns ?_ hpassed
  by_cases hne : place ++ ms = []
  · obtain ⟨-, rfl⟩ := List.append_eq_nil_iff.mp hne
    exact Nat.zero_le _
  · rw [pieces_absolute hns hne]
    simp only [List.length_cons, List.length_map, List.length_append]
    omega

end FilePath

/-! ## Places that exist -/

namespace Node

/-- The names on the way to a node are names of entries. -/
theorem WellFormed.names_of_get? {node leaf : Node} (hwf : node.WellFormed) {ns : List String}
    (h : node.get? ns = some leaf) : ∀ n ∈ ns, IsEntryName n := by
  induction ns generalizing node with
  | nil => simp
  | cons n ns ih =>
    obtain ⟨entries, rfl⟩ := dir_of_get?_cons h
    rw [get?_dir_cons] at h
    obtain ⟨child, hl, hchild⟩ := Option.bind_eq_some_iff.mp h
    cases hwf with
    | dir _ hnames hwf =>
      have hmem := mem_of_lookup hl
      exact List.forall_mem_cons.mpr ⟨hnames _ hmem, ih (hwf _ hmem) hchild⟩

/-- The tree has no links, and what is called like a manifest is a file. -/
inductive Plain : Node → Prop
  | file (data : ByteArray) : Plain (.file data)
  | dir {entries : List (String × Node)} : (∀ e ∈ entries, e.2.Plain) →
      (∀ e ∈ entries, e.1 = Manifest.fileName → ∃ data, e.2 = .file data) → Plain (.dir entries)

theorem plain_dir_iff {entries : List (String × Node)} :
    (dir entries).Plain ↔ (∀ e ∈ entries, e.2.Plain) ∧
      ∀ e ∈ entries, e.1 = Manifest.fileName → ∃ data, e.2 = .file data :=
  ⟨fun | .dir hplain hmanifest => ⟨hplain, hmanifest⟩, fun h => .dir h.1 h.2⟩

theorem Plain.of_get? {node leaf : Node} (hplain : node.Plain) {ns : List String}
    (h : node.get? ns = some leaf) : leaf.Plain := by
  induction ns generalizing node with
  | nil =>
    rw [get?_nil, Option.some.injEq] at h
    exact h ▸ hplain
  | cons n ns ih =>
    obtain ⟨entries, rfl⟩ := dir_of_get?_cons h
    rw [get?_dir_cons] at h
    obtain ⟨child, hl, hchild⟩ := Option.bind_eq_some_iff.mp h
    cases hplain with
    | dir hplain _ => exact ih (hplain _ (mem_of_lookup hl)) hchild

theorem Plain.linkless {node : Node} (hplain : node.Plain) : node.Linkless := by
  intro ns target h
  cases hplain.of_get? h

/-- A directory in which something is called like a manifest has a file of that name. -/
theorem Plain.manifest {node leaf : Node} (hplain : node.Plain) {ns : List String}
    (h : node.get? (ns ++ [Manifest.fileName]) = some leaf) : ∃ data, leaf = .file data := by
  obtain ⟨entries, hdir, hl⟩ := exists_dir_of_get?_concat h
  cases hplain.of_get? hdir with
  | dir _ hmanifest => exact hmanifest _ (mem_of_lookup hl) rfl

end Node

namespace FileTree

/-- Steps lead from a place that exists to one that does. -/
theorem Leads.exists_get? {root : Node} {pos dest : List String} {ss : List Step} {k : Nat}
    (h : Leads root pos ss k dest) (hpos : ∃ node, root.get? pos = some node) :
    ∃ node, root.get? dest = some node := by
  induction h with
  | done pos => exact hpos
  | stay _ _ ih => exact ih hpos
  | @up pos dest entries rest k hdir _ ih =>
    refine ih ?_
    rcases List.eq_nil_or_concat pos with rfl | ⟨init, n, rfl⟩
    · exact ⟨root, by simp⟩
    · rw [List.concat_eq_append] at hdir ⊢
      rw [List.dropLast_concat]
      obtain ⟨es, hes⟩ := Node.dir_above hdir
      exact ⟨_, hes⟩
  | enter hdir hl _ _ ih => exact ih ⟨_, Node.get?_concat hdir hl⟩
  | link hdir _ _ _ ih =>
    refine ih ?_
    split
    · exact ⟨root, by simp⟩
    · exact ⟨_, hdir⟩

theorem canonical_eq_ok_iff {t : FileTree} {path c : String} :
    t.canonical path = .ok c ↔ ∃ place, t.resolve path = .ok place ∧ c = absolute place := by
  unfold canonical
  cases t.resolve path with
  | error e => simp [Except.map]
  | ok place => simp [Except.map, eq_comm]

theorem canonical_of_resolve {t : FileTree} {path : String} {place : List String}
    (h : t.resolve path = .ok place) : t.canonical path = .ok (absolute place) :=
  canonical_eq_ok_iff.mpr ⟨place, h, rfl⟩

section
variable {t : FileTree} {path : String} (habs : FilePath.isAbsolute path = true)
  {place : List String} (h : t.resolve path = .ok place)
include habs h

/-- An absolute path goes through the root of the tree. -/
theorem root_of_resolve_absolute : ∃ entries, t.root = .dir entries := by
  obtain ⟨k, -, hleads⟩ := (resolve_iff (ne_empty_of_resolve h)).mp h
  have hsteps : steps path ≠ [] := by
    obtain ⟨ss, step, hss⟩ := exists_last_step path
    simp [hss]
  obtain ⟨step, rest, hcons⟩ := List.exists_cons_of_ne_nil hsteps
  rw [habs, if_pos rfl, hcons] at hleads
  obtain ⟨entries, hdir⟩ := hleads.dir_of_cons
  rw [Node.get?_nil, Option.some.injEq] at hdir
  exact ⟨entries, hdir⟩

end

theorem names_of_resolve_absolute {t : Disk} {path : String}
    (habs : FilePath.isAbsolute path = true) {place : List String}
    (h : t.resolve path = .ok place) : ∀ n ∈ place, IsEntryName n := by
  obtain ⟨k, -, hleads⟩ := (resolve_iff (ne_empty_of_resolve h)).mp h
  rw [habs, if_pos rfl] at hleads
  obtain ⟨node, hnode⟩ := hleads.exists_get? ⟨t.root, by simp⟩
  exact t.wellFormed.names_of_get? hnode

/-- A path that is its own canonical form spells the names to an existing place. -/
theorem exists_absolute_of_canonical {t : Disk} {path : String} (h : t.canonical path = .ok path) :
    ∃ place entries, path = absolute place ∧ t.root = .dir entries ∧
      ∀ n ∈ place, IsEntryName n := by
  obtain ⟨place, hplace, hpath⟩ := canonical_eq_ok_iff.mp h
  have habs : FilePath.isAbsolute path = true := by simp [hpath, FilePath.isAbsolute, absolute]
  obtain ⟨entries, hdir⟩ := root_of_resolve_absolute habs hplace
  exact ⟨place, entries, hpath, hdir, names_of_resolve_absolute habs hplace⟩

/-! ## Places without links -/

/-- Where there are no links, names lead to the place that they spell. -/
theorem Leads.eq_of_names {root node : Node} {pos ns dest : List String} {k : Nat}
    (hpos : root.get? pos = some node) (hlink : node.Linkless)
    (h : Leads root pos (ns.map Step.name) k dest) :
    dest = pos ++ ns ∧ ∃ leaf, node.get? ns = some leaf := by
  induction ns generalizing pos node with
  | nil =>
    cases h
    exact ⟨by simp, node, by simp⟩
  | cons n ns ih =>
    cases h with
    | enter hdir hl _ h =>
      obtain rfl := Option.some.inj (hpos.symm.trans hdir)
      have hchild := Node.get?_concat (Node.get?_nil _) hl
      obtain ⟨hdest, leaf, hleaf⟩ := ih (Node.get?_concat hdir hl) (hlink.of_get? hchild) h
      refine ⟨by simpa using hdest, leaf, ?_⟩
      rw [Node.get?_dir_cons, hl]
      exact hleaf
    | link hdir hl _ _ =>
      obtain rfl := Option.some.inj (hpos.symm.trans hdir)
      exact absurd (Node.get?_concat (Node.get?_nil _) hl) (hlink _ _)

theorem resolve_descend_iff {t : FileTree} {root : String} {place : List String}
    (hroot : t.resolve root = .ok place) {node : Node} (hplace : t.root.get? place = some node)
    (hlink : node.Linkless) {ns dest : List String} (hns : ∀ n ∈ ns, IsEntryName n) :
    t.resolve (FilePath.descend root ns) = .ok dest ↔
      dest = place ++ ns ∧ ∃ leaf, node.get? ns = some leaf := by
  rcases List.eq_nil_or_concat ns with rfl | ⟨init, n, rfl⟩
  · simp [hroot, eq_comm]
  · rw [List.concat_eq_append] at *
    constructor
    · intro h
      obtain ⟨k, hleads⟩ := leads_of_resolve hroot hns (by simp) h
      exact hleads.eq_of_names hplace hlink
    · rintro ⟨rfl, leaf, hleaf⟩
      have hget : t.root.get? (place ++ init ++ [n]) = some leaf := by
        rw [List.append_assoc, Node.get?_append, hplace]
        exact hleaf
      obtain ⟨es, hes, hl⟩ := Node.exists_dir_of_get?_concat hget
      have hno : ∀ target, leaf ≠ .link target := by
        rintro target rfl
        exact hlink _ _ hleaf
      rw [← List.append_assoc]
      exact resolve_of_leads_last hroot hns hes (.enter hes hl hno (.done _))

/-- Below a directory without links stands what the names lead to. -/
theorem node_descend_iff {t : FileTree} {root : String} {node : Node}
    (hnode : t.node root = .ok node) (hlink : node.Linkless) {ns : List String}
    (hns : ∀ n ∈ ns, IsEntryName n) {leaf : Node} :
    t.node (FilePath.descend root ns) = .ok leaf ↔ node.get? ns = some leaf := by
  obtain ⟨place, hroot, hplace⟩ := node_eq_ok_iff.mp hnode
  have hget : t.root.get? (place ++ ns) = node.get? ns := by
    rw [Node.get?_append, hplace]
    rfl
  simp only [node_eq_ok_iff, resolve_descend_iff hroot hplace hlink hns]
  constructor
  · rintro ⟨dest, ⟨rfl, -⟩, h⟩
    exact hget.symm.trans h
  · intro h
    exact ⟨place ++ ns, ⟨rfl, leaf, h⟩, hget.trans h⟩

section
variable {t : FileTree} (hplain : t.root.Plain) {entries : List (String × Node)}
  (hdir : t.root = .dir entries)
include hdir

theorem resolve_slash : t.resolve "/" = .ok [] := by
  refine (resolve_iff (by decide)).mpr ⟨0, Nat.zero_le _, ?_⟩
  have hget : t.root.get? [] = some (.dir entries) := by rw [Node.get?_nil, hdir]
  exact .stay hget (.stay hget (.done []))

include hplain

theorem resolve_absolute_iff {ns dest : List String} (hns : ∀ n ∈ ns, IsEntryName n) :
    t.resolve (absolute ns) = .ok dest ↔ dest = ns ∧ ∃ node, t.root.get? ns = some node := by
  rw [← FilePath.descend_slash hns]
  exact resolve_descend_iff (resolve_slash hdir) (Node.get?_nil _) hplain.linkless hns

/-- What stands at a canonical path is what stands at the place that it spells. -/
theorem node_absolute {ns : List String} (hns : ∀ n ∈ ns, IsEntryName n) {node : Node} :
    t.node (absolute ns) = .ok node ↔ t.root.get? ns = some node := by
  rw [← FilePath.descend_slash hns]
  have hslash : t.node "/" = .ok t.root :=
    node_eq_ok_iff.mpr ⟨[], resolve_slash hdir, Node.get?_nil _⟩
  exact node_descend_iff hslash hplain.linkless hns

theorem isRoot_absolute_iff {ns : List String} (hns : ∀ n ∈ ns, IsEntryName n) :
    Package.isRoot t (absolute ns) = true ↔
      (∃ node, t.root.get? (ns ++ [Manifest.fileName]) = some node) ∧
        ∃ es, t.root.get? (ns ++ ["src"]) = some (.dir es) := by
  have hmanifest : IsEntryName Manifest.fileName := by decide
  have hsource : IsEntryName "src" := by decide
  unfold Package.isRoot Manifest.pathIn
  rw [FilePath.join_absolute hns hmanifest, FilePath.join_absolute hns hsource, Bool.and_eq_true,
    isDir_iff]
  simp only [node_absolute hplain hdir (isEntryName_concat hns hsource)]
  refine and_congr_left fun _ => ?_
  unfold contains
  constructor
  · intro h
    split at h
    · rename_i node hnode
      exact ⟨node, (node_absolute hplain hdir (isEntryName_concat hns hmanifest)).mp hnode⟩
    · cases h
  · rintro ⟨node, hnode⟩
    rw [(node_absolute hplain hdir (isEntryName_concat hns hmanifest)).mpr hnode]

end

end FileTree

end EnumFamily
