import EnumFamily.Proofs.Gathering
import Mathlib.Data.List.Induction

/-!
# Taking files out of a tree

`Disk.remove` deletes one entry: a link at the end of the path is itself
taken away. `Node.prune` leaves out any number of entries at once, and
`removeAll_eq_prune` says that deleting files one after the other comes to the
same.

A pruned tree is then compared with the whole one. What a path leads to in the
pruned tree it leads to in the whole one (`Leads.of_prune`); and if all that is
taken away are files and links to files, the converse fails only for paths that
end where one of them leads (`Leads.prune`).
-/
namespace EnumFamily

/-! ## Pruning -/

namespace Node

mutual

/-- The node at `pos` without the entries below it whose places are `gone`. -/
def prune (gone : List String → Bool) (pos : List String) : Node → Node
  | .file data => .file data
  | .link target => .link target
  | .dir entries => .dir (pruneEntries gone pos entries)

def pruneEntries (gone : List String → Bool) (pos : List String) :
    List (String × Node) → List (String × Node)
  | [] => []
  | (n, node) :: rest =>
    if gone (pos ++ [n]) then pruneEntries gone pos rest
    else (n, prune gone (pos ++ [n]) node) :: pruneEntries gone pos rest

end

section
variable {gone : List String → Bool} {pos : List String}

theorem prune_dir {entries : List (String × Node)} :
    (dir entries).prune gone pos = dir (pruneEntries gone pos entries) := by rw [prune]

theorem prune_eq_dir {node : Node} {entries' : List (String × Node)}
    (h : node.prune gone pos = dir entries') :
    ∃ entries, node = dir entries ∧ entries' = pruneEntries gone pos entries := by
  cases node with
  | file data =>
    rw [prune] at h
    cases h
  | link target =>
    rw [prune] at h
    cases h
  | dir entries =>
    rw [prune] at h
    exact ⟨entries, rfl, (Node.dir.inj h).symm⟩

theorem prune_eq_file {node : Node} {data : ByteArray} (h : node.prune gone pos = file data) :
    node = file data := by
  cases node with
  | file data' => rwa [prune] at h
  | link target =>
    rw [prune] at h
    cases h
  | dir entries =>
    rw [prune] at h
    cases h

theorem prune_eq_link_iff {node : Node} {target : String} :
    node.prune gone pos = link target ↔ node = link target := by
  cases node <;> simp [prune]

theorem pruneEntries_eq (entries : List (String × Node)) :
    pruneEntries gone pos entries = (entries.filter fun e => !gone (pos ++ [e.1])).map
      fun e => (e.1, e.2.prune gone (pos ++ [e.1])) := by
  induction entries with
  | nil => rw [pruneEntries]; rfl
  | cons e rest ih =>
    rw [pruneEntries, ih]
    cases hg : gone (pos ++ [e.1]) <;> simp [hg]

theorem lookup_pruneEntries (entries : List (String × Node)) (n : String) :
    (pruneEntries gone pos entries).lookup n =
      if gone (pos ++ [n]) then none
      else (entries.lookup n).map (prune gone (pos ++ [n])) := by
  induction entries with
  | nil => simp [pruneEntries]
  | cons e rest ih =>
    obtain ⟨m, node⟩ := e
    rw [pruneEntries]
    by_cases hmn : n = m
    · subst hmn
      cases hg : gone (pos ++ [n]) with
      | true => simpa [hg] using ih
      | false => simp
    · rw [lookup_cons_of_ne hmn]
      cases hg : gone (pos ++ [m]) with
      | true => simpa using ih
      | false => simpa [lookup_cons_of_ne hmn] using ih

theorem WellFormed.prune {node : Node} (hwf : node.WellFormed) :
    (node.prune gone pos).WellFormed := by
  induction hwf generalizing pos with
  | file data => rw [Node.prune]; exact .file data
  | link target => rw [Node.prune]; exact .link target
  | @dir entries hnodup hnames _ ih =>
    rw [prune_dir, pruneEntries_eq]
    refine .dir ?_ ?_ ?_
    · rw [List.map_map]
      exact hnodup.sublist (List.filter_sublist.map _)
    · intro e he
      obtain ⟨d, hd, rfl⟩ := List.mem_map.mp he
      exact hnames d (List.mem_filter.mp hd).1
    · intro e he
      obtain ⟨d, hd, rfl⟩ := List.mem_map.mp he
      exact ih d (List.mem_filter.mp hd).1

/-- Where no place is gone, nothing changes. -/
theorem prune_of_none_gone {node : Node} (hwf : node.WellFormed)
    (h : ∀ ns, ns ≠ [] → gone (pos ++ ns) = false) : node.prune gone pos = node := by
  induction hwf generalizing pos with
  | file data => rw [Node.prune]
  | link target => rw [Node.prune]
  | @dir entries _ _ _ ih =>
    have hall : ∀ e ∈ entries, (e.1, e.2.prune gone (pos ++ [e.1])) = e := by
      intro e he
      rw [ih e he fun ns _ => ?_]
      rw [List.append_assoc]
      exact h _ (by simp)
    have hkeep : entries.filter (fun e => !gone (pos ++ [e.1])) = entries := by
      refine List.filter_eq_self.mpr fun e _ => ?_
      rw [h [e.1] (by simp)]
      rfl
    rw [prune_dir, pruneEntries_eq, hkeep, (List.map_congr_left hall).trans (List.map_id entries)]

theorem prune_prune {gone' : List String → Bool} {node : Node} (hwf : node.WellFormed) :
    (node.prune gone pos).prune gone' pos = node.prune (fun q => gone q || gone' q) pos := by
  induction hwf generalizing pos with
  | file data => simp only [Node.prune]
  | link target => simp only [Node.prune]
  | @dir entries _ _ _ ih =>
    simp only [prune_dir, pruneEntries_eq, List.filter_map, List.filter_filter, List.map_map]
    congr 1
    have hkeep : entries.filter (fun e => !(gone (pos ++ [e.1]) || gone' (pos ++ [e.1]))) =
        entries.filter (fun e => !gone' (pos ++ [e.1]) && !gone (pos ++ [e.1])) := by
      refine List.filter_congr fun e _ => ?_
      rw [Bool.not_or, Bool.and_comm]
    rw [hkeep]
    refine List.map_congr_left fun e he => ?_
    exact congrArg (Prod.mk e.1) (ih e (List.mem_filter.mp he).1)

theorem putEntry_eq_map {entries : List (String × Node)} (hnodup : (entries.map (·.1)).Nodup)
    {n : String} (hn : n ∈ entries.map (·.1)) (node : Node) :
    putEntry n node entries = entries.map fun e => if e.1 = n then (e.1, node) else e := by
  induction entries with
  | nil => cases hn
  | cons e rest ih =>
    rw [List.map_cons, List.nodup_cons] at hnodup
    rw [putEntry, List.map_cons]
    split
    · rename_i he
      -- the name does not come again, so the rest stays
      have hrest : rest.map (fun d => if d.1 = n then (d.1, node) else d) = rest := by
        refine (List.map_congr_left fun d hd => if_neg ?_).trans (List.map_id rest)
        intro hdn
        exact hnodup.1 (List.mem_map.mpr ⟨d, hd, hdn.trans he.symm⟩)
      rw [hrest, he]
    · rename_i he
      rw [ih hnodup.2]
      rw [List.map_cons, List.mem_cons] at hn
      exact hn.resolve_left (Ne.symm he)

end

theorem erase_eq_prune {node : Node} (hwf : node.WellFormed) {ns : List String} (hne : ns ≠ [])
    (pos : List String) : node.erase ns = node.prune (· == pos ++ ns) pos := by
  induction ns generalizing node pos with
  | nil => exact absurd rfl hne
  | cons n ns ih =>
    cases hwf with
    | file data => simp [erase, prune]
    | link target => simp [erase, prune]
    | @dir entries hnodup hnames hchild =>
      rw [prune_dir, pruneEntries_eq]
      have hother : ∀ e ∈ entries, e.1 ≠ n ∨ ns = [] →
          (e.1, e.2.prune (· == pos ++ n :: ns) (pos ++ [e.1])) = e := by
        intro e he hen
        rw [prune_of_none_gone (hchild e he) fun ms hms => ?_]
        rw [beq_eq_false_iff_ne, List.append_assoc]
        intro h
        obtain ⟨hn, hms'⟩ := List.cons.inj (List.append_cancel_left h)
        rcases hen with hen | rfl
        · exact hen hn
        · exact hms hms'
      cases ns with
      | nil =>
        rw [erase]
        congr 1
        have hkeep : entries.filter (·.1 != n) =
            entries.filter (fun e => !(pos ++ [e.1] == pos ++ [n])) := by
          refine List.filter_congr fun e _ => ?_
          simp [bne]
        rw [hkeep]
        refine ((List.map_congr_left fun e he => ?_).trans (List.map_id _)).symm
        exact hother e (List.mem_filter.mp he).1 (Or.inr rfl)
      | cons m ms =>
        have hkeep :
            entries.filter (fun e => !(pos ++ [e.1] == pos ++ n :: m :: ms)) = entries := by
          refine List.filter_eq_self.mpr fun e _ => ?_
          simp
        rw [hkeep, erase]
        case x => exact List.cons_ne_nil m ms
        cases hl : entries.lookup n with
        | none =>
          refine congrArg dir ((List.map_congr_left fun e he => ?_).trans (List.map_id _)).symm
          refine hother e he (Or.inl ?_)
          rintro rfl
          rw [lookup_of_mem hnodup he] at hl
          cases hl
        | some child =>
          have hmem := mem_of_lookup hl
          have hin : n ∈ entries.map (·.1) := List.mem_map.mpr ⟨_, hmem, rfl⟩
          show dir (putEntry n (child.erase (m :: ms)) entries) = _
          rw [putEntry_eq_map hnodup hin]
          refine congrArg dir (List.map_congr_left fun e he => ?_)
          split
          · rename_i hen
            subst hen
            have hchild' : child = e.2 := by
              rw [lookup_of_mem hnodup he] at hl
              exact (Option.some.inj hl).symm
            rw [hchild', ih (hchild e he) (by simp) (pos ++ [e.1]), List.append_assoc]
            rfl
          · rename_i hen
            exact (hother e he (Or.inl hen)).symm

theorem WellFormed.erase {node : Node} (hwf : node.WellFormed) (ns : List String) :
    (node.erase ns).WellFormed := by
  by_cases hne : ns = []
  · subst hne
    simpa only [Node.erase] using hwf
  · rw [erase_eq_prune hwf hne []]
    exact hwf.prune

/-! ## Places in a pruned tree -/

section
variable {root : Node} {gone : List String → Bool}

theorem of_get?_prune {pos : List String} {node' : Node}
    (h : (root.prune gone []).get? pos = some node') :
    ∃ node, root.get? pos = some node ∧ node' = node.prune gone pos := by
  induction pos using List.reverseRecOn generalizing node' with
  | nil => exact ⟨root, get?_nil root, (Option.some.inj ((get?_nil _).symm.trans h)).symm⟩
  | append_singleton ms n ih =>
    obtain ⟨entries', hpos, hl⟩ := exists_dir_of_get?_concat h
    obtain ⟨parent, hparent, heq⟩ := ih hpos
    obtain ⟨entries, rfl, rfl⟩ := prune_eq_dir heq.symm
    rw [lookup_pruneEntries] at hl
    split at hl
    · cases hl
    · obtain ⟨node, hnode, rfl⟩ := Option.map_eq_some_iff.mp hl
      exact ⟨node, get?_concat hparent hnode, rfl⟩

theorem dir_of_get?_prune {pos : List String} {entries' : List (String × Node)}
    (h : (root.prune gone []).get? pos = some (dir entries')) :
    ∃ entries, root.get? pos = some (dir entries) ∧ entries' = pruneEntries gone pos entries := by
  obtain ⟨node, hnode, heq⟩ := of_get?_prune h
  obtain ⟨entries, rfl, hentries⟩ := prune_eq_dir heq.symm
  exact ⟨entries, hnode, hentries⟩

/-- Only leaves are taken away: no place that is gone is a directory. -/
def OnlyLeaves (root : Node) (gone : List String → Bool) : Prop :=
  ∀ pos entries, root.get? pos = some (dir entries) → gone pos = false

theorem get?_prune_dir (hleaves : OnlyLeaves root gone) {pos : List String}
    {entries : List (String × Node)} (h : root.get? pos = some (dir entries)) :
    (root.prune gone []).get? pos = some (dir (pruneEntries gone pos entries)) := by
  induction pos using List.reverseRecOn generalizing entries with
  | nil =>
    obtain rfl := Option.some.inj ((get?_nil _).symm.trans h)
    rw [get?_nil, prune_dir]
  | append_singleton ms n ih =>
    obtain ⟨parent, hpos, hl⟩ := exists_dir_of_get?_concat h
    refine get?_concat (ih hpos) ?_
    rw [lookup_pruneEntries, hleaves _ _ h, hl]
    simp [prune_dir]

theorem get?_prune (hleaves : OnlyLeaves root gone) {pos : List String} {node : Node}
    (h : root.get? pos = some node) (hkept : gone pos = false) :
    (root.prune gone []).get? pos = some (node.prune gone pos) := by
  cases pos using List.reverseRecOn with
  | nil =>
    rw [get?_nil] at h ⊢
    rw [Option.some.inj h]
  | append_singleton ms n =>
    obtain ⟨entries, hpos, hl⟩ := exists_dir_of_get?_concat h
    refine get?_concat (get?_prune_dir hleaves hpos) ?_
    rw [lookup_pruneEntries, hkept, hl]
    rfl

end

end Node

/-! ## Paths in a pruned tree -/

namespace FileTree

section
variable {root : Node} {gone : List String → Bool}

theorem Leads.of_prune {pos dest : List String} {ss : List Step} {k : Nat}
    (h : Leads (root.prune gone []) pos ss k dest) : Leads root pos ss k dest := by
  induction h with
  | done pos => exact .done pos
  | stay hpos _ ih =>
    obtain ⟨entries, hdir, -⟩ := Node.dir_of_get?_prune hpos
    exact .stay hdir ih
  | up hpos _ ih =>
    obtain ⟨entries, hdir, -⟩ := Node.dir_of_get?_prune hpos
    exact .up hdir ih
  | enter hpos hl hno _ ih =>
    obtain ⟨entries, hdir, rfl⟩ := Node.dir_of_get?_prune hpos
    rw [Node.lookup_pruneEntries] at hl
    split at hl
    · cases hl
    · obtain ⟨node, hnode, rfl⟩ := Option.map_eq_some_iff.mp hl
      refine .enter hdir hnode (fun target hlink => ?_) ih
      exact hno target (Node.prune_eq_link_iff.mpr hlink)
  | link hpos hl hne _ ih =>
    obtain ⟨entries, hdir, rfl⟩ := Node.dir_of_get?_prune hpos
    rw [Node.lookup_pruneEntries] at hl
    split at hl
    · cases hl
    · obtain ⟨node, hnode, hlink⟩ := Option.map_eq_some_iff.mp hl
      obtain rfl := Node.prune_eq_link_iff.mp hlink
      exact .link hdir hnode hne ih

/-- Every place that is gone is the entry of a file or of a link to a file. -/
def LeadToFiles (root : Node) (gone : List String → Bool) : Prop :=
  ∀ place, gone place = true → ∃ pos n k dest data, place = pos ++ [n] ∧
    Leads root pos [.name n] k dest ∧ root.get? dest = some (.file data)

/-- An entry that is gone leads to the place. -/
def Lost (root : Node) (gone : List String → Bool) (dest : List String) : Prop :=
  ∃ pos n k, gone (pos ++ [n]) = true ∧ Leads root pos [.name n] k dest

theorem leads_enter_last {pos : List String} {n : String} {node : Node}
    (h : root.get? (pos ++ [n]) = some node) (hno : ∀ target, node ≠ .link target) :
    Leads root pos [.name n] 0 (pos ++ [n]) := by
  obtain ⟨entries, hpos, hl⟩ := Node.exists_dir_of_get?_concat h
  exact .enter hpos hl hno (.done _)

theorem file_of_lost (hfiles : LeadToFiles root gone) {dest : List String}
    (h : Lost root gone dest) : ∃ data, root.get? dest = some (.file data) := by
  obtain ⟨pos, n, k, hg, hleads⟩ := h
  obtain ⟨pos', n', k', dest', data, hplace, hleads', hdata⟩ := hfiles _ hg
  obtain ⟨rfl, hn⟩ := List.append_inj' hplace rfl
  obtain rfl := (List.cons.inj hn).1
  rw [hleads.unique hleads']
  exact ⟨data, hdata⟩

theorem not_lost_of_dir (hfiles : LeadToFiles root gone) {dest : List String}
    {entries : List (String × Node)} (h : root.get? dest = some (.dir entries)) :
    ¬ Lost root gone dest := by
  intro hlost
  obtain ⟨data, hdata⟩ := file_of_lost hfiles hlost
  rw [h] at hdata
  cases hdata

/-- What is gone and no link is lost where it stands. -/
theorem lost_of_gone (hfiles : LeadToFiles root gone) {pos : List String} {node : Node}
    (hg : gone pos = true) (h : root.get? pos = some node) (hno : ∀ target, node ≠ .link target) :
    Lost root gone pos := by
  obtain ⟨mid, n, k, dest, data, rfl, -, -⟩ := hfiles _ hg
  exact ⟨mid, n, 0, hg, leads_enter_last h hno⟩

theorem onlyLeaves (hfiles : LeadToFiles root gone) : root.OnlyLeaves gone := by
  intro pos entries h
  cases hg : gone pos with
  | false => rfl
  | true => exact absurd (lost_of_gone hfiles hg h (by simp)) (not_lost_of_dir hfiles h)

/-- A way through an entry that is gone ends where the entry leads. -/
theorem kept_of_leads_name (hfiles : LeadToFiles root gone) {pos dest : List String} {n : String}
    {rest : List Step} {k : Nat} (h : Leads root pos (.name n :: rest) k dest)
    (hkept : ¬ Lost root gone dest) : gone (pos ++ [n]) = false := by
  rw [← Bool.not_eq_true]
  intro hg
  rw [← List.singleton_append] at h
  obtain ⟨mid, i, j, -, hfirst, hrest⟩ := h.split
  have hlost : Lost root gone mid := ⟨pos, n, i, hg, hfirst⟩
  obtain ⟨data, hdata⟩ := file_of_lost hfiles hlost
  cases rest with
  | nil =>
    cases hrest
    exact hkept hlost
  | cons step rest =>
    -- nothing lies below a file
    obtain ⟨entries, hdir⟩ := hrest.dir_of_cons
    rw [hdata] at hdir
    cases hdir

theorem Leads.prune (hfiles : LeadToFiles root gone) {pos dest : List String} {ss : List Step}
    {k : Nat} (h : Leads root pos ss k dest) (hkept : ¬ Lost root gone dest) :
    Leads (root.prune gone []) pos ss k dest := by
  have hleaves := onlyLeaves hfiles
  induction h with
  | done pos => exact .done pos
  | stay hpos _ ih => exact .stay (Node.get?_prune_dir hleaves hpos) (ih hkept)
  | up hpos _ ih => exact .up (Node.get?_prune_dir hleaves hpos) (ih hkept)
  | @enter pos dest entries rest k n node hpos hl hno hrest ih =>
    have hg := kept_of_leads_name hfiles (.enter hpos hl hno hrest) hkept
    have hl' : (Node.pruneEntries gone pos entries).lookup n =
        some (node.prune gone (pos ++ [n])) := by
      rw [Node.lookup_pruneEntries, hg, hl]
      rfl
    refine .enter (Node.get?_prune_dir hleaves hpos) hl' (fun target hlink => ?_) (ih hkept)
    exact hno target (Node.prune_eq_link_iff.mp hlink)
  | @link pos dest entries rest k n target hpos hl hne hrest ih =>
    have hg := kept_of_leads_name hfiles (.link hpos hl hne hrest) hkept
    have hl' : (Node.pruneEntries gone pos entries).lookup n = some (.link target) := by
      rw [Node.lookup_pruneEntries, hg, hl]
      exact congrArg some (Node.prune_eq_link_iff.mpr rfl)
    exact .link (Node.get?_prune_dir hleaves hpos) hl' hne (ih hkept)

end

/-! ## Entries of paths -/

/-- The places of the entries of some paths. -/
def entryPlaces (t : FileTree) (paths : List String) : List (List String) :=
  paths.filterMap fun f => (t.resolveTo .link f).toOption

/-- The place is that of the entry of one of the paths. -/
def entryOf (t : FileTree) (paths : List String) (place : List String) : Bool :=
  (t.entryPlaces paths).contains place

theorem entryPlaces_concat {t : FileTree} (paths : List String) {f : String} {place : List String}
    (h : t.resolveTo .link f = .ok place) :
    t.entryPlaces (paths ++ [f]) = t.entryPlaces paths ++ [place] := by
  simp [entryPlaces, List.filterMap_append, h, Except.toOption]

theorem entryOf_iff {t : FileTree} {paths : List String} {place : List String} :
    t.entryOf paths place = true ↔ ∃ f ∈ paths, t.resolveTo .link f = .ok place := by
  simp only [entryOf, entryPlaces, List.contains_iff_mem, List.mem_filterMap]
  constructor
  · rintro ⟨f, hf, h⟩
    cases hr : t.resolveTo .link f with
    | error e => simp [hr, Except.toOption] at h
    | ok q =>
      rw [hr] at h
      exact ⟨f, hf, hr.trans (congrArg Except.ok (Option.some.inj h))⟩
  · rintro ⟨f, hf, h⟩
    exact ⟨f, hf, by rw [h]; rfl⟩

end FileTree

namespace Disk

open FileTree

/-! ## Pruning a disk -/

/-- The disk without the entries at the places that are gone. -/
def prune (t : Disk) (gone : List String → Bool) : Disk where
  root := t.root.prune gone []
  cwd := t.cwd
  wellFormed := t.wellFormed.prune

section
variable {t : Disk} {gone : List String → Bool}

theorem resolve_of_prune {path : String} {dest : List String}
    (h : (t.prune gone).resolve path = .ok dest) : t.resolve path = .ok dest := by
  have hpath := ne_empty_of_resolve h
  obtain ⟨k, hk, hleads⟩ := (resolve_iff hpath).mp h
  exact (resolve_iff hpath).mpr ⟨k, hk, hleads.of_prune⟩

theorem isFile_of_prune {path : String} (h : (t.prune gone).isFile path = true) :
    t.isFile path = true := by
  obtain ⟨dest, data, hdest, hget⟩ := isFile_iff.mp h
  obtain ⟨node, hnode, heq⟩ := Node.of_get?_prune hget
  rw [Node.prune_eq_file heq.symm] at hnode
  exact isFile_iff.mpr ⟨dest, data, resolve_of_prune hdest, hnode⟩

variable (hfiles : LeadToFiles t.root gone)
include hfiles

theorem resolve_prune {path : String} {dest : List String} (h : t.resolve path = .ok dest)
    (hkept : ¬ Lost t.root gone dest) : (t.prune gone).resolve path = .ok dest := by
  have hpath := ne_empty_of_resolve h
  obtain ⟨k, hk, hleads⟩ := (resolve_iff hpath).mp h
  exact (resolve_iff hpath).mpr ⟨k, hk, hleads.prune hfiles hkept⟩

/-- A file to which nothing leads that is gone can be read as before. -/
theorem node_prune_file {path : String} {dest : List String} {data : ByteArray}
    (h : t.resolve path = .ok dest) (hget : t.root.get? dest = some (.file data))
    (hkept : ¬ Lost t.root gone dest) : (t.prune gone).node path = .ok (.file data) := by
  refine node_eq_ok_iff.mpr ⟨dest, resolve_prune hfiles h hkept, ?_⟩
  have hg : gone dest = false := by
    rw [← Bool.not_eq_true]
    intro hg
    exact hkept (lost_of_gone hfiles hg hget (by simp))
  have hpruned := Node.get?_prune (onlyLeaves hfiles) hget hg
  rw [Node.prune] at hpruned
  exact hpruned

theorem node_prune_dir {path : String} {place : List String} {entries : List (String × Node)}
    (h : t.resolve path = .ok place) (hget : t.root.get? place = some (.dir entries)) :
    (t.prune gone).node path = .ok (.dir (Node.pruneEntries gone place entries)) :=
  node_eq_ok_iff.mpr ⟨place, resolve_prune hfiles h (not_lost_of_dir hfiles hget),
    Node.get?_prune_dir (onlyLeaves hfiles) hget⟩

/-- An entry that is not gone is found as before. -/
theorem resolveTo_link_prune {path : String} {place : List String}
    (h : t.resolveTo .link path = .ok place) (hkept : gone place = false) :
    (t.prune gone).resolveTo .link path = .ok place := by
  have hpath : path ≠ "" := by
    rintro rfl
    cases h
  obtain ⟨ss, step, hsteps⟩ := exists_last_step path
  obtain ⟨k, mid, hk, hleads, hlast⟩ := (resolveTo_link_iff hpath hsteps).mp h
  obtain ⟨entries, hdir⟩ := hlast.dir
  have hdir' := Node.get?_prune_dir (onlyLeaves hfiles) hdir
  refine (resolveTo_link_iff hpath hsteps).mpr
    ⟨k, mid, hk, hleads.prune hfiles (not_lost_of_dir hfiles hdir), ?_⟩
  cases hlast with
  | stay => exact .stay hdir'
  | up => exact .up hdir'
  | @name mid entries' n node hpos hl =>
    obtain rfl : entries = entries' := by
      rw [hpos] at hdir
      cases hdir
      rfl
    have hl' : (Node.pruneEntries gone mid entries).lookup n =
        some (node.prune gone (mid ++ [n])) := by
      rw [Node.lookup_pruneEntries, hkept, hl]
      rfl
    exact .name hdir' hl'

/-- The entry of a path to a directory is no file and no link to a file. -/
theorem kept_of_resolve_dir {path : String} {place dest : List String}
    {entries : List (String × Node)} (h : t.resolve path = .ok dest)
    (hget : t.root.get? dest = some (.dir entries)) (hentry : t.resolveTo .link path = .ok place) :
    gone place = false := by
  have hpath := ne_empty_of_resolve h
  obtain ⟨ss, step, hsteps⟩ := exists_last_step path
  obtain ⟨k, mid, -, hleads, hlast⟩ := (resolveTo_link_iff hpath hsteps).mp hentry
  cases hlast with
  | stay hpos => exact onlyLeaves hfiles _ _ hpos
  | @up mid es hpos =>
    cases mid using List.reverseRecOn with
    | nil => exact onlyLeaves hfiles _ _ hpos
    | append_singleton ms n =>
      obtain ⟨es, hes⟩ := Node.dir_above hpos
      rw [List.dropLast_concat]
      exact onlyLeaves hfiles _ _ hes
  | @name mid es n node hpos hl =>
    obtain ⟨k', -, hwhole⟩ := (resolve_iff hpath).mp h
    rw [hsteps] at hwhole
    obtain ⟨mid', i, j, -, hfirst, hrest⟩ := hwhole.split
    obtain rfl := hfirst.unique hleads
    exact kept_of_leads_name hfiles hrest (not_lost_of_dir hfiles hget)

end

/-! ## Deleting files one by one -/

/-- Deletes the entry of a path, if there is one. -/
def remove (t : Disk) (path : String) : Disk :=
  match t.resolveTo .link path with
  | .ok place =>
    { root := t.root.erase place, cwd := t.cwd, wellFormed := t.wellFormed.erase place }
  | .error _ => t

def removeAll (t : Disk) (paths : List String) : Disk := paths.foldl remove t

/-- Deleting files and links to files one after the other leaves out their
entries. No deletion disturbs the ones that follow, since what leads to the
entries is not deleted. -/
theorem removeAll_eq_prune {t : Disk} {paths : List String}
    (hthere : ∀ f ∈ paths, ∃ place, t.resolveTo .link f = .ok place)
    (hfiles : LeadToFiles t.root (t.entryOf paths)) (hnodup : (t.entryPlaces paths).Nodup) :
    t.removeAll paths = t.prune (t.entryOf paths) := by
  induction paths using List.reverseRecOn with
  | nil =>
    have hnone : t.root.prune (t.entryOf []) [] = t.root :=
      Node.prune_of_none_gone t.wellFormed fun ns _ => rfl
    simp only [prune, hnone]
    rfl
  | append_singleton paths f ih =>
    obtain ⟨place, hplace⟩ := hthere f (by simp)
    have hentries := entryPlaces_concat paths hplace
    have hgone : t.entryOf (paths ++ [f]) = fun q => t.entryOf paths q || q == place := by
      funext q
      rw [entryOf, hentries, Bool.eq_iff_iff]
      simp [entryOf]
    have hfiles' : LeadToFiles t.root (t.entryOf paths) := by
      intro q hq
      refine hfiles q ?_
      simp [hgone, hq]
    have hplace_ne : place ≠ [] := by
      obtain ⟨pos, n, -, -, -, hpos, -⟩ := hfiles place (by simp [hgone])
      simp [hpos]
    rw [hentries, List.nodup_append] at hnodup
    have hkept : t.entryOf paths place = false := by
      rw [← Bool.not_eq_true, entryOf, List.contains_iff_mem]
      intro hmem
      exact hnodup.2.2 place hmem place List.mem_cons_self rfl
    have ih := ih (fun g hg => hthere g (by simp [hg])) hfiles' hnodup.1
    have hrest := resolveTo_link_prune hfiles' hplace hkept
    show (paths ++ [f]).foldl remove t = _
    rw [List.foldl_append]
    show (t.removeAll paths).remove f = _
    have herase : (t.prune (t.entryOf paths)).root.erase place =
        t.root.prune (fun q => t.entryOf paths q || q == place) [] :=
      (Node.erase_eq_prune (t.prune _).wellFormed hplace_ne []).trans
        (Node.prune_prune t.wellFormed)
    rw [ih, remove, hrest, hgone]
    simp only [prune] at herase ⊢
    simp only [herase]

end Disk

end EnumFamily
