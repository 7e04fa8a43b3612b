import EnumFamily.Proofs.Descent

/-!
# Nodes of a file tree

A tree is well-formed if every directory has its entries under distinct names; a
`Disk` is a file tree that carries the proof that it is. `Node.get?` finds the node
at a list of names.

Results:
* `WellFormed` is decidable, and holds of what lies in a well-formed tree.
* `get?_append`, `exists_dir_of_get?_concat`, `get?_concat`: a place is reached
  through the directory above it.
* `Linkless`: no link stands at or below a node.
-/
namespace EnumFamily

/-! ## Well-formed trees -/

/-- Every directory has its entries under distinct names, all of which can be
names of entries. -/
inductive Node.WellFormed : Node → Prop
  | file (data : ByteArray) : WellFormed (.file data)
  | link (target : String) : WellFormed (.link target)
  | dir {entries : List (String × Node)} : (entries.map (·.1)).Nodup →
      (∀ e ∈ entries, IsEntryName e.1) → (∀ e ∈ entries, e.2.WellFormed) →
      WellFormed (.dir entries)

namespace Node

mutual

def isWellFormed : Node → Bool
  | .file _ => true
  | .link _ => true
  | .dir entries => decide (entries.map (·.1)).Nodup && areWellFormed entries

def areWellFormed : List (String × Node) → Bool
  | [] => true
  | (n, node) :: rest => decide (IsEntryName n) && node.isWellFormed && areWellFormed rest

end

mutual

theorem wellFormed_of_check : (node : Node) → node.isWellFormed = true → node.WellFormed
  | .file data, _ => .file data
  | .link target, _ => .link target
  | .dir entries, h => by
    rw [isWellFormed, Bool.and_eq_true, decide_eq_true_eq] at h
    have hall := all_wellFormed_of_check entries h.2
    exact .dir h.1 (fun e he => (hall e he).1) fun e he => (hall e he).2

theorem all_wellFormed_of_check : (entries : List (String × Node)) → areWellFormed entries = true →
    ∀ e ∈ entries, IsEntryName e.1 ∧ e.2.WellFormed
  | [], _ => by simp
  | (n, node) :: rest, h => by
    rw [areWellFormed, Bool.and_eq_true, Bool.and_eq_true, decide_eq_true_eq] at h
    rw [List.forall_mem_cons]
    exact ⟨⟨h.1.1, wellFormed_of_check node h.1.2⟩, all_wellFormed_of_check rest h.2⟩

end

theorem WellFormed.check {node : Node} (h : node.WellFormed) : node.isWellFormed = true := by
  induction h with
  | file data => rw [isWellFormed]
  | link target => rw [isWellFormed]
  | @dir entries hnodup hnames hchild ih =>
    rw [isWellFormed, Bool.and_eq_true, decide_eq_true_eq]
    refine ⟨hnodup, ?_⟩
    clear hnodup hchild
    induction entries with
    | nil => rw [areWellFormed]
    | cons e rest ihrest =>
      rw [List.forall_mem_cons] at hnames ih
      rw [areWellFormed, Bool.and_eq_true, Bool.and_eq_true, decide_eq_true_eq]
      exact ⟨⟨hnames.1, ih.1⟩, ihrest hnames.2 ih.2⟩

instance : DecidablePred WellFormed := fun node =>
  decidable_of_iff (node.isWellFormed = true) ⟨wellFormed_of_check node, WellFormed.check⟩

/-! ## Places -/

theorem mem_of_lookup {entries : List (String × Node)} {n : String} {node : Node}
    (h : entries.lookup n = some node) : (n, node) ∈ entries := by
  obtain ⟨l₁, l₂, rfl, -⟩ := List.lookup_eq_some_iff.mp h
  simp

theorem lookup_of_mem {entries : List (String × Node)} (hnodup : (entries.map (·.1)).Nodup)
    {n : String} {node : Node} (h : (n, node) ∈ entries) : entries.lookup n = some node := by
  obtain ⟨l₁, l₂, rfl⟩ := List.append_of_mem h
  refine List.lookup_eq_some_iff.mpr ⟨l₁, l₂, rfl, fun e he => ?_⟩
  rw [List.map_append, List.map_cons] at hnodup
  have hne := (List.nodup_append.mp hnodup).2.2 e.1 (List.mem_map_of_mem he) n List.mem_cons_self
  simpa using Ne.symm hne

@[simp] theorem get?_nil (node : Node) : node.get? [] = some node := by rw [get?]

theorem get?_dir_cons (entries : List (String × Node)) (n : String) (ns : List String) :
    (dir entries).get? (n :: ns) = (entries.lookup n).bind (·.get? ns) := by
  rw [get?]
  rfl

theorem get?_append (node : Node) (ns ms : List String) :
    node.get? (ns ++ ms) = (node.get? ns).bind (·.get? ms) := by
  induction ns generalizing node with
  | nil => simp
  | cons n ns ih =>
    rw [List.cons_append, get?, get?]
    cases node.child? n with
    | none => rfl
    | some child => simp [ih]

theorem get?_dir_cons_iff {entries : List (String × Node)} (hnodup : (entries.map (·.1)).Nodup)
    {n : String} {ns : List String} {leaf : Node} :
    (dir entries).get? (n :: ns) = some leaf ↔
      ∃ node, (n, node) ∈ entries ∧ node.get? ns = some leaf := by
  rw [get?_dir_cons, Option.bind_eq_some_iff]
  constructor
  · rintro ⟨node, hl, hget⟩
    exact ⟨node, mem_of_lookup hl, hget⟩
  · rintro ⟨node, hmem, hget⟩
    exact ⟨node, lookup_of_mem hnodup hmem, hget⟩

/-- Only a directory has something below it. -/
theorem dir_of_get?_cons {node leaf : Node} {n : String} {ns : List String}
    (h : node.get? (n :: ns) = some leaf) : ∃ entries, node = .dir entries := by
  cases node with
  | file data => simp [get?, child?] at h
  | link target => simp [get?, child?] at h
  | dir entries => exact ⟨entries, rfl⟩

theorem exists_dir_of_get?_concat {root node : Node} {pos : List String} {n : String}
    (h : root.get? (pos ++ [n]) = some node) :
    ∃ entries, root.get? pos = some (dir entries) ∧ entries.lookup n = some node := by
  rw [get?_append] at h
  cases hpos : root.get? pos with
  | none => simp [hpos] at h
  | some parent =>
    rw [hpos, Option.bind_some] at h
    obtain ⟨entries, rfl⟩ := dir_of_get?_cons h
    refine ⟨entries, rfl, ?_⟩
    rw [get?_dir_cons] at h
    cases hl : entries.lookup n with
    | none => simp [hl] at h
    | some child => simpa [hl] using h

theorem get?_concat {root node : Node} {pos : List String} {n : String}
    {entries : List (String × Node)} (hpos : root.get? pos = some (dir entries))
    (hl : entries.lookup n = some node) : root.get? (pos ++ [n]) = some node := by
  rw [get?_append, hpos, Option.bind_some, get?_dir_cons, hl]
  simp

/-- Above a directory there are directories. -/
theorem dir_above {root : Node} {pos ns : List String} {entries : List (String × Node)}
    (h : root.get? (pos ++ ns) = some (dir entries)) :
    ∃ es, root.get? pos = some (dir es) := by
  cases ns with
  | nil => exact ⟨entries, by simpa using h⟩
  | cons n ns =>
    rw [get?_append] at h
    obtain ⟨node, hpos, hnode⟩ := Option.bind_eq_some_iff.mp h
    obtain ⟨es, rfl⟩ := dir_of_get?_cons hnode
    exact ⟨es, hpos⟩

/-- There is no link at or below a node. -/
def Linkless (node : Node) : Prop := ∀ ns target, node.get? ns ≠ some (.link target)

theorem Linkless.of_get? {node leaf : Node} (h : node.Linkless) {ns : List String}
    (hget : node.get? ns = some leaf) : leaf.Linkless := by
  intro ms target hms
  refine h (ns ++ ms) target ?_
  rw [get?_append, hget]
  exact hms

theorem WellFormed.of_get? {node leaf : Node} (hwf : node.WellFormed) {ns : List String}
    (h : node.get? ns = some leaf) : leaf.WellFormed := by
  induction ns generalizing node with
  | nil =>
    rw [get?_nil, Option.some.injEq] at h
    exact h ▸ hwf
  | cons n ns ih =>
    obtain ⟨entries, rfl⟩ := dir_of_get?_cons h
    rw [get?_dir_cons] at h
    cases hl : entries.lookup n with
    | none => simp [hl] at h
    | some child =>
      cases hwf with
      | dir _ _ hchild =>
        exact ih (hchild _ (mem_of_lookup hl)) (by simpa [hl] using h)

end Node

/-! ## Disks -/

/-- A file tree as a disk can hold it: with no two entries of one name in a directory. -/
structure Disk extends FileTree where
  wellFormed : root.WellFormed := by decide

instance : Coe Disk FileTree := ⟨Disk.toFileTree⟩

end EnumFamily
