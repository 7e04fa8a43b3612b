import EnumFamily.Proofs.ListOrder
import EnumFamily.Proofs.Resolution

/-!
# Trees with their entries in another order

A directory lists its entries in some order, which no path depends on.
`Node.Reordered a b` says that `b` is `a` with the entries of its directories, at any
depth, in another order.

Results:
* `Reordered.wellFormed`: distinct names stay distinct.
* `Reordered.get?`: the same names lead to nodes of one kind.
* `resolveTo_reordered`, `isFile_reordered`, `isDir_reordered`: paths are resolved
  alike, and so what is a file or a directory is one in both trees.
-/
namespace EnumFamily

namespace Node

/-- The same tree, the entries of directories in any order: those of `mid` stand as in
`es`, each perhaps reordered itself. -/
inductive Reordered : Node → Node → Prop
  | file (data : ByteArray) : Reordered (.file data) (.file data)
  | link (target : String) : Reordered (.link target) (.link target)
  | dir {es mid es' : List (String × Node)} : es.map (·.1) = mid.map (·.1) →
      (∀ p ∈ es.zip mid, Reordered p.1.2 p.2.2) → mid.Perm es' → Reordered (.dir es) (.dir es')

theorem Reordered.refl : (node : Node) → node.Reordered node
  | .file data => .file data
  | .link target => .link target
  | .dir es => by
    refine .dir rfl (fun p hp => ?_) (List.Perm.refl es)
    have hzip : (es.map id).zip (es.map id) = es.map fun e => (e, e) := List.zip_map'
    rw [List.map_id] at hzip
    rw [hzip] at hp
    obtain ⟨⟨n, node⟩, hmem, rfl⟩ := List.mem_map.mp hp
    exact Reordered.refl node
termination_by node => sizeOf node
decreasing_by
  have hlt := List.sizeOf_lt_of_mem hmem
  simp only [Prod.mk.sizeOf_spec, dir.sizeOf_spec] at hlt ⊢
  omega

/-- The entries of one directory may stand in any order. -/
theorem Reordered.of_perm {es es' : List (String × Node)} (h : es.Perm es') :
    Reordered (.dir es) (.dir es') := by
  cases Reordered.refl (.dir es) with
  | dir hnames hzip hperm => exact .dir hnames hzip (hperm.trans h)

theorem lookup_of_zip {R : Node → Node → Prop} {es mid : List (String × Node)}
    (hnames : es.map (·.1) = mid.map (·.1)) (hzip : ∀ p ∈ es.zip mid, R p.1.2 p.2.2) (n : String) :
    Option.Rel R (es.lookup n) (mid.lookup n) := by
  induction es generalizing mid with
  | nil =>
    cases mid with
    | nil => exact .none
    | cons e mid => simp at hnames
  | cons e es ih =>
    cases mid with
    | nil => simp at hnames
    | cons e' mid =>
      obtain ⟨k, node⟩ := e
      obtain ⟨k', node'⟩ := e'
      simp only [List.map_cons, List.cons.injEq] at hnames
      obtain ⟨rfl, hrest⟩ := hnames
      rw [List.zip_cons_cons, List.forall_mem_cons] at hzip
      by_cases hk : n = k
      · rw [hk, List.lookup_cons_self, List.lookup_cons_self]
        exact .some hzip.1
      · rw [lookup_cons_of_ne hk, lookup_cons_of_ne hk]
        exact ih hrest hzip.2

theorem lookup_of_perm {mid es : List (String × Node)} (hperm : mid.Perm es)
    (hnodup : (mid.map (·.1)).Nodup) (n : String) : mid.lookup n = es.lookup n := by
  have hnodup' : (es.map (·.1)).Nodup := (hperm.map _).nodup_iff.mp hnodup
  refine Option.ext fun node => ?_
  constructor
  · intro h
    exact lookup_of_mem hnodup' (hperm.mem_iff.mp (mem_of_lookup h))
  · intro h
    exact lookup_of_mem hnodup (hperm.mem_iff.mpr (mem_of_lookup h))

theorem Reordered.lookup {es es' : List (String × Node)} (h : Reordered (.dir es) (.dir es'))
    (hnodup : (es.map (·.1)).Nodup) (n : String) :
    Option.Rel Reordered (es.lookup n) (es'.lookup n) := by
  cases h with
  | dir hnames hzip hperm =>
    rw [← lookup_of_perm hperm (hnames ▸ hnodup)]
    exact lookup_of_zip hnames hzip n

theorem Reordered.wellFormed {a b : Node} (h : a.Reordered b) (ha : a.WellFormed) :
    b.WellFormed := by
  induction h with
  | file data => exact .file data
  | link target => exact .link target
  | @dir es mid es' hnames hzip hperm ih =>
    cases ha with
    | dir hnodup hentry hchild =>
      have hnodup' : (mid.map (·.1)).Nodup := hnames ▸ hnodup
      have hold : ∀ e ∈ es', ∃ node, (e.1, node) ∈ es ∧ (node.WellFormed → e.2.WellFormed) := by
        intro e he
        have hrel := @lookup_of_zip (fun a b => a.WellFormed → b.WellFormed) _ _ hnames ih e.1
        rw [lookup_of_mem hnodup' (hperm.mem_iff.mpr he)] at hrel
        generalize hl : es.lookup e.1 = found at hrel
        cases hrel with
        | some hwf => exact ⟨_, mem_of_lookup hl, hwf⟩
      refine .dir ((hperm.map _).nodup_iff.mp hnodup') (fun e he => ?_) fun e he => ?_
      · obtain ⟨node, hmem, -⟩ := hold e he
        exact hentry (e.1, node) hmem
      · obtain ⟨node, hmem, hwf⟩ := hold e he
        exact hwf (hchild _ hmem)

/-- Names lead to the same kind of node in both trees. -/
theorem Reordered.get? {a b : Node} (h : a.Reordered b) (ha : a.WellFormed) (ns : List String) :
    Option.Rel Reordered (a.get? ns) (b.get? ns) := by
  induction ns generalizing a b with
  | nil =>
    rw [get?_nil, get?_nil]
    exact .some h
  | cons n ns ih =>
    cases ha with
    | file data =>
      cases h
      exact .none
    | link target =>
      cases h
      exact .none
    | @dir es hnodup hentry hchild =>
      cases h with
      | @dir _ _ es' hnames hzip hperm =>
        have hrel := Reordered.lookup (.dir hnames hzip hperm) hnodup n
        rw [get?_dir_cons, get?_dir_cons]
        generalize hl : es.lookup n = found at hrel
        generalize es'.lookup n = found' at hrel
        cases hrel with
        | none => exact .none
        | some hnode => exact ih hnode (hchild _ (mem_of_lookup hl))

end Node

namespace FileTree

/-- The same tree from the same working directory, its entries in any order. -/
structure Reordered (t t' : FileTree) : Prop where
  root : t.root.Reordered t'.root
  cwd : t'.cwd = t.cwd

/-! ## Paths -/

section
variable {root root' : Node}
  (hget : ∀ pos, Option.Rel Node.Reordered (root.get? pos) (root'.get? pos))
include hget

theorem follow_reordered (ending : Ending)
    (onLink : List String → List Step → Except SystemError (List String)) (pos : List String)
    (ss : List Step) : follow root ending onLink pos ss = follow root' ending onLink pos ss := by
  induction ss generalizing pos with
  | nil => rw [follow, follow]
  | cons step rest ih =>
    have hrel := hget pos
    rw [follow, follow]
    generalize hpos : root.get? pos = node at hrel
    generalize hpos' : root'.get? pos = node' at hrel
    cases hrel with
    | none => rfl
    | some hnode =>
      cases hnode with
      | file data => rfl
      | link target => rfl
      | @dir es mid es' hnames hzip hperm =>
        cases step with
        | stay => exact ih pos
        | up => exact ih pos.dropLast
        | name n =>
          -- the entries of that name stand right below
          have hentry := hget (pos ++ [n])
          rw [Node.get?_append, Node.get?_append, hpos, hpos', Option.bind_some, Option.bind_some,
            Node.get?_dir_cons, Node.get?_dir_cons] at hentry
          simp only [Node.get?_nil, Option.bind_fun_some] at hentry
          dsimp only
          generalize es.lookup n = found at hentry
          generalize es'.lookup n = found' at hentry
          cases hentry with
          | none => rfl
          | some hfound =>
            cases hfound with
            | file data => exact ih _
            | link target => rfl
            | dir _ _ _ => exact ih _

theorem walk_reordered (ending : Ending) (links : Nat) (pos : List String) (ss : List Step) :
    walk root ending links pos ss = walk root' ending links pos ss := by
  induction links generalizing pos ss with
  | zero => exact follow_reordered hget ending _ pos ss
  | succ links ih =>
    have hon : walk root ending links = walk root' ending links :=
      funext fun pos => funext fun ss => ih pos ss
    rw [walk, walk, hon]
    exact follow_reordered hget ending _ pos ss

end

section
variable {t : Disk} {t' : FileTree} (h : t.Reordered t')
include h

theorem Reordered.exists_disk : ∃ d : Disk, d.toFileTree = t' :=
  ⟨⟨t', h.root.wellFormed t.wellFormed⟩, rfl⟩

theorem resolveTo_reordered (ending : Ending) (path : String) :
    t.resolveTo ending path = t'.resolveTo ending path := by
  rw [resolveTo, resolveTo, h.cwd]
  simp only [walk_reordered (h.root.get? t.wellFormed)]

theorem file_at_reordered (place : List String) (data : ByteArray) :
    t.root.get? place = some (.file data) ↔ t'.root.get? place = some (.file data) := by
  have hrel := h.root.get? t.wellFormed place
  generalize t.root.get? place = node at hrel
  generalize t'.root.get? place = node' at hrel
  cases hrel with
  | none => simp
  | some hnode => cases hnode <;> simp

theorem dir_at_reordered (place : List String) :
    (∃ es, t.root.get? place = some (.dir es)) ↔ ∃ es, t'.root.get? place = some (.dir es) := by
  have hrel := h.root.get? t.wellFormed place
  generalize t.root.get? place = node at hrel
  generalize t'.root.get? place = node' at hrel
  cases hrel with
  | none => simp
  | some hnode => cases hnode <;> simp

theorem isFile_reordered (path : String) : t.isFile path = t'.isFile path := by
  rw [Bool.eq_iff_iff, isFile_iff, isFile_iff]
  simp only [resolve, resolveTo_reordered h, file_at_reordered h]

theorem leads_to_dir_reordered (ending : Ending) (path : String) :
    (∃ es dest, t.resolveTo ending path = .ok dest ∧ t.root.get? dest = some (.dir es)) ↔
      ∃ es dest, t'.resolveTo ending path = .ok dest ∧ t'.root.get? dest = some (.dir es) := by
  rw [exists_comm, @exists_comm (List (String × Node))]
  simp only [exists_and_left, resolveTo_reordered h, dir_at_reordered h]

theorem isDir_reordered (path : String) : t.isDir path = t'.isDir path := by
  rw [Bool.eq_iff_iff, isDir_iff, isDir_iff]
  simp only [node_eq_ok_iff]
  exact leads_to_dir_reordered h .node path

end

end FileTree

end EnumFamily
