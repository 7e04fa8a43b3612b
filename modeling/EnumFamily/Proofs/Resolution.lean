import EnumFamily.Proofs.Tree

/-!
# Where steps lead

`FileTree.walk` resolves steps with a budget of links. `Leads root pos ss k dest`
says the same without a budget: from `pos` the steps `ss` lead to `dest`, through
`k` links. It has one rule for each kind of step.

Results:
* `walk_eq_ok_iff`: a walk succeeds exactly if its steps lead somewhere through
  no more links than it may pass.
* `Leads.append`, `Leads.split`: steps are taken one after the other.
* `Leads.unique`: they lead to one place.
* `resolve_iff`, `resolveTo_link_iff`: where a path leads, and where it leads when
  a link named last is itself meant.
* `leads_root`: a path below a root leads on from the place of the root.
-/
namespace EnumFamily.FileTree

inductive Leads (root : Node) : List String → List Step → Nat → List String → Prop
  | done (pos : List String) : Leads root pos [] 0 pos
  | stay {pos dest : List String} {entries : List (String × Node)} {rest : List Step} {k : Nat} :
      root.get? pos = some (.dir entries) → Leads root pos rest k dest →
      Leads root pos (.stay :: rest) k dest
  | up {pos dest : List String} {entries : List (String × Node)} {rest : List Step} {k : Nat} :
      root.get? pos = some (.dir entries) → Leads root pos.dropLast rest k dest →
      Leads root pos (.up :: rest) k dest
  /-- into an entry that is no link -/
  | enter {pos dest : List String} {entries : List (String × Node)} {rest : List Step} {k : Nat}
      {n : String} {node : Node} :
      root.get? pos = some (.dir entries) → entries.lookup n = some node →
      (∀ target, node ≠ .link target) → Leads root (pos ++ [n]) rest k dest →
      Leads root pos (.name n :: rest) k dest
  /-- through a link, on from where it points -/
  | link {pos dest : List String} {entries : List (String × Node)} {rest : List Step} {k : Nat}
      {n target : String} :
      root.get? pos = some (.dir entries) → entries.lookup n = some (.link target) → target ≠ "" →
      Leads root (if FilePath.isAbsolute target then [] else pos) (steps target ++ rest) k dest →
      Leads root pos (.name n :: rest) (k + 1) dest

/-- Every step starts from a directory. -/
theorem Leads.dir_of_cons {root : Node} {pos dest : List String} {step : Step} {rest : List Step}
    {k : Nat} (h : Leads root pos (step :: rest) k dest) :
    ∃ entries, root.get? pos = some (.dir entries) := by
  cases h with
  | stay hpos _ => exact ⟨_, hpos⟩
  | up hpos _ => exact ⟨_, hpos⟩
  | enter hpos _ _ _ => exact ⟨_, hpos⟩
  | link hpos _ _ _ => exact ⟨_, hpos⟩

/-- What a step with a name does, by the entry of that name. -/
theorem leads_name_iff {root : Node} {pos dest : List String} {entries : List (String × Node)}
    (hpos : root.get? pos = some (.dir entries)) {n : String} {rest : List Step} {k : Nat} :
    Leads root pos (.name n :: rest) k dest ↔
      (∃ node, entries.lookup n = some node ∧ (∀ target, node ≠ .link target) ∧
        Leads root (pos ++ [n]) rest k dest) ∨
      (∃ target j, entries.lookup n = some (.link target) ∧ target ≠ "" ∧ k = j + 1 ∧
        Leads root (if FilePath.isAbsolute target then [] else pos) (steps target ++ rest) j
          dest) := by
  constructor
  · intro h
    cases h with
    | enter hpos' hl hno h =>
      cases hpos.symm.trans hpos'
      exact Or.inl ⟨_, hl, hno, h⟩
    | link hpos' hl hne h =>
      cases hpos.symm.trans hpos'
      exact Or.inr ⟨_, _, hl, hne, rfl, h⟩
  · rintro (⟨node, hl, hno, h⟩ | ⟨target, j, hl, hne, rfl, h⟩)
    · exact .enter hpos hl hno h
    · exact .link hpos hl hne h

/-! ## Walks and what they lead to -/

/-- The steps `tail` at the end of a path are taken without passing a link: from
`mid` they end at `dest` exactly if `fin mid dest`. They may be none at all. -/
structure Ends (root : Node) (ending : Ending) (tail : List Step)
    (fin : List String → List String → Prop) : Prop where
  follow_iff : ∀ onLink mid dest, follow root ending onLink mid tail = .ok dest ↔ fin mid dest
  not_last : ∀ rest : List Step, ((rest ++ tail).isEmpty && ending == .link) = false
  not_new : ∀ rest : List Step, ((rest ++ tail).isEmpty && ending == .new) = false

theorem follow_eq_ok_iff {root : Node} {ending : Ending} {tail : List Step}
    {fin : List String → List String → Prop} (hends : Ends root ending tail fin) {n : Nat}
    {onLink : List String → List Step → Except SystemError (List String)}
    (hon : ∀ pos ss dest, onLink pos (ss ++ tail) = .ok dest ↔
      ∃ k mid, k + 1 ≤ n ∧ Leads root pos ss k mid ∧ fin mid dest)
    {pos dest : List String} {ss : List Step} :
    follow root ending onLink pos (ss ++ tail) = .ok dest ↔
      ∃ k mid, k ≤ n ∧ Leads root pos ss k mid ∧ fin mid dest := by
  induction ss generalizing pos with
  | nil =>
    rw [List.nil_append, hends.follow_iff]
    constructor
    · intro h
      exact ⟨0, pos, Nat.zero_le n, .done pos, h⟩
    · rintro ⟨k, mid, -, h, hfin⟩
      cases h
      exact hfin
  | cons step rest ih =>
    rw [List.cons_append, follow]
    by_cases hdir : ∃ entries, root.get? pos = some (.dir entries)
    · obtain ⟨entries, hpos⟩ := hdir
      simp only [hpos]
      cases step with
      | stay =>
        simp only [ih]
        constructor
        · rintro ⟨k, mid, hk, h, hfin⟩
          exact ⟨k, mid, hk, .stay hpos h, hfin⟩
        · rintro ⟨k, mid, hk, h, hfin⟩
          cases h with
          | stay _ h => exact ⟨k, mid, hk, h, hfin⟩
      | up =>
        simp only [ih]
        constructor
        · rintro ⟨k, mid, hk, h, hfin⟩
          exact ⟨k, mid, hk, .up hpos h, hfin⟩
        · rintro ⟨k, mid, hk, h, hfin⟩
          cases h with
          | up _ h => exact ⟨k, mid, hk, h, hfin⟩
      | name m =>
        simp only [leads_name_iff hpos, hends.not_last rest, hends.not_new rest,
          Bool.false_eq_true, if_false]
        cases hl : entries.lookup m with
        | none => simp
        | some node =>
          cases node with
          | file data => simp [ih]
          | dir es => simp [ih]
          | link target =>
            by_cases ht : target = ""
            · simp [ht]
            · simp only [ht, if_false]
              rw [← List.append_assoc, hon]
              constructor
              · rintro ⟨k, mid, hk, h, hfin⟩
                exact ⟨k + 1, mid, hk, Or.inr ⟨target, k, rfl, ht, rfl, h⟩, hfin⟩
              · rintro ⟨k, mid, hk, ⟨node, hn, hno, -⟩ | ⟨target', j, hn, -, rfl, h⟩, hfin⟩
                · exact absurd (Option.some.inj hn).symm (hno target)
                · cases hn
                  exact ⟨j, mid, hk, h, hfin⟩
    · have hfail : ¬ ∃ k mid, k ≤ n ∧ Leads root pos (step :: rest) k mid ∧ fin mid dest := by
        rintro ⟨k, mid, -, h, -⟩
        exact hdir h.dir_of_cons
      refine iff_of_false (fun h => ?_) hfail
      split at h
      · exact hdir ⟨_, by assumption⟩
      · cases h
      · cases h

/-- A walk succeeds exactly if its steps lead somewhere within its budget. -/
theorem walk_append_eq_ok_iff {root : Node} {ending : Ending} {tail : List Step}
    {fin : List String → List String → Prop} (hends : Ends root ending tail fin) {n : Nat}
    {pos dest : List String} {ss : List Step} :
    walk root ending n pos (ss ++ tail) = .ok dest ↔
      ∃ k mid, k ≤ n ∧ Leads root pos ss k mid ∧ fin mid dest := by
  induction n generalizing pos dest ss with
  | zero =>
    rw [walk]
    refine follow_eq_ok_iff hends fun pos ss dest => ?_
    constructor
    · intro h
      cases h
    · rintro ⟨k, -, hk, -⟩
      omega
  | succ n ih =>
    rw [walk]
    refine follow_eq_ok_iff hends fun pos ss dest => ?_
    rw [ih]
    constructor
    · rintro ⟨k, mid, hk, h⟩
      exact ⟨k, mid, by omega, h⟩
    · rintro ⟨k, mid, hk, h⟩
      exact ⟨k, mid, by omega, h⟩

theorem ends_nil (root : Node) : Ends root .node [] fun mid dest => mid = dest where
  follow_iff onLink mid dest := by simp [follow]
  not_last rest := Bool.and_false _
  not_new rest := Bool.and_false _

theorem walk_eq_ok_iff {root : Node} {n : Nat} {pos dest : List String} {ss : List Step} :
    walk root .node n pos ss = .ok dest ↔ ∃ k, k ≤ n ∧ Leads root pos ss k dest := by
  have hwalk : walk root .node n pos (ss ++ []) = .ok dest ↔ _ :=
    walk_append_eq_ok_iff (ends_nil root)
  rw [List.append_nil] at hwalk
  rw [hwalk]
  constructor
  · rintro ⟨k, mid, hk, h, rfl⟩
    exact ⟨k, hk, h⟩
  · rintro ⟨k, hk, h⟩
    exact ⟨k, dest, hk, h, rfl⟩

theorem Leads.unique {root : Node} {pos dest dest' : List String} {ss : List Step} {k k' : Nat}
    (h : Leads root pos ss k dest) (h' : Leads root pos ss k' dest') : dest = dest' := by
  have hw := walk_eq_ok_iff.mpr ⟨k, Nat.le_add_right k k', h⟩
  have hw' := walk_eq_ok_iff.mpr ⟨k', Nat.le_add_left k' k, h'⟩
  exact Except.ok.inj (hw.symm.trans hw')

/-! ## One stretch after the other -/

theorem Leads.append {root : Node} {pos mid dest : List String} {ss ts : List Step} {j k : Nat}
    (h : Leads root pos ss j mid) (h' : Leads root mid ts k dest) :
    Leads root pos (ss ++ ts) (j + k) dest := by
  induction h with
  | done pos => simpa using h'
  | stay hpos _ ih => exact .stay hpos (ih h')
  | up hpos _ ih => exact .up hpos (ih h')
  | enter hpos hl hno _ ih => exact .enter hpos hl hno (ih h')
  | @link pos mid entries rest j n target hpos hl hne _ ih =>
    have ih := ih h'
    rw [List.append_assoc] at ih
    rw [Nat.add_right_comm]
    exact .link hpos hl hne ih

theorem Leads.split_nil {root : Node} {pos dest : List String} {ts : List Step} {k : Nat}
    (h : Leads root pos ts k dest) :
    ∃ mid i j, i + j = k ∧ Leads root pos [] i mid ∧ Leads root mid ts j dest :=
  ⟨pos, 0, k, Nat.zero_add k, .done pos, h⟩

theorem Leads.split {root : Node} {pos dest : List String} {ss ts : List Step} {k : Nat}
    (h : Leads root pos (ss ++ ts) k dest) :
    ∃ mid i j, i + j = k ∧ Leads root pos ss i mid ∧ Leads root mid ts j dest := by
  generalize hall : ss ++ ts = all at h
  induction h generalizing ss with
  | done pos =>
    obtain ⟨rfl, rfl⟩ := List.append_eq_nil_iff.mp hall
    exact (Leads.done pos).split_nil
  | stay hpos hrest ih =>
    rcases List.append_eq_cons_iff.mp hall with ⟨rfl, rfl⟩ | ⟨ss, rfl, rfl⟩
    · exact (Leads.stay hpos hrest).split_nil
    · obtain ⟨mid, i, j, hij, h₁, h₂⟩ := ih rfl
      exact ⟨mid, i, j, hij, .stay hpos h₁, h₂⟩
  | up hpos hrest ih =>
    rcases List.append_eq_cons_iff.mp hall with ⟨rfl, rfl⟩ | ⟨ss, rfl, rfl⟩
    · exact (Leads.up hpos hrest).split_nil
    · obtain ⟨mid, i, j, hij, h₁, h₂⟩ := ih rfl
      exact ⟨mid, i, j, hij, .up hpos h₁, h₂⟩
  | enter hpos hl hno hrest ih =>
    rcases List.append_eq_cons_iff.mp hall with ⟨rfl, rfl⟩ | ⟨ss, rfl, rfl⟩
    · exact (Leads.enter hpos hl hno hrest).split_nil
    · obtain ⟨mid, i, j, hij, h₁, h₂⟩ := ih rfl
      exact ⟨mid, i, j, hij, .enter hpos hl hno h₁, h₂⟩
  | link hpos hl hne hrest ih =>
    rcases List.append_eq_cons_iff.mp hall with ⟨rfl, rfl⟩ | ⟨ss, rfl, rfl⟩
    · exact (Leads.link hpos hl hne hrest).split_nil
    · -- the steps of the link are taken before the second stretch begins
      obtain ⟨mid, i, j, hij, h₁, h₂⟩ := ih (List.append_assoc _ ss ts)
      exact ⟨mid, i + 1, j, by omega, .link hpos hl hne h₁, h₂⟩

/-! ## A link that is itself meant -/

/-- The last step of a path, where a link is a node like any other. -/
inductive LastStep (root : Node) : Step → List String → List String → Prop
  | stay {pos : List String} {entries : List (String × Node)} :
      root.get? pos = some (.dir entries) → LastStep root .stay pos pos
  | up {pos : List String} {entries : List (String × Node)} :
      root.get? pos = some (.dir entries) → LastStep root .up pos pos.dropLast
  | name {pos : List String} {entries : List (String × Node)} {n : String} {node : Node} :
      root.get? pos = some (.dir entries) → entries.lookup n = some node →
      LastStep root (.name n) pos (pos ++ [n])

theorem LastStep.dir {root : Node} {step : Step} {pos dest : List String}
    (h : LastStep root step pos dest) : ∃ entries, root.get? pos = some (.dir entries) := by
  cases h with
  | stay hpos => exact ⟨_, hpos⟩
  | up hpos => exact ⟨_, hpos⟩
  | name hpos _ => exact ⟨_, hpos⟩

theorem ends_link (root : Node) (step : Step) : Ends root .link [step] (LastStep root step) where
  follow_iff onLink mid dest := by
    by_cases hdir : ∃ entries, root.get? mid = some (.dir entries)
    · obtain ⟨entries, hpos⟩ := hdir
      rw [follow]
      simp only [hpos]
      cases step with
      | stay =>
        rw [follow]
        constructor
        · rintro ⟨⟩
          exact .stay hpos
        · rintro ⟨⟩
          rfl
      | up =>
        rw [follow]
        constructor
        · rintro ⟨⟩
          exact .up hpos
        · rintro ⟨⟩
          rfl
      | name n =>
        have hlast : LastStep root (.name n) mid dest ↔
            ∃ node, entries.lookup n = some node ∧ dest = mid ++ [n] := by
          constructor
          · rintro (_ | _ | ⟨hpos', hl⟩)
            cases hpos.symm.trans hpos'
            exact ⟨_, hl, rfl⟩
          · rintro ⟨node, hl, rfl⟩
            exact .name hpos hl
        have hdone : follow root .link onLink (mid ++ [n]) [] = .ok (mid ++ [n]) := by rw [follow]
        rw [hlast]
        cases hl : entries.lookup n with
        | none => simp [hl]
        | some node => cases node <;> simp [hl, hdone, @eq_comm _ dest]
    · refine iff_of_false (fun h => ?_) fun h => hdir h.dir
      rw [follow] at h
      split at h
      · exact hdir ⟨_, by assumption⟩
      · cases h
      · cases h
  not_last rest := by simp
  not_new rest := by simp

theorem resolveTo_link_iff {t : FileTree} {path : String} (hpath : path ≠ "") {ss : List Step}
    {step : Step} (hsteps : steps path = ss ++ [step]) {dest : List String} :
    t.resolveTo .link path = .ok dest ↔ ∃ k mid, k ≤ linkLimit ∧
      Leads t.root (if FilePath.isAbsolute path then [] else t.cwd) ss k mid ∧
      LastStep t.root step mid dest := by
  rw [resolveTo, if_neg hpath, hsteps]
  exact walk_append_eq_ok_iff (ends_link t.root step)

theorem resolve_iff {t : FileTree} {path : String} (hpath : path ≠ "") {dest : List String} :
    t.resolve path = .ok dest ↔ ∃ k, k ≤ linkLimit ∧
      Leads t.root (if FilePath.isAbsolute path then [] else t.cwd) (steps path) k dest := by
  rw [resolve, resolveTo, if_neg hpath]
  exact walk_eq_ok_iff

/-- What is not a link is found in the same place when links are passed. -/
theorem LastStep.leads {root : Node} {step : Step} {pos dest : List String} {node : Node}
    (h : LastStep root step pos dest) (hget : root.get? dest = some node)
    (hno : ∀ target, node ≠ .link target) : Leads root pos [step] 0 dest := by
  cases h with
  | stay hpos => exact .stay hpos (.done _)
  | up hpos => exact .up hpos (.done _)
  | @name pos entries n node' hpos hl =>
    rw [Node.get?_append, hpos, Option.bind_some, Node.get?_dir_cons, hl] at hget
    have hnode : node' = node := by simpa using hget
    exact .enter hpos (hnode ▸ hl) hno (.done _)

theorem exists_last_step (path : String) : ∃ ss step, steps path = ss ++ [step] := by
  have hne : steps path ≠ [] := by
    simpa [steps] using FilePath.splitAt_ne_nil '/' path.toList
  exact ⟨_, _, (List.dropLast_concat_getLast hne).symm⟩

theorem resolveTo_empty (t : FileTree) (ending : Ending) :
    t.resolveTo ending "" = .error .notFound := if_pos rfl

theorem resolve_of_resolveTo_link {t : FileTree} {path : String} {dest : List String} {node : Node}
    (h : t.resolveTo .link path = .ok dest) (hget : t.root.get? dest = some node)
    (hno : ∀ target, node ≠ .link target) : t.resolve path = .ok dest := by
  have hpath : path ≠ "" := by
    rintro rfl
    rw [resolveTo_empty] at h
    cases h
  obtain ⟨ss, step, hsteps⟩ := exists_last_step path
  obtain ⟨k, mid, hk, hss, hlast⟩ := (resolveTo_link_iff hpath hsteps).mp h
  refine (resolve_iff hpath).mpr ⟨k + 0, hk, ?_⟩
  rw [hsteps]
  exact hss.append (hlast.leads hget hno)

/-! ## What stands at a path -/

theorem get?_bind_eq_ok_iff {root node : Node} {r : Except SystemError (List String)} :
    (do match root.get? (← r) with
      | some n => Except.ok n
      | none => .error SystemError.notFound) = .ok node ↔
      ∃ dest, r = .ok dest ∧ root.get? dest = some node := by
  cases r with
  | error e => simp [bind, Except.bind]
  | ok dest => cases h : root.get? dest <;> simp [bind, Except.bind, h]

theorem node_eq_ok_iff {t : FileTree} {path : String} {node : Node} :
    t.node path = .ok node ↔
      ∃ dest, t.resolve path = .ok dest ∧ t.root.get? dest = some node := get?_bind_eq_ok_iff

theorem nodeOrLink_eq_ok_iff {t : FileTree} {path : String} {node : Node} :
    t.nodeOrLink path = .ok node ↔
      ∃ dest, t.resolveTo .link path = .ok dest ∧ t.root.get? dest = some node :=
  get?_bind_eq_ok_iff

theorem isFile_iff {t : FileTree} {path : String} :
    t.isFile path = true ↔
      ∃ dest data, t.resolve path = .ok dest ∧ t.root.get? dest = some (.file data) := by
  unfold isFile
  constructor
  · intro h
    split at h
    · rename_i data hnode
      obtain ⟨dest, hdest, hget⟩ := node_eq_ok_iff.mp hnode
      exact ⟨dest, data, hdest, hget⟩
    · cases h
  · rintro ⟨dest, data, hdest, hget⟩
    rw [node_eq_ok_iff.mpr ⟨dest, hdest, hget⟩]

theorem isDir_iff {t : FileTree} {path : String} :
    t.isDir path = true ↔ ∃ entries, t.node path = .ok (.dir entries) := by
  unfold FileTree.isDir
  constructor
  · intro h
    split at h
    · rename_i entries hnode
      exact ⟨entries, hnode⟩
    · cases h
  · rintro ⟨entries, hnode⟩
    rw [hnode]

theorem node_of_nodeOrLink {t : FileTree} {path : String} {node : Node}
    (h : t.nodeOrLink path = .ok node) (hno : ∀ target, node ≠ .link target) :
    t.node path = .ok node := by
  obtain ⟨dest, hdest, hget⟩ := nodeOrLink_eq_ok_iff.mp h
  exact node_eq_ok_iff.mpr ⟨dest, resolve_of_resolveTo_link hdest hget hno, hget⟩

/-! ## Paths below a root -/

/-- Real directories are entered name by name. -/
theorem leads_names {root : Node} {pos ns : List String} {entries : List (String × Node)}
    (h : root.get? (pos ++ ns) = some (.dir entries)) :
    Leads root pos (ns.map Step.name) 0 (pos ++ ns) := by
  induction ns generalizing pos with
  | nil =>
    rw [List.append_nil]
    exact .done pos
  | cons n ns ih =>
    rw [List.append_cons] at h
    obtain ⟨es, hes⟩ := Node.dir_above h
    obtain ⟨above, hpos, hl⟩ := Node.exists_dir_of_get?_concat hes
    rw [List.append_cons]
    exact .enter hpos hl (by simp) (ih h)

section
variable {t : FileTree} {root : String} {place : List String} (hroot : t.resolve root = .ok place)
include hroot

theorem ne_empty_of_resolve : root ≠ "" := by
  rintro rfl
  cases hroot

/-- A path below a root is resolved by way of the root's own place. -/
theorem leads_root {ns : List String} (hns : ∀ n ∈ ns, IsEntryName n) (hne : ns ≠ []) :
    ∃ ss k, k ≤ linkLimit ∧ steps (FilePath.descend root ns) = ss ++ ns.map Step.name ∧
      Leads t.root (if FilePath.isAbsolute (FilePath.descend root ns) then [] else t.cwd) ss k
        place := by
  have hempty := ne_empty_of_resolve hroot
  obtain ⟨k, hk, hleads⟩ := (resolve_iff hempty).mp hroot
  obtain ⟨ss, hss, hsteps⟩ := steps_descend hempty hns hne
  rw [FilePath.isAbsolute_descend hempty hns]
  rcases hss with hss | hss
  · exact ⟨ss, k, hk, hsteps, hss ▸ hleads⟩
  · rw [hss] at hleads
    obtain ⟨mid, i, j, hij, hfirst, hlast⟩ := hleads.split
    cases hlast with
    | stay _ hdone =>
      cases hdone
      exact ⟨ss, i, by omega, hsteps, hfirst⟩

/-- The entry of a path below a root stands where the names lead. -/
theorem resolveTo_link_descend {ns : List String} (hns : ∀ n ∈ ns, IsEntryName n) (hne : ns ≠ [])
    {leaf : Node} (hleaf : t.root.get? (place ++ ns) = some leaf) :
    t.resolveTo .link (FilePath.descend root ns) = .ok (place ++ ns) := by
  obtain ⟨ss, k, hk, hsteps, hleads⟩ := leads_root hroot hns hne
  obtain ⟨ms, n, rfl⟩ : ∃ ms n, ns = ms ++ [n] :=
    ⟨_, _, (List.dropLast_concat_getLast hne).symm⟩
  rw [← List.append_assoc] at hleaf ⊢
  obtain ⟨entries, hpos, hl⟩ := Node.exists_dir_of_get?_concat hleaf
  rw [List.map_append, ← List.append_assoc] at hsteps
  have hempty := FilePath.descend_ne_empty (ne_empty_of_resolve hroot) hns
  exact (resolveTo_link_iff hempty hsteps).mpr
    ⟨k, place ++ ms, hk, hleads.append (leads_names hpos), .name hpos hl⟩

theorem leads_of_resolve {ns : List String} (hns : ∀ n ∈ ns, IsEntryName n) (hne : ns ≠ [])
    {dest : List String} (h : t.resolve (FilePath.descend root ns) = .ok dest) :
    ∃ k, Leads t.root place (ns.map Step.name) k dest := by
  obtain ⟨ss, k, -, hsteps, hleads⟩ := leads_root hroot hns hne
  have hempty := FilePath.descend_ne_empty (ne_empty_of_resolve hroot) hns
  obtain ⟨k', -, hwhole⟩ := (resolve_iff hempty).mp h
  rw [hsteps] at hwhole
  obtain ⟨mid, i, j, -, hfirst, hrest⟩ := hwhole.split
  rw [hfirst.unique hleads] at hrest
  exact ⟨j, hrest⟩

theorem leads_last_of_resolve {ms : List String} {n : String}
    (hns : ∀ m ∈ ms ++ [n], IsEntryName m) {entries : List (String × Node)}
    (hdir : t.root.get? (place ++ ms) = some (.dir entries)) {dest : List String}
    (h : t.resolve (FilePath.descend root (ms ++ [n])) = .ok dest) :
    ∃ k, Leads t.root (place ++ ms) [.name n] k dest := by
  obtain ⟨k, hleads⟩ := leads_of_resolve hroot hns (by simp) h
  rw [List.map_append] at hleads
  obtain ⟨mid, i, j, -, hfirst, hlast⟩ := hleads.split
  rw [hfirst.unique (leads_names hdir)] at hlast
  exact ⟨j, hlast⟩

theorem resolve_of_leads_last {ms : List String} {n : String}
    (hns : ∀ m ∈ ms ++ [n], IsEntryName m) {entries : List (String × Node)}
    (hdir : t.root.get? (place ++ ms) = some (.dir entries)) {dest : List String}
    (h : Leads t.root (place ++ ms) [.name n] 0 dest) :
    t.resolve (FilePath.descend root (ms ++ [n])) = .ok dest := by
  obtain ⟨ss, k, hk, hsteps, hleads⟩ := leads_root hroot hns (by simp)
  have hempty := FilePath.descend_ne_empty (ne_empty_of_resolve hroot) hns
  refine (resolve_iff hempty).mpr ⟨k + 0 + 0, hk, ?_⟩
  rw [hsteps, List.map_append, ← List.append_assoc]
  exact (hleads.append (leads_names hdir)).append h

end

/-- What a path leads to is what it names, unless it names a link. -/
theorem nodeOrLink_of_node {t : FileTree} {path : String} {node : Node}
    (h : t.node path = .ok node) :
    t.nodeOrLink path = .ok node ∨ ∃ target, t.nodeOrLink path = .ok (.link target) := by
  obtain ⟨dest, hdest, hget⟩ := node_eq_ok_iff.mp h
  have hpath := ne_empty_of_resolve hdest
  obtain ⟨ss, step, hsteps⟩ := exists_last_step path
  obtain ⟨k, hk, hleads⟩ := (resolve_iff hpath).mp hdest
  rw [hsteps] at hleads
  obtain ⟨mid, i, j, hij, hss, hlast⟩ := hleads.split
  have hnamed : ∀ q, LastStep t.root step mid q → t.resolveTo .link path = .ok q := fun q hq =>
    (resolveTo_link_iff hpath hsteps).mpr ⟨i, mid, by omega, hss, hq⟩
  have hself : ∀ {q}, LastStep t.root step mid q → q = dest → t.nodeOrLink path = .ok node := by
    rintro q hq rfl
    exact nodeOrLink_eq_ok_iff.mpr ⟨q, hnamed q hq, hget⟩
  cases hlast with
  | stay hdir hdone =>
    cases hdone
    exact Or.inl (hself (.stay hdir) rfl)
  | up hdir hdone =>
    cases hdone
    exact Or.inl (hself (.up hdir) rfl)
  | enter hdir hl _ hdone =>
    cases hdone
    exact Or.inl (hself (.name hdir hl) rfl)
  | link hdir hl _ _ =>
    exact Or.inr ⟨_, nodeOrLink_eq_ok_iff.mpr
      ⟨_, hnamed _ (.name hdir hl), Node.get?_concat hdir hl⟩⟩

end EnumFamily.FileTree
