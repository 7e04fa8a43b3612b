import EnumFamily.FileTree

/-!
# Paths below a root

A walk through a file tree spells the path of an entry by joining names to the
path of its root, however that is spelled: absolute or not, with dots, with
repeated slashes or one at its end. `FilePath.descend root ns` is that path.

Results:
* `components_descend`, `descend_injective`: it stands for the components of the
  root and the names, and determines the names.
* `relativeTo_descend`: below its root it is the names with slashes between them.
* `prefix_of_relativeTo`: below any other path there is nothing of it.
* `steps_descend`: an operating system resolves the root and then name by name.
-/
namespace EnumFamily

/-- What an entry of a directory can be called. -/
structure IsEntryName (n : String) : Prop where
  ne_empty : n ≠ ""
  ne_dot : n ≠ "."
  ne_dots : n ≠ ".."
  no_slash : '/' ∉ n.toList

instance (n : String) : Decidable (IsEntryName n) :=
  decidable_of_iff (n ≠ "" ∧ n ≠ "." ∧ n ≠ ".." ∧ '/' ∉ n.toList)
    ⟨fun ⟨h₁, h₂, h₃, h₄⟩ => ⟨h₁, h₂, h₃, h₄⟩, fun ⟨h₁, h₂, h₃, h₄⟩ => ⟨h₁, h₂, h₃, h₄⟩⟩

theorem isEntryName_concat {ns : List String} {n : String} (hns : ∀ m ∈ ns, IsEntryName m)
    (hn : IsEntryName n) : ∀ m ∈ ns ++ [n], IsEntryName m := by
  intro m hm
  rcases List.mem_append.mp hm with hm | hm
  · exact hns m hm
  · rw [List.mem_singleton.mp hm]
    exact hn

namespace FilePath

/-! ## Cutting at a separator -/

theorem splitAt_ne_nil (sep : Char) (s : List Char) : splitAt sep s ≠ [] := by
  cases s with
  | nil => simp [splitAt]
  | cons c r =>
    unfold splitAt
    split
    · simp
    · split <;> simp

theorem splitAt_append_sep (sep : Char) (s t : List Char) :
    splitAt sep (s ++ sep :: t) = splitAt sep s ++ splitAt sep t := by
  induction s with
  | nil =>
    obtain ⟨p, ps, hp⟩ := List.exists_cons_of_ne_nil (splitAt_ne_nil sep t)
    simp [splitAt, hp]
  | cons c s ih =>
    obtain ⟨p, ps, hp⟩ := List.exists_cons_of_ne_nil (splitAt_ne_nil sep s)
    rw [List.cons_append, splitAt, ih, splitAt, hp]
    by_cases hc : c = sep <;> simp [hc]

theorem splitAt_of_not_mem {sep : Char} {s : List Char} (h : sep ∉ s) : splitAt sep s = [s] := by
  induction s with
  | nil => rfl
  | cons c s ih =>
    obtain ⟨hc, hs⟩ := not_or.mp (fun h' => h (List.mem_cons.mpr h'))
    simp [splitAt, ih hs, Ne.symm hc]

theorem splitAt_eq_nil_iff {sep : Char} {s : List Char} : splitAt sep s = [[]] ↔ s = [] := by
  constructor
  · intro h
    cases s with
    | nil => rfl
    | cons c s =>
      obtain ⟨p, ps, hp⟩ := List.exists_cons_of_ne_nil (splitAt_ne_nil sep s)
      rw [splitAt, hp] at h
      by_cases hc : c = sep <;> simp [hc] at h
  · rintro rfl
    rfl

/-! ## Joining names -/

/-- The path of what the names lead to from a root. -/
def descend (root : String) (ns : List String) : String := ns.foldl join root

@[simp] theorem descend_nil (root : String) : descend root [] = root := rfl

@[simp] theorem descend_cons (root n : String) (ns : List String) :
    descend root (n :: ns) = descend (join root n) ns := rfl

theorem descend_append (root : String) (ns ms : List String) :
    descend root (ns ++ ms) = descend (descend root ns) ms := List.foldl_append

theorem isAbsolute_iff {path : String} : isAbsolute path = true ↔ ∃ s, path.toList = '/' :: s := by
  rw [isAbsolute, decide_eq_true_eq, List.head?_eq_some_iff]

theorem ne_empty_of_isAbsolute {path : String} (h : isAbsolute path = true) : path ≠ "" := by
  rintro rfl
  cases h

theorem isAbsolute_of_name {n : String} (hn : IsEntryName n) : isAbsolute n = false := by
  have : n.toList.head? ≠ some '/' := fun h => hn.no_slash (List.mem_of_head? h)
  simpa [isAbsolute] using this

/-- A relative path is joined with a slash, unless the root ends in one already. -/
theorem toList_join_relative {root p : String} (hroot : root ≠ "") (hp : isAbsolute p = false) :
    ∃ s, (root.toList = s ∨ root.toList = s ++ ['/']) ∧
      (join root p).toList = s ++ '/' :: p.toList := by
  unfold join
  rw [hp, if_neg Bool.false_ne_true]
  split
  · rename_i h
    obtain ⟨s, hs⟩ := List.getLast?_eq_some_iff.mp (h.resolve_left hroot)
    exact ⟨s, Or.inr hs, by simp [hs]⟩
  · exact ⟨root.toList, Or.inl rfl, by simp⟩

theorem toList_join {root n : String} (hroot : root ≠ "") (hn : IsEntryName n) :
    ∃ s, (root.toList = s ∨ root.toList = s ++ ['/']) ∧
      (join root n).toList = s ++ '/' :: n.toList :=
  toList_join_relative hroot (isAbsolute_of_name hn)

theorem join_ne_empty {root n : String} (hroot : root ≠ "") (hn : IsEntryName n) :
    join root n ≠ "" := by
  obtain ⟨s, -, hs⟩ := toList_join hroot hn
  intro h
  rw [h] at hs
  simp at hs

theorem isAbsolute_join {root n : String} (hroot : root ≠ "") (hn : IsEntryName n) :
    isAbsolute (join root n) = isAbsolute root := by
  obtain ⟨s, hs, hj⟩ := toList_join hroot hn
  unfold isAbsolute
  rw [hj]
  rcases hs with hs | hs
  · rw [hs]
    cases s with
    | nil => exact absurd (String.toList_eq_nil_iff.mp hs) hroot
    | cons c s => rfl
  · rw [hs]
    cases s <;> rfl

section
variable {root : String} (hroot : root ≠ "")
include hroot

theorem descend_ne_empty {ns : List String} (hns : ∀ n ∈ ns, IsEntryName n) :
    descend root ns ≠ "" := by
  induction ns generalizing root with
  | nil => exact hroot
  | cons n ns ih =>
    have hn := hns n List.mem_cons_self
    exact ih (join_ne_empty hroot hn) fun m hm => hns m (List.mem_cons_of_mem n hm)

theorem isAbsolute_descend {ns : List String} (hns : ∀ n ∈ ns, IsEntryName n) :
    isAbsolute (descend root ns) = isAbsolute root := by
  induction ns generalizing root with
  | nil => rfl
  | cons n ns ih =>
    have hn := hns n List.mem_cons_self
    rw [descend_cons, ih (join_ne_empty hroot hn) fun m hm => hns m (List.mem_cons_of_mem n hm),
      isAbsolute_join hroot hn]

/-- The parts of a path below a root are those of the root, an empty one at its
end left out, and then the names. -/
theorem splitAt_descend {ns : List String} (hns : ∀ n ∈ ns, IsEntryName n) (hne : ns ≠ []) :
    ∃ init, init ≠ [] ∧
      (splitAt '/' root.toList = init ∨ splitAt '/' root.toList = init ++ [[]]) ∧
      splitAt '/' (descend root ns).toList = init ++ ns.map String.toList := by
  induction ns generalizing root with
  | nil => exact absurd rfl hne
  | cons n ns ih =>
    have hn := hns n List.mem_cons_self
    obtain ⟨s, hs, hj⟩ := toList_join hroot hn
    have hsplit : splitAt '/' (join root n).toList = splitAt '/' s ++ [n.toList] := by
      rw [hj, splitAt_append_sep, splitAt_of_not_mem hn.no_slash]
    have hbase : splitAt '/' root.toList = splitAt '/' s ∨
        splitAt '/' root.toList = splitAt '/' s ++ [[]] := by
      rcases hs with hs | hs
      · exact Or.inl (by rw [hs])
      · exact Or.inr (by rw [hs, splitAt_append_sep]; rfl)
    refine ⟨splitAt '/' s, splitAt_ne_nil _ _, hbase, ?_⟩
    cases ns with
    | nil => exact hsplit
    | cons m ms =>
      obtain ⟨init, -, hinit, hd⟩ := ih (join_ne_empty hroot hn)
        (fun k hk => hns k (List.mem_cons_of_mem n hk)) (List.cons_ne_nil m ms)
      -- the path ends in a name now, so nothing is left out at its end
      have hwhole : init = splitAt '/' s ++ [n.toList] := by
        rcases hinit with hi | hi
        · rw [← hi, hsplit]
        · rw [hsplit] at hi
          have := (List.append_inj' hi rfl).2
          simp [String.toList_eq_nil_iff, hn.ne_empty] at this
      rw [descend_cons, hd, hwhole]
      simp

end

/-! ## Components -/

/-- The piece of a path that is the name of an entry. -/
def entryPiece (n : String) : Piece := ⟨n, some (.name n)⟩

theorem innerComponent_name {n : String} (hn : IsEntryName n) :
    innerComponent n = some (.name n) := by
  simp [innerComponent, hn.ne_empty, hn.ne_dot, hn.ne_dots]

theorem firstComponent_of_ne_empty {t : String} (ht : t ≠ "") (more more' : Bool) :
    firstComponent t more = firstComponent t more' := by
  simp [firstComponent, ht]

theorem firstComponent_ne_none {t : String} {more : Bool} (h : t = "" → more = true) :
    firstComponent t more ≠ none := by
  unfold firstComponent innerComponent
  split
  · rename_i ht
    simp [h ht]
  · rename_i ht
    split
    · simp
    · rename_i hdot
      rw [if_neg (by simp [ht, hdot])]
      split <;> simp

/-- Only the empty path has nothing but an empty part. -/
theorem part_ne_empty {path : String} (hpath : path ≠ "") {t : List Char}
    (h : splitAt '/' path.toList = [t]) : String.ofList t ≠ "" := by
  intro ht
  have : t = [] := by simpa using congrArg String.toList ht
  rw [this, splitAt_eq_nil_iff, String.toList_eq_nil_iff] at h
  exact hpath h

theorem pieces_of_splitAt {path : String} {t : List Char} {ts : List (List Char)}
    (h : splitAt '/' path.toList = t :: ts) :
    pieces path = ⟨String.ofList t, firstComponent (String.ofList t) (!ts.isEmpty)⟩ ::
      (ts.map String.ofList).map fun t => ⟨t, innerComponent t⟩ := by
  simp [pieces, h]

theorem components_of_isAbsolute {path : String} (h : isAbsolute path = true) :
    ∃ rest, components path = .root :: rest := by
  obtain ⟨s, hs⟩ := isAbsolute_iff.mp h
  obtain ⟨p, ps, hp⟩ := List.exists_cons_of_ne_nil (splitAt_ne_nil '/' s)
  have hsplit : splitAt '/' path.toList = [] :: p :: ps := by
    rw [hs]
    simp [splitAt, hp]
  rw [components, pieces_of_splitAt hsplit]
  exact ⟨_, List.filterMap_cons_some rfl⟩

theorem map_piece_names {ns : List String} (hns : ∀ n ∈ ns, IsEntryName n) :
    ((ns.map String.toList).map String.ofList).map (fun t => (⟨t, innerComponent t⟩ : Piece)) =
      ns.map entryPiece := by
  simp only [List.map_map]
  refine List.map_congr_left fun n hn => ?_
  simp [entryPiece, innerComponent_name (hns n hn)]

theorem component_names (ns : List String) :
    (ns.map entryPiece).filterMap (·.component) = ns.map Component.name := by
  simp [List.filterMap_map, Function.comp_def, entryPiece]

theorem name_names (ns : List String) : (ns.map Component.name).filterMap Component.name? = ns := by
  simp [List.filterMap_map, Function.comp_def, Component.name?]

section
variable {root : String} (hroot : root ≠ "")
include hroot

/-- The pieces of a path below a root, as `splitAt_descend` for its parts. -/
theorem pieces_descend {ns : List String} (hns : ∀ n ∈ ns, IsEntryName n) :
    ∃ ps, (pieces root = ps ∨ pieces root = ps ++ [⟨"", none⟩]) ∧
      pieces (descend root ns) = ps ++ ns.map entryPiece := by
  by_cases hne : ns = []
  · subst hne
    exact ⟨pieces root, Or.inl rfl, by simp⟩
  obtain ⟨init, hinit, hbase, hd⟩ := splitAt_descend hroot hns hne
  obtain ⟨t, ts, rfl⟩ := List.exists_cons_of_ne_nil hinit
  refine ⟨⟨String.ofList t, firstComponent (String.ofList t) true⟩ ::
    (ts.map String.ofList).map fun t => ⟨t, innerComponent t⟩, ?_, ?_⟩
  · rcases hbase with hb | hb
    · left
      rw [pieces_of_splitAt hb]
      congr 2
      cases ts with
      | nil => exact firstComponent_of_ne_empty (part_ne_empty hroot hb) _ _
      | cons u us => rfl
    · right
      rw [List.cons_append] at hb
      have hmore : (ts ++ [[]]).isEmpty = false := by simp
      rw [pieces_of_splitAt hb, hmore]
      simp [innerComponent]
  · rw [List.cons_append] at hd
    have hmore : (ts ++ ns.map String.toList).isEmpty = false := by simp [hne]
    rw [pieces_of_splitAt hd, hmore, List.map_append, List.map_append, map_piece_names hns]
    rfl

theorem components_descend {ns : List String} (hns : ∀ n ∈ ns, IsEntryName n) :
    components (descend root ns) = components root ++ ns.map Component.name := by
  obtain ⟨ps, hps, hd⟩ := pieces_descend hroot hns
  have hbase : components root = ps.filterMap (·.component) := by
    rcases hps with h | h <;> simp [components, h]
  rw [components, hd, List.filterMap_append, hbase, component_names]

theorem fileName_descend {ns : List String} (hns : ∀ n ∈ ns, IsEntryName n) (hne : ns ≠ []) :
    fileName? (descend root ns) = ns.getLast? := by
  unfold fileName?
  rw [components_descend hroot hns, List.getLast?_append, List.getLast?_map]
  rw [List.getLast?_eq_some_getLast hne]
  rfl

theorem components_ne_nil : components root ≠ [] := by
  obtain ⟨t, ts, h⟩ := List.exists_cons_of_ne_nil (splitAt_ne_nil '/' root.toList)
  rw [components, pieces_of_splitAt h]
  have hfirst : firstComponent (String.ofList t) (!ts.isEmpty) ≠ none := by
    refine firstComponent_ne_none fun ht => ?_
    cases ts with
    | nil => exact absurd ht (part_ne_empty hroot h)
    | cons u us => rfl
  obtain ⟨c, hc⟩ := Option.ne_none_iff_exists'.mp hfirst
  simp [hc]

theorem descend_injective {ns ms : List String} (hns : ∀ n ∈ ns, IsEntryName n)
    (hms : ∀ n ∈ ms, IsEntryName n)
    (h : components (descend root ns) = components (descend root ms)) : ns = ms := by
  rw [components_descend hroot hns, components_descend hroot hms] at h
  exact List.map_inj_right (fun _ _ => Component.name.inj) |>.mp (List.append_cancel_left h)

end

/-! ## Below the root -/

/-- Dropping the components of some pieces leaves at most empty pieces of them. -/
theorem dropComponents_append (ps qs : List Piece) :
    ∃ rest, (∀ p ∈ rest, p.component = none) ∧
      dropComponents (ps.filterMap (·.component)) (ps ++ qs) = some (rest ++ qs) := by
  induction ps with
  | nil => exact ⟨[], by simp, by simp [dropComponents]⟩
  | cons p ps ih =>
    obtain ⟨rest, hrest, hdrop⟩ := ih
    cases hp : p.component with
    | some c =>
      refine ⟨rest, hrest, ?_⟩
      rw [List.filterMap_cons_some hp, List.cons_append, dropComponents, hp]
      simpa using hdrop
    | none =>
      rw [List.filterMap_cons_none hp, List.cons_append]
      cases hcs : ps.filterMap (·.component) with
      | nil =>
        refine ⟨p :: ps, ?_, by simp [dropComponents]⟩
        intro q hq
        rcases List.mem_cons.mp hq with rfl | hq
        · exact hp
        · exact List.filterMap_eq_nil_iff.mp hcs q hq
      | cons c cs =>
        refine ⟨rest, hrest, ?_⟩
        rw [dropComponents, hp, ← hcs]
        exact hdrop

theorem prefix_of_dropComponents {cs : List Component} {ps rest : List Piece}
    (h : dropComponents cs ps = some rest) : cs <+: ps.filterMap (·.component) := by
  fun_induction dropComponents cs ps with
  | case1 ps => exact List.nil_prefix
  | case2 c cs => cases h
  | case3 c cs p ps hp ih =>
    rw [List.filterMap_cons_none hp]
    exact ih h
  | case4 c cs p ps hp ih =>
    rw [List.filterMap_cons_some hp]
    exact List.cons_prefix_cons.mpr ⟨rfl, ih h⟩
  | case5 c cs p ps d hp hne => cases h

/-- Nothing is left below a path but of one that begins with its components. -/
theorem prefix_of_relativeTo {base path rel : String} (h : relativeTo? base path = some rel) :
    components base <+: components path := by
  unfold relativeTo? at h
  split at h
  · rename_i hnil
    rw [hnil]
    exact List.nil_prefix
  · obtain ⟨rest, hdrop, -⟩ := Option.map_eq_some_iff.mp h
    exact prefix_of_dropComponents hdrop

theorem trimEnd_names (ns : List String) : trimEnd (ns.map entryPiece) = ns.map entryPiece := by
  unfold trimEnd
  have hkeep : (ns.map entryPiece).reverse.dropWhile (·.component.isNone) =
      (ns.map entryPiece).reverse := by
    rw [← List.map_reverse]
    cases ns.reverse with
    | nil => rfl
    | cons n ms => simp [entryPiece]
  rw [hkeep, List.reverse_reverse]

theorem spell_names (ns : List String) : spell (ns.map entryPiece) = "/".intercalate ns := by
  have hspell : spell (ns.map entryPiece) =
      "/".intercalate ((ns.map entryPiece).map (·.text)) := by
    cases ns with
    | nil => rfl
    | cons n ns => simp [spell, entryPiece]
  rw [hspell, List.map_map]
  exact congrArg _ (List.map_id ns)

/-- Seen from its root, a path is the names on the way. -/
theorem relativeTo_descend {root : String} (hroot : root ≠ "") {ns : List String}
    (hns : ∀ n ∈ ns, IsEntryName n) :
    relativeTo? root (descend root ns) = some ("/".intercalate ns) := by
  obtain ⟨ps, hps, hd⟩ := pieces_descend hroot hns
  have hbase : components root = ps.filterMap (·.component) := by
    rcases hps with h | h <;> simp [components, h]
  obtain ⟨rest, hrest, hdrop⟩ := dropComponents_append ps (ns.map entryPiece)
  have hrel : relativeTo? root (descend root ns) =
      (dropComponents (components root) (pieces (descend root ns))).map fun ps =>
        spell (trimEnd (ps.dropWhile (·.component.isNone))) := by
    unfold relativeTo?
    split
    · rename_i h
      exact absurd h (components_ne_nil hroot)
    · rfl
  have hskip : (rest ++ ns.map entryPiece).dropWhile (·.component.isNone) = ns.map entryPiece := by
    rw [List.dropWhile_append_of_pos fun p hp => by simp [hrest p hp]]
    cases ns with
    | nil => rfl
    | cons n ns => simp [entryPiece]
  rw [hrel, hbase, hd, hdrop, Option.map_some, hskip, trimEnd_names, spell_names]

theorem splitAt_intercalate {ns : List String} (hns : ∀ n ∈ ns, '/' ∉ n.toList) (hne : ns ≠ []) :
    splitAt '/' ("/".intercalate ns).toList = ns.map String.toList := by
  induction ns with
  | nil => exact absurd rfl hne
  | cons n ns ih =>
    have hn := splitAt_of_not_mem (hns n List.mem_cons_self)
    cases ns with
    | nil => simpa using hn
    | cons m ms =>
      have ih := ih (fun k hk => hns k (List.mem_cons_of_mem n hk)) (List.cons_ne_nil m ms)
      have hlist : ("/".intercalate (n :: m :: ms)).toList =
          n.toList ++ '/' :: ("/".intercalate (m :: ms)).toList := by
        simp [String.intercalate_cons_cons]
      rw [hlist, splitAt_append_sep, hn, ih]
      rfl

end FilePath

/-! ## Resolving -/

namespace FileTree

theorem stepOf_name {n : String} (hn : IsEntryName n) : stepOf n = .name n := by
  simp [stepOf, hn.ne_empty, hn.ne_dot, hn.ne_dots]

/-- The steps of a path below a root are those of the root, then one for each name. -/
theorem steps_descend {root : String} (hroot : root ≠ "") {ns : List String}
    (hns : ∀ n ∈ ns, IsEntryName n) (hne : ns ≠ []) :
    ∃ ss, (steps root = ss ∨ steps root = ss ++ [.stay]) ∧
      steps (FilePath.descend root ns) = ss ++ ns.map Step.name := by
  obtain ⟨init, -, hbase, hd⟩ := FilePath.splitAt_descend hroot hns hne
  refine ⟨init.map fun p => stepOf (String.ofList p), ?_, ?_⟩
  · rcases hbase with h | h
    · exact Or.inl (by rw [steps, h])
    · refine Or.inr ?_
      rw [steps, h, List.map_append]
      simp [stepOf]
  · rw [steps, hd, List.map_append, List.map_map]
    congr 1
    refine List.map_congr_left fun n hn => ?_
    simp [stepOf_name (hns n hn)]

end FileTree

end EnumFamily
