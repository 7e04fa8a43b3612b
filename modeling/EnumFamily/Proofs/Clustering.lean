import EnumFamily.Cluster
import EnumFamily.Proofs.ListOrder

/-!
# Splitting names by their stems

`Cluster.split` gives all clusters of a list at once. Here it is compared with
what stems are, said without the search for a separator, and with one pass over
the names that puts each into the cluster of its stem.

Results:
* `isStem_iff`: each name has one stem, which `stemOf` finds.
* `foldl_put`: one pass over the names gives the same clusters.
* `split_by_stem`: which clusters there are, in which order, and what they hold.
-/
namespace EnumFamily.Cluster

/-! ## The stem of a name -/

/-- The name is `stem`, a separator, and a rest without one; or it has no
separator and is its own stem. -/
def IsStem (sep : Char) (name stem : String) : Prop :=
  (∃ rest, name.toList = stem.toList ++ sep :: rest ∧ sep ∉ rest) ∨
    (sep ∉ name.toList ∧ stem = name)

theorem beforeLast?_eq_none_iff {sep : Char} {s : List Char} :
    beforeLast? sep s = none ↔ sep ∉ s := by
  induction s with
  | nil => simp [beforeLast?]
  | cons c s ih =>
    rw [beforeLast?]
    cases h : beforeLast? sep s with
    | some k =>
      have hmem : sep ∈ s := by
        refine Classical.not_not.mp fun hnot => ?_
        rw [ih.mpr hnot] at h
        cases h
      simp [hmem]
    | none =>
      have hnot := ih.mp h
      by_cases hc : c = sep
      · simp [hc]
      · simp [hc, hnot, Ne.symm hc]

theorem beforeLast?_eq_some_iff {sep : Char} {s k : List Char} :
    beforeLast? sep s = some k ↔ ∃ rest, s = k ++ sep :: rest ∧ sep ∉ rest := by
  induction s generalizing k with
  | nil => simp [beforeLast?]
  | cons c s ih =>
    rw [beforeLast?]
    constructor
    · intro h
      split at h
      · rename_i k' hk'
        obtain ⟨rest, rfl, hrest⟩ := ih.mp hk'
        obtain rfl := Option.some.inj h
        exact ⟨rest, rfl, hrest⟩
      · rename_i hnone
        split at h
        · rename_i hc
          obtain rfl := Option.some.inj h
          exact ⟨s, by rw [hc]; rfl, beforeLast?_eq_none_iff.mp hnone⟩
        · cases h
    · rintro ⟨rest, hs, hrest⟩
      cases k with
      | nil =>
        obtain ⟨rfl, rfl⟩ := List.cons.inj hs
        simp [beforeLast?_eq_none_iff.mpr hrest]
      | cons d k =>
        rw [List.cons_append, List.cons.injEq] at hs
        simp [hs.1, ih.mpr ⟨rest, hs.2, hrest⟩]

theorem isStem_iff {sep : Char} {name stem : String} :
    IsStem sep name stem ↔ stemOf sep name = stem := by
  unfold IsStem stemOf
  cases h : beforeLast? sep name.toList with
  | none =>
    have hnot := beforeLast?_eq_none_iff.mp h
    constructor
    · rintro (⟨rest, hname, -⟩ | ⟨-, rfl⟩)
      · exact absurd (by simp [hname]) hnot
      · rfl
    · rintro rfl
      exact Or.inr ⟨hnot, rfl⟩
  | some k =>
    obtain ⟨rest, hname, hrest⟩ := beforeLast?_eq_some_iff.mp h
    constructor
    · rintro (hstem | ⟨hnot, -⟩)
      · obtain rfl := Option.some.inj ((beforeLast?_eq_some_iff.mpr hstem).symm.trans h)
        exact String.ofList_toList
      · exact absurd (by simp [hname]) hnot
    · rintro rfl
      exact Or.inl ⟨rest, by rw [String.toList_ofList, hname], hrest⟩

/-! ## One pass over the names -/

/-- Puts a name at the end of the cluster of its stem, or into a new cluster
behind the others. -/
def put (sep : Char) (clusters : List Cluster) (name : String) : List Cluster :=
  upsert stem { stem := stemOf sep name, members := [] }
    (fun c => { c with members := c.members ++ [name] }) clusters

theorem members_concat_self (sep : Char) (names : List String) (name : String) :
    (ofStem sep (names ++ [name]) (stemOf sep name)).members =
      (ofStem sep names (stemOf sep name)).members ++ [name] := by
  simp [ofStem, List.filter_append]

theorem ofStem_concat_of_ne {sep : Char} (names : List String) {name k : String}
    (hk : k ≠ stemOf sep name) : ofStem sep (names ++ [name]) k = ofStem sep names k := by
  simp [ofStem, List.filter_append, Ne.symm hk]

/-- No name of the list has a stem that none of them has. -/
theorem members_of_not_mem {sep : Char} {names : List String} {k : String}
    (hk : k ∉ names.map (stemOf sep)) : (ofStem sep names k).members = [] := by
  refine List.filter_eq_nil_iff.mpr fun n hn hstem => hk ?_
  exact List.mem_map.mpr ⟨n, hn, by simpa using hstem⟩

theorem put_split (sep : Char) (names : List String) (name : String) :
    put sep (split sep names) name = split sep (names ++ [name]) := by
  unfold put split stems
  rw [List.map_append, List.map_singleton]
  refine upsert_eraseDups (fun _ => rfl) (fun k _ hk => ofStem_concat_of_ne names hk) ?_ ?_
  · intro _
    exact congrArg (Cluster.mk _) (members_concat_self sep names name)
  · intro hnew
    refine congrArg (Cluster.mk _) ?_
    exact (members_concat_self sep names name).trans (by rw [members_of_not_mem hnew])

theorem foldl_put (sep : Char) (names : List String) :
    names.foldl (put sep) [] = split sep names := by
  induction names using List.reverseRecOn with
  | nil => rfl
  | append_singleton names name ih =>
    rw [List.foldl_append, ih]
    exact put_split sep names name

/-! ## What the clusters are -/

theorem map_stem_split (sep : Char) (names : List String) :
    (split sep names).map stem = stems sep names := by
  rw [split, List.map_map]
  exact List.map_id _

theorem mem_split_iff {sep : Char} {names : List String} {c : Cluster} :
    c ∈ split sep names ↔ c.stem ∈ names.map (stemOf sep) ∧ c = ofStem sep names c.stem := by
  rw [split, List.mem_map]
  constructor
  · rintro ⟨k, hk, rfl⟩
    exact ⟨List.mem_eraseDups.mp hk, rfl⟩
  · rintro ⟨hk, hc⟩
    exact ⟨c.stem, List.mem_eraseDups.mpr hk, hc.symm⟩

theorem find?_split_eq_some_iff {sep : Char} {names : List String} {k : String} {c : Cluster} :
    find? (split sep names) k = some c ↔
      k ∈ names.map (stemOf sep) ∧ c = ofStem sep names k := by
  constructor
  · intro h
    obtain ⟨hstem, hc⟩ := mem_split_iff.mp (List.mem_of_find?_eq_some h)
    have hk : c.stem = k := by simpa using List.find?_some h
    subst hk
    exact ⟨hstem, hc⟩
  · rintro ⟨hk, rfl⟩
    have hmem : ofStem sep names k ∈ split sep names := mem_split_iff.mpr ⟨hk, rfl⟩
    cases h : find? (split sep names) k with
    | none => exact absurd (List.find?_eq_none.mp h _ hmem) (by simp [ofStem])
    | some c =>
      obtain ⟨-, hc⟩ := mem_split_iff.mp (List.mem_of_find?_eq_some h)
      have hk' : c.stem = k := by simpa using List.find?_some h
      rw [hc, hk']

theorem members_perm (sep : Char) (names : List String) :
    ((split sep names).flatMap members).Perm names := by
  rw [split, List.flatMap_map]
  refine groups_perm (stemOf sep) (nodup_eraseDups _) fun n hn => ?_
  exact List.mem_eraseDups.mpr (List.mem_map_of_mem hn)

/-- **Clusters.** For any separator and any names, each name has one stem. The
clusters of the names are those of their distinct stems in order of first
appearance; the cluster of a stem holds the names with that stem, as they stand
in the list. A search finds it under its stem, and nothing under any other text. So
no cluster is empty, no two have one stem, and together they hold the names of the
list, each as often as the list does. One pass over the names gives the same
clusters. -/
theorem split_by_stem (sep : Char) (names : List String) :
    (∀ name k, IsStem sep name k ↔ stemOf sep name = k) ∧
      FirstAppearances (names.map (stemOf sep)) ((split sep names).map stem) ∧
      (∀ c ∈ split sep names, c.members = names.filter (stemOf sep · == c.stem)) ∧
      (∀ k c, find? (split sep names) k = some c ↔
        k ∈ names.map (stemOf sep) ∧
          c = { stem := k, members := names.filter (stemOf sep · == k) }) ∧
      (∀ c ∈ split sep names, c.members ≠ []) ∧
      ((split sep names).flatMap members).Perm names ∧
      (split sep names).Pairwise (fun c d => c.stem ≠ d.stem) ∧
      names.foldl (put sep) [] = split sep names := by
  have hstems : FirstAppearances (names.map (stemOf sep)) ((split sep names).map stem) := by
    rw [map_stem_split]
    exact firstAppearances_eraseDups _
  refine ⟨fun _ _ => isStem_iff, hstems, ?_, fun _ _ => find?_split_eq_some_iff, ?_,
    members_perm sep names, List.pairwise_map.mp hstems.nodup, foldl_put sep names⟩
  · intro c hc
    exact congrArg members (mem_split_iff.mp hc).2
  · intro c hc hempty
    obtain ⟨hstem, hc⟩ := mem_split_iff.mp hc
    obtain ⟨n, hn, hkey⟩ := List.mem_map.mp hstem
    rw [hc] at hempty
    exact List.filter_eq_nil_iff.mp hempty n hn (by simp [hkey])

end EnumFamily.Cluster
