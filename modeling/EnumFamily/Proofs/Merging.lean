import Mathlib.Data.List.Forall2
import EnumFamily.TypeUnit
import EnumFamily.Proofs.ListOrder

/-!
# Merging units

Units are merged by position. `Owns units j i` says which unit takes over which,
one rule for each case: a declaration keeps itself; another unit goes to the first
declaration of its qualified name, else to the only one of its type name, and
without either keeps itself.

Results:
* `owns_iff`: `owner` computes the owner.
* `Owns.self`: an owner owns itself, so a merge does not lose what it takes over.
* `forall₂_merge`: what comes out, unit by unit.
* `mergeInPasses_eq_merge`: passes over the units, with tables of the declarations, give
  the same.
* `constants_perm`: the constants that go in come out.
* `merge_by_owner`: all of it for any units.
-/
namespace EnumFamily

/-! ## Positions -/

/-- The positions with a property, from the first to the last. -/
structure InOrder (P : Nat → Prop) (ks : List Nat) : Prop where
  sorted : ks.Pairwise (· < ·)
  mem_iff : ∀ k, k ∈ ks ↔ P k

section
variable {α : Type} (l : List α) (p : α × Nat → Bool)

theorem inOrder_positions :
    InOrder (fun k => ∃ a, l[k]? = some a ∧ p (a, k) = true)
      ((l.zipIdx.filter p).map (·.2)) where
  sorted := by
    have hall : (l.zipIdx.map (·.2)).Pairwise (· < ·) := by
      rw [List.zipIdx_map_snd]
      exact List.pairwise_lt_range'
    exact hall.sublist (List.filter_sublist.map _)
  mem_iff k := by
    simp only [List.mem_map, List.mem_filter, Prod.exists, List.mk_mem_zipIdx_iff_getElem?]
    constructor
    · rintro ⟨a, i, ⟨ha, hp⟩, rfl⟩
      exact ⟨a, ha, hp⟩
    · rintro ⟨a, ha, hp⟩
      exact ⟨a, k, ⟨ha, hp⟩, rfl⟩

/-- The entries at chosen positions are those that were chosen. -/
theorem entries_at_positions :
    ((l.zipIdx.filter p).map (·.2)).filterMap (l[·]?) = (l.zipIdx.filter p).map (·.1) := by
  rw [List.filterMap_map, ← List.filterMap_eq_map]
  refine List.filterMap_congr fun x hx => ?_
  exact List.mem_zipIdx_iff_getElem?.mp (List.mem_filter.mp hx).1

end

namespace TypeUnit

/-! ## Declarations -/

/-- The unit at position `j` is declared and has a property. -/
def DeclaredAt (units : List TypeUnit) (P : TypeUnit → Prop) (j : Nat) : Prop :=
  ∃ d, units[j]? = some d ∧ d.declared = true ∧ P d

/-- The first declared unit with a property. -/
def FirstDeclared (units : List TypeUnit) (P : TypeUnit → Prop) (j : Nat) : Prop :=
  DeclaredAt units P j ∧ ∀ i, DeclaredAt units P i → j ≤ i

/-- The only declared unit with a property. -/
def OnlyDeclared (units : List TypeUnit) (P : TypeUnit → Prop) (j : Nat) : Prop :=
  DeclaredAt units P j ∧ ∀ i, DeclaredAt units P i → i = j

section
variable {units : List TypeUnit} {p : TypeUnit → Bool} {P : TypeUnit → Prop}
  (hp : ∀ d, p d = true ↔ P d)
include hp

theorem inOrder_declaredAt : InOrder (DeclaredAt units P) (declaredAt units p) := by
  have h := inOrder_positions units fun x => x.1.declared && p x.1
  refine ⟨h.sorted, fun k => (h.mem_iff k).trans ?_⟩
  simp only [DeclaredAt, Bool.and_eq_true, hp]

theorem declaredAt_eq_nil_iff :
    declaredAt units p = [] ↔ ∀ j, ¬ DeclaredAt units P j := by
  rw [List.eq_nil_iff_forall_not_mem]
  exact forall_congr' fun j => not_congr ((inOrder_declaredAt hp).mem_iff j)

theorem declaredAt_eq_cons_iff {j : Nat} :
    (∃ js, declaredAt units p = j :: js) ↔ FirstDeclared units P j := by
  have h : InOrder (DeclaredAt units P) (declaredAt units p) := inOrder_declaredAt hp
  constructor
  · rintro ⟨js, hjs⟩
    rw [hjs] at h
    refine ⟨(h.mem_iff j).mp List.mem_cons_self, fun i hi => ?_⟩
    rcases List.mem_cons.mp ((h.mem_iff i).mpr hi) with rfl | hi
    · exact Nat.le_refl i
    · exact Nat.le_of_lt (List.rel_of_pairwise_cons h.sorted hi)
  · rintro ⟨hj, hfirst⟩
    cases hds : declaredAt units p with
    | nil => exact absurd hj ((declaredAt_eq_nil_iff hp).mp hds j)
    | cons i is =>
      -- the first position of the list and the least one are the same
      rw [hds] at h
      have hle := hfirst i ((h.mem_iff i).mp List.mem_cons_self)
      rcases List.mem_cons.mp ((h.mem_iff j).mpr hj) with rfl | hmem
      · exact ⟨is, rfl⟩
      · have hlt := List.rel_of_pairwise_cons h.sorted hmem
        omega

theorem declaredAt_eq_singleton_iff {j : Nat} :
    declaredAt units p = [j] ↔ OnlyDeclared units P j := by
  have h : InOrder (DeclaredAt units P) (declaredAt units p) := inOrder_declaredAt hp
  constructor
  · intro hj
    rw [hj] at h
    refine ⟨(h.mem_iff j).mp List.mem_cons_self, fun i hi => ?_⟩
    exact List.mem_singleton.mp ((h.mem_iff i).mpr hi)
  · rintro ⟨hj, honly⟩
    have hfirst : FirstDeclared units P j := ⟨hj, fun i hi => Nat.le_of_eq (honly i hi).symm⟩
    obtain ⟨js, hjs⟩ := (declaredAt_eq_cons_iff hp).mpr hfirst
    rw [hjs] at h ⊢
    cases js with
    | nil => rfl
    | cons i is =>
      have hlt : j < i := List.rel_of_pairwise_cons h.sorted List.mem_cons_self
      have heq := honly i ((h.mem_iff i).mp (by simp))
      omega

end

theorem declaredAt_concat (units : List TypeUnit) (u : TypeUnit) (p : TypeUnit → Bool) :
    declaredAt (units ++ [u]) p =
      declaredAt units p ++ if u.declared && p u then [units.length] else [] := by
  unfold declaredAt
  rw [List.zipIdx_append, List.filter_append, List.map_append]
  by_cases h : u.declared && p u <;> simp [h]

/-! ## Owners -/

/-- The unit at position `j` takes over the one at position `i`. -/
inductive Owns (units : List TypeUnit) : Nat → Nat → Prop
  | declared {i : Nat} {u : TypeUnit} : units[i]? = some u → u.declared = true → Owns units i i
  | path {i j : Nat} {u : TypeUnit} : units[i]? = some u → u.declared = false →
      FirstDeclared units (·.qualifiedName = u.qualifiedName) j → Owns units j i
  | name {i j : Nat} {u : TypeUnit} : units[i]? = some u → u.declared = false →
      (∀ k, ¬ DeclaredAt units (·.qualifiedName = u.qualifiedName) k) →
      OnlyDeclared units (·.name = u.name) j → Owns units j i
  | alone {i : Nat} {u : TypeUnit} : units[i]? = some u → u.declared = false →
      (∀ k, ¬ DeclaredAt units (·.qualifiedName = u.qualifiedName) k) →
      (∀ j, ¬ OnlyDeclared units (·.name = u.name) j) → Owns units i i

section
variable {units : List TypeUnit} {u : TypeUnit} {i : Nat} (hu : units[i]? = some u)
include hu

theorem owns_owner : Owns units (owner units u i) i := by
  unfold owner
  split
  · rename_i hd
    exact .declared hu hd
  · rename_i hd
    have hd := Bool.eq_false_iff.mpr hd
    split
    · rename_i j js hjs
      exact .path hu hd ((declaredAt_eq_cons_iff fun _ => beq_iff_eq).mp ⟨js, hjs⟩)
    · rename_i hnone
      have hnone := (declaredAt_eq_nil_iff fun _ => beq_iff_eq).mp hnone
      split
      · rename_i j hj
        exact .name hu hd hnone ((declaredAt_eq_singleton_iff fun _ => beq_iff_eq).mp hj)
      · rename_i hmany
        refine .alone hu hd hnone fun j hj => ?_
        exact hmany j ((declaredAt_eq_singleton_iff fun _ => beq_iff_eq).mpr hj)

theorem Owns.owner_eq {j : Nat} (h : Owns units j i) : owner units u i = j := by
  cases h with
  | declared hu' hd =>
    cases hu.symm.trans hu'
    simp [owner, hd]
  | path hu' hd hfirst =>
    cases hu.symm.trans hu'
    obtain ⟨js, hjs⟩ := (declaredAt_eq_cons_iff fun _ => beq_iff_eq).mpr hfirst
    simp [owner, hd, hjs]
  | name hu' hd hnone honly =>
    cases hu.symm.trans hu'
    have hnil := (declaredAt_eq_nil_iff fun _ => beq_iff_eq).mpr hnone
    have hone := (declaredAt_eq_singleton_iff fun _ => beq_iff_eq).mpr honly
    simp [owner, hd, hnil, hone]
  | alone hu' hd hnone hmany =>
    cases hu.symm.trans hu'
    have hnil := (declaredAt_eq_nil_iff fun _ => beq_iff_eq).mpr hnone
    simp only [owner, hd, hnil, Bool.false_eq_true, if_false]
    split
    · rename_i j hj
      exact absurd ((declaredAt_eq_singleton_iff fun _ => beq_iff_eq).mp hj) (hmany j)
    · rfl

theorem owns_iff {j : Nat} : Owns units j i ↔ owner units u i = j := by
  constructor
  · exact Owns.owner_eq hu
  · rintro rfl
    exact owns_owner hu

end

theorem Owns.exists_unit {units : List TypeUnit} {i j : Nat} (h : Owns units j i) :
    ∃ u, units[i]? = some u := by
  cases h with
  | declared hu _ => exact ⟨_, hu⟩
  | path hu _ _ => exact ⟨_, hu⟩
  | name hu _ _ _ => exact ⟨_, hu⟩
  | alone hu _ _ _ => exact ⟨_, hu⟩

theorem Owns.unique {units : List TypeUnit} {i j k : Nat} (h : Owns units j i)
    (h' : Owns units k i) : j = k := by
  obtain ⟨u, hu⟩ := h.exists_unit
  exact (h.owner_eq hu).symm.trans (h'.owner_eq hu)

/-- Units go to declarations, which keep themselves, or keep themselves. -/
theorem Owns.self {units : List TypeUnit} {i j : Nat} (h : Owns units j i) : Owns units j j := by
  cases h with
  | declared hu hd => exact .declared hu hd
  | path _ _ hfirst =>
    obtain ⟨⟨d, hd, hdecl, -⟩, -⟩ := hfirst
    exact .declared hd hdecl
  | name _ _ _ honly =>
    obtain ⟨⟨d, hd, hdecl, -⟩, -⟩ := honly
    exact .declared hd hdecl
  | alone hu hd hnone hmany => exact .alone hu hd hnone hmany

/-! ## What a merge gives -/

theorem getElem?_claims (units : List TypeUnit) (i : Nat) :
    (claims units)[i]? = units[i]?.map fun u => (u, owner units u i) := by
  simp [claims, List.getElem?_zipIdx, Function.comp_def]

/-- The claims of units for themselves, with their positions. -/
def kept (units : List TypeUnit) : List ((TypeUnit × Nat) × Nat) :=
  (claims units).zipIdx.filter fun x => x.1.2 == x.2

theorem inOrder_kept (units : List TypeUnit) :
    InOrder (fun i => Owns units i i) ((kept units).map (·.2)) := by
  have h := inOrder_positions (claims units) fun x => x.1.2 == x.2
  refine ⟨h.sorted, fun i => (h.mem_iff i).trans ?_⟩
  simp only [getElem?_claims, Option.map_eq_some_iff, beq_iff_eq]
  constructor
  · rintro ⟨_, ⟨u, hu, rfl⟩, ho⟩
    exact (owns_iff hu).mpr ho
  · intro h
    obtain ⟨u, hu⟩ := h.exists_unit
    exact ⟨_, ⟨u, hu, rfl⟩, h.owner_eq hu⟩

theorem merge_eq_map (units : List TypeUnit) :
    merge units = (kept units).map fun x => x.1.1.gather (ownedBy (claims units) x.2) := by
  rw [kept, ← List.filterMap_eq_map, List.filterMap_filter, merge]
  refine List.filterMap_congr fun x _ => ?_
  obtain ⟨⟨u, o⟩, i⟩ := x
  simp

/-- The positions of the units that go to the one at position `i`. -/
def ownedAt (units : List TypeUnit) (i : Nat) : List Nat :=
  (units.zipIdx.filter fun x => owner units x.1 x.2 == i).map (·.2)

theorem inOrder_ownedAt (units : List TypeUnit) (i : Nat) :
    InOrder (Owns units i) (ownedAt units i) := by
  have h := inOrder_positions units fun x => owner units x.1 x.2 == i
  refine ⟨h.sorted, fun k => (h.mem_iff k).trans ?_⟩
  simp only [beq_iff_eq]
  constructor
  · rintro ⟨u, hu, ho⟩
    exact (owns_iff hu).mpr ho
  · intro h
    obtain ⟨u, hu⟩ := h.exists_unit
    exact ⟨u, hu, h.owner_eq hu⟩

theorem ownedBy_claims (units : List TypeUnit) (i : Nat) :
    ownedBy (claims units) i = (ownedAt units i).filterMap (units[·]?) := by
  rw [ownedAt, entries_at_positions, ownedBy, claims, List.filter_map, List.map_map]
  rfl

/-- Unit `m` is the unit at position `i` with what all units hold that go to it. -/
structure Gathers (units : List TypeUnit) (i : Nat) (m : TypeUnit) : Prop where
  same : ∃ u, units[i]? = some u ∧ m.name = u.name ∧ m.modules = u.modules ∧ m.file = u.file ∧
    m.line = u.line ∧ m.declared = u.declared
  holds : ∃ ks, InOrder (Owns units i) ks ∧
    m.constants = (ks.filterMap (units[·]?)).flatMap constants ∧
    FirstAppearances ((ks.filterMap (units[·]?)).flatMap traits) m.traits

theorem forall₂_merge (units : List TypeUnit) :
    List.Forall₂ (Gathers units) ((kept units).map (·.2)) (merge units) := by
  rw [merge_eq_map, List.forall₂_map_left_iff, List.forall₂_map_right_iff, List.forall₂_same]
  intro x hx
  obtain ⟨hclaim, -⟩ := List.mem_filter.mp hx
  rw [List.mem_zipIdx_iff_getElem?, getElem?_claims, Option.map_eq_some_iff] at hclaim
  obtain ⟨u, hu, hx⟩ := hclaim
  rw [← hx, ownedBy_claims]
  exact ⟨⟨u, hu, rfl, rfl, rfl, rfl, rfl⟩,
    ⟨_, inOrder_ownedAt units x.2, rfl, firstAppearances_eraseDups _⟩⟩

/-! ## Passes over the units

Merging as a program goes about it: a first pass enters the declarations into tables,
a second one looks up the owner of each unit, and a third one adds what the unit holds
at the position of its owner. -/

/-- The positions of declarations: under a qualified name the first one, under a type name
all of them. -/
structure Index where
  byPath : List (String × Nat) := []
  byName : List (String × List Nat) := []

namespace Index

def add (ix : Index) (u : TypeUnit) (i : Nat) : Index :=
  if u.declared then
    { byPath := enter u.qualifiedName i id ix.byPath
      byName := enter u.name [] (· ++ [i]) ix.byName }
  else ix

def ofUnits (units : List TypeUnit) : Index :=
  units.zipIdx.foldl (fun ix x => ix.add x.1 x.2) {}

/-- Where a unit goes, as the tables tell it. -/
def target (ix : Index) (u : TypeUnit) (i : Nat) : Nat :=
  if u.declared then i
  else
    match ix.byPath.lookup u.qualifiedName with
    | some j => j
    | none =>
      match ix.byName.lookup u.name with
      | some [j] => j
      | _ => i

theorem ofUnits_concat (units : List TypeUnit) (u : TypeUnit) :
    ofUnits (units ++ [u]) = (ofUnits units).add u units.length := by
  simp [ofUnits, List.zipIdx_append]

theorem lookup_byPath (units : List TypeUnit) (path : String) :
    (ofUnits units).byPath.lookup path =
      (declaredAt units (·.qualifiedName == path)).head? := by
  induction units using List.reverseRecOn with
  | nil => rfl
  | append_singleton units u ih =>
    rw [ofUnits_concat, declaredAt_concat, add]
    cases hd : u.declared with
    | false => simpa using ih
    | true =>
      rw [if_pos rfl, lookup_enter]
      by_cases hp : path = u.qualifiedName
      · subst hp
        rw [if_pos rfl, ih]
        cases declaredAt units (·.qualifiedName == u.qualifiedName) <;> simp
      · simp [hp, Ne.symm hp, ih]

theorem lookup_byName (units : List TypeUnit) (name : String) :
    (ofUnits units).byName.lookup name =
      match declaredAt units (·.name == name) with
      | [] => none
      | js => some js := by
  induction units using List.reverseRecOn with
  | nil => rfl
  | append_singleton units u ih =>
    rw [ofUnits_concat, declaredAt_concat, add]
    cases hd : u.declared with
    | false => simpa using ih
    | true =>
      rw [if_pos rfl, lookup_enter]
      by_cases hn : name = u.name
      · subst hn
        rw [if_pos rfl, ih]
        cases declaredAt units (·.name == u.name) <;> simp
      · simp [hn, Ne.symm hn, ih]

theorem target_ofUnits (units : List TypeUnit) (u : TypeUnit) (i : Nat) :
    (ofUnits units).target u i = owner units u i := by
  unfold target owner
  rw [lookup_byPath, lookup_byName]
  split
  · rfl
  · cases declaredAt units (·.qualifiedName == u.qualifiedName) with
    | cons j js => rfl
    | nil =>
      cases declaredAt units (·.name == u.name) with
      | nil => rfl
      | cons j js => cases js <;> rfl

end Index

/-- What a unit has taken over so far. -/
structure Held where
  constants : List String := []
  traits : List String := []

namespace Held

/-- Adds the constants of a unit, and those of its traits that are not there yet. -/
def add (h : Held) (u : TypeUnit) : Held where
  constants := h.constants ++ u.constants
  traits := u.traits.foldl (fun ts t => if t ∈ ts then ts else ts ++ [t]) h.traits

theorem foldl_eraseDups (l ts : List String) :
    ts.foldl (fun ts t => if t ∈ ts then ts else ts ++ [t]) l.eraseDups =
      (l ++ ts).eraseDups := by
  induction ts generalizing l with
  | nil => simp
  | cons t ts ih =>
    rw [List.foldl_cons, List.append_cons l t ts, ← ih, eraseDups_concat]
    simp only [List.mem_eraseDups]

theorem foldl_add (owned : List TypeUnit) : owned.foldl add {} =
    { constants := owned.flatMap TypeUnit.constants
      traits := (owned.flatMap TypeUnit.traits).eraseDups } := by
  induction owned using List.reverseRecOn with
  | nil => rfl
  | append_singleton owned u ih =>
    rw [List.foldl_append, ih]
    simp [add, foldl_eraseDups]

end Held

/-- Adds what each unit holds at the position of its owner. -/
def distribute (claimed : List (TypeUnit × Nat)) (held : List Held) : List Held :=
  claimed.foldl (fun held x => held.modify x.2 (·.add x.1)) held

theorem getElem?_distribute (claimed : List (TypeUnit × Nat)) (held : List Held) (i : Nat) :
    (distribute claimed held)[i]? = held[i]?.map ((ownedBy claimed i).foldl Held.add) := by
  induction claimed generalizing held with
  | nil => simp [distribute, ownedBy]
  | cons x claimed ih =>
    have hrest := ih (held.modify x.2 (·.add x.1))
    rw [List.getElem?_modify] at hrest
    refine hrest.trans ?_
    by_cases hx : x.2 = i
    · cases held[i]? <;> simp [ownedBy, hx]
    · cases held[i]? <;> simp [ownedBy, hx]

/-- Merging in passes over the units, with tables of the declarations and with what each
position has taken over so far. -/
def mergeInPasses (units : List TypeUnit) : List TypeUnit :=
  let index := Index.ofUnits units
  let targets := units.zipIdx.map fun (u, i) => index.target u i
  let held := distribute (units.zip targets) (List.replicate units.length {})
  units.zipIdx.filterMap fun (u, i) =>
    if targets[i]? = some i then
      held[i]?.map fun h => { u with constants := h.constants, traits := h.traits }
    else none

theorem zip_targets (units : List TypeUnit) :
    (units.zip (units.zipIdx.map fun (u, i) => (Index.ofUnits units).target u i)) =
      claims units := by
  conv_lhs => arg 1; rw [← List.zipIdx_map_fst 0 units]
  rw [List.zip_map']
  simp only [Index.target_ofUnits]
  rfl

/-- The passes come to what `merge` says at once. -/
theorem mergeInPasses_eq_merge (units : List TypeUnit) : mergeInPasses units = merge units := by
  have hclaims : (claims units).zipIdx =
      units.zipIdx.map fun x => ((x.1, owner units x.1 x.2), x.2) := by
    refine List.ext_getElem? fun i => ?_
    simp only [List.getElem?_zipIdx, List.getElem?_map, getElem?_claims]
    cases units[i]? <;> simp
  simp only [mergeInPasses, merge, zip_targets, hclaims, List.filterMap_map]
  refine List.filterMap_congr fun x hx => ?_
  obtain ⟨u, i⟩ := x
  have hu : units[i]? = some u := List.mem_zipIdx_iff_getElem?.mp hx
  have hi : i < units.length := (List.getElem?_eq_some_iff.mp hu).1
  have htarget : (units.zipIdx.map fun (u, i) => (Index.ofUnits units).target u i)[i]? =
      some (owner units u i) := by
    rw [List.getElem?_map, List.getElem?_zipIdx, hu, ← Index.target_ofUnits]
    simp
  have hheld : (distribute (claims units) (List.replicate units.length {}))[i]? =
      some ((ownedBy (claims units) i).foldl Held.add {}) := by
    rw [getElem?_distribute, List.getElem?_replicate, if_pos hi]
    rfl
  simp only [htarget, hheld, Held.foldl_add, Option.some.injEq]
  rfl

/-! ## Nothing is lost -/

theorem constants_perm (units : List TypeUnit) :
    ((merge units).flatMap constants).Perm (units.flatMap constants) := by
  have hkept := inOrder_kept units
  have hgroups : ((merge units).flatMap constants) =
      (((kept units).map (·.2)).flatMap fun i => (claims units).filter (·.2 == i)).flatMap
        fun x => x.1.constants := by
    rw [merge_eq_map, List.flatMap_map, List.flatMap_assoc, List.flatMap_map]
    refine congrArg List.flatten (List.map_congr_left fun x _ => ?_)
    exact List.flatMap_map _ _ _
  have hunits : (claims units).flatMap (fun x => x.1.constants) = units.flatMap constants := by
    conv_rhs => rw [← List.zipIdx_map_fst 0 units]
    rw [claims, List.flatMap_map, List.flatMap_map]
  rw [hgroups, ← hunits]
  refine (groups_perm Prod.snd (hkept.sorted.imp Nat.ne_of_lt) fun x hx => ?_).flatMap_right _
  -- the owner named in a claim keeps itself
  obtain ⟨i, hi⟩ := List.getElem?_of_mem hx
  rw [getElem?_claims, Option.map_eq_some_iff] at hi
  obtain ⟨u, hu, rfl⟩ := hi
  exact (hkept.mem_iff _).mpr (owns_owner hu).self

/-- **Merging.** For any units, each has one owner. What comes out are the units
that own themselves, in their order: name, modules, file, line and declaration
unchanged, with the constants of all units that they own, one after the other, and
with their traits, each once in order of first appearance. Declared units own
themselves, an owner owns itself, and the constants that come out are those that
went in. -/
theorem merge_by_owner (units : List TypeUnit) :
    (∀ i u, units[i]? = some u → ∃ j, Owns units j i ∧ ∀ k, Owns units k i → k = j) ∧
      (∃ ks, InOrder (fun k => Owns units k k) ks ∧
        List.Forall₂ (Gathers units) ks (merge units)) ∧
      (∀ i u, units[i]? = some u → u.declared = true → Owns units i i) ∧
      (∀ i j, Owns units j i → Owns units j j) ∧
      ((merge units).flatMap constants).Perm (units.flatMap constants) := by
  refine ⟨fun i u hu => ?_, ⟨_, inOrder_kept units, forall₂_merge units⟩,
    fun i u hu hd => .declared hu hd, fun i j h => h.self, constants_perm units⟩
  exact ⟨_, owns_owner hu, fun k hk => hk.unique (owns_owner hu)⟩

end TypeUnit

end EnumFamily
