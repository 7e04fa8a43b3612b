import Mathlib.Data.List.Nodup
import EnumFamily.Proofs.Merging
import EnumFamily.Proofs.PathSegments

/-!
# Laws of merging

Owners are found by position, and positions change when units are left out. Here
units carry a place with them: `mergeIn` merges units at any places, and only which
places are equal matters. So a merge can be compared with one of fewer units.

Results:
* `mergeIn_eq_merge`: units at distinct places are merged as if they stood one after
  the other.
* `merge_named`: units of one type name are merged among themselves.
* `merge_eq_self`: units that all keep themselves stay as they are.
* `merge_merge`: which is so after a merge.
-/
namespace EnumFamily.TypeUnit

/-! ## Units at places -/

/-- The places of the declared units that satisfy `p`. -/
def declaredIn (placed : List (TypeUnit × Nat)) (p : TypeUnit → Bool) : List Nat :=
  (placed.filter fun x => x.1.declared && p x.1).map (·.2)

/-- The place of the owner of a unit, as `owner` for positions. -/
def ownerIn (placed : List (TypeUnit × Nat)) (x : TypeUnit × Nat) : Nat :=
  if x.1.declared then x.2
  else
    match declaredIn placed (·.qualifiedName == x.1.qualifiedName) with
    | j :: _ => j
    | [] =>
      match declaredIn placed (·.name == x.1.name) with
      | [j] => j
      | _ => x.2

/-- The units that go to place `i`. -/
def ownedIn (placed : List (TypeUnit × Nat)) (i : Nat) : List TypeUnit :=
  (placed.filter fun y => ownerIn placed y == i).map (·.1)

def mergeIn (placed : List (TypeUnit × Nat)) : List TypeUnit :=
  (placed.filter fun x => ownerIn placed x == x.2).map fun x => x.1.gather (ownedIn placed x.2)

theorem merge_eq_mergeIn (units : List TypeUnit) : merge units = mergeIn units.zipIdx := by
  have hclaims : (claims units).zipIdx =
      units.zipIdx.map fun x => ((x.1, owner units x.1 x.2), x.2) := by
    refine List.ext_getElem? fun i => ?_
    rw [List.getElem?_zipIdx, getElem?_claims, List.getElem?_map, List.getElem?_zipIdx]
    simp [Function.comp_def]
  have howned : ∀ i, ownedBy (claims units) i = ownedIn units.zipIdx i := by
    intro i
    rw [ownedBy, claims, List.filter_map, List.map_map]
    rfl
  rw [merge_eq_map, kept, hclaims, List.filter_map, List.map_map]
  simp only [Function.comp_def, howned]
  rfl

section
variable {placed : List (TypeUnit × Nat)}

theorem mem_declaredIn_iff {p : TypeUnit → Bool} {j : Nat} :
    j ∈ declaredIn placed p ↔
      ∃ x ∈ placed, (x.1.declared = true ∧ p x.1 = true) ∧ x.2 = j := by
  simp only [declaredIn, List.mem_map, List.mem_filter, Bool.and_eq_true, and_assoc]

/-- The owner is one of the units, of the same qualified name or the same type name. -/
theorem exists_owner {x : TypeUnit × Nat} (hx : x ∈ placed) :
    ∃ y ∈ placed, y.2 = ownerIn placed x ∧
      (y.1.qualifiedName = x.1.qualifiedName ∨ y.1.name = x.1.name) := by
  unfold ownerIn
  split
  · exact ⟨x, hx, rfl, Or.inl rfl⟩
  · split
    · rename_i j js hpath
      obtain ⟨y, hy, ⟨-, hname⟩, rfl⟩ := mem_declaredIn_iff.mp (hpath ▸ List.mem_cons_self)
      exact ⟨y, hy, rfl, Or.inl (beq_iff_eq.mp hname)⟩
    · split
      · rename_i j hone
        obtain ⟨y, hy, ⟨-, hname⟩, rfl⟩ := mem_declaredIn_iff.mp (hone ▸ List.mem_cons_self)
        exact ⟨y, hy, rfl, Or.inr (beq_iff_eq.mp hname)⟩
      · exact ⟨x, hx, rfl, Or.inl rfl⟩

/-! ## Other places -/

theorem declaredIn_map (f : Nat → Nat) (p : TypeUnit → Bool) :
    declaredIn (placed.map (Prod.map id f)) p = (declaredIn placed p).map f := by
  simp [declaredIn, List.filter_map, Function.comp_def]

theorem ownerIn_map (f : Nat → Nat) (x : TypeUnit × Nat) :
    ownerIn (placed.map (Prod.map id f)) (Prod.map id f x) = f (ownerIn placed x) := by
  unfold ownerIn
  simp only [declaredIn_map, Prod.map_fst, Prod.map_snd, id_eq]
  cases x.1.declared with
  | true => rfl
  | false =>
    cases declaredIn placed (·.qualifiedName == x.1.qualifiedName) with
    | cons j js => rfl
    | nil =>
      cases declaredIn placed (·.name == x.1.name) with
      | nil => rfl
      | cons j js => cases js <;> rfl

/-- Places are only compared, so that others will do. -/
theorem mergeIn_map {f : Nat → Nat}
    (hf : ∀ x ∈ placed, ∀ y ∈ placed, f x.2 = f y.2 → x.2 = y.2) :
    mergeIn (placed.map (Prod.map id f)) = mergeIn placed := by
  have hsame : ∀ x ∈ placed, ∀ y ∈ placed,
      (ownerIn (placed.map (Prod.map id f)) (Prod.map id f y) == f x.2) =
        (ownerIn placed y == x.2) := by
    intro x hx y hy
    obtain ⟨o, ho, hown, -⟩ := exists_owner hy
    rw [ownerIn_map, ← hown, Bool.eq_iff_iff, beq_iff_eq, beq_iff_eq]
    exact ⟨hf o ho x hx, congrArg f⟩
  have howned : ∀ x ∈ placed, ownedIn (placed.map (Prod.map id f)) (f x.2) =
      ownedIn placed x.2 := by
    intro x hx
    simp only [ownedIn, List.filter_map, List.map_map, Function.comp_def, Prod.map_fst, id_eq]
    rw [List.filter_congr (hsame x hx)]
  simp only [mergeIn, List.filter_map, List.map_map, Function.comp_def, Prod.map_fst,
    Prod.map_snd, id_eq]
  rw [List.filter_congr fun x hx => hsame x hx x hx]
  refine List.map_congr_left fun x hx => ?_
  exact congrArg x.1.gather (howned x (List.mem_filter.mp hx).1)

/-- Units at distinct places are merged like a list of them. -/
theorem mergeIn_eq_merge (hplaces : (placed.map (·.2)).Nodup) :
    mergeIn placed = merge (placed.map (·.1)) := by
  have hplaced : placed =
      (placed.map (·.1)).zipIdx.map (Prod.map id fun i => (placed.map (·.2))[i]?.getD 0) := by
    refine List.ext_getElem? fun i => ?_
    rw [List.getElem?_map, List.getElem?_zipIdx, List.getElem?_map]
    cases h : placed[i]? with
    | none => rfl
    | some x => simp [h]
  rw [merge_eq_mergeIn]
  conv_lhs => rw [hplaced]
  refine mergeIn_map fun x hx y hy heq => ?_
  have hlt : ∀ z ∈ (placed.map (·.1)).zipIdx, z.2 < (placed.map (·.2)).length := by
    intro z hz
    simpa using List.snd_lt_of_mem_zipIdx hz
  rw [List.getElem?_eq_getElem (hlt x hx), List.getElem?_eq_getElem (hlt y hy)] at heq
  exact (List.getElem_inj hplaces).mp heq

/-! ## Units of one name -/

/-- Other units than those asked for may be left out of the search for declarations. -/
theorem declaredIn_filter {p : TypeUnit → Bool} {keep : TypeUnit × Nat → Bool}
    (h : ∀ x ∈ placed, p x.1 = true → keep x = true) :
    declaredIn (placed.filter keep) p = declaredIn placed p := by
  unfold declaredIn
  rw [List.filter_filter]
  refine congrArg _ (List.filter_congr fun x hx => ?_)
  cases hp : p x.1 with
  | true => rw [h x hx hp, Bool.and_true]
  | false => rw [Bool.and_false, Bool.false_and]

section
variable (hfree : ∀ x ∈ placed, x.1.ColonFree)
include hfree

theorem ownerIn_filter_name {x : TypeUnit × Nat} (hx : x ∈ placed) {n : String}
    (hn : x.1.name = n) :
    ownerIn (placed.filter (·.1.name == n)) x = ownerIn placed x := by
  unfold ownerIn
  rw [declaredIn_filter fun y hy hpath => ?_, declaredIn_filter fun y _ hname => ?_]
  · rw [← hn]
    exact hname
  · -- a qualified name without colons ends in the type name
    have hname := (hfree y hy).name_eq (hfree x hx) (beq_iff_eq.mp hpath)
    rw [hname, hn, beq_self_eq_true]

variable (hplaces : (placed.map (·.2)).Nodup)
include hplaces

/-- Units go to an owner of their own name. -/
theorem name_eq_of_ownerIn {x y : TypeUnit × Nat} (hx : x ∈ placed) (hy : y ∈ placed)
    (h : ownerIn placed y = x.2) : y.1.name = x.1.name := by
  obtain ⟨o, ho, hown, hname⟩ := exists_owner hy
  obtain rfl : o = x := List.inj_on_of_nodup_map hplaces ho hx (hown.trans h)
  rcases hname with hpath | hname
  · exact ((hfree o ho).name_eq (hfree y hy) hpath).symm
  · exact hname.symm

theorem ownedIn_filter_name {x : TypeUnit × Nat} (hx : x ∈ placed) {n : String}
    (hn : x.1.name = n) : ownedIn (placed.filter (·.1.name == n)) x.2 = ownedIn placed x.2 := by
  unfold ownedIn
  rw [List.filter_filter]
  refine congrArg _ (List.filter_congr fun y hy => ?_)
  by_cases hname : y.1.name = n
  · rw [ownerIn_filter_name hfree hy hname, hname, beq_self_eq_true, Bool.and_true]
  · have hother : ownerIn placed y ≠ x.2 := fun h =>
      hname ((name_eq_of_ownerIn hfree hplaces hx hy h).trans hn)
    rw [beq_eq_false_iff_ne.mpr hname, Bool.and_false, beq_eq_false_iff_ne.mpr hother]

theorem mergeIn_filter_name (n : String) :
    (mergeIn placed).filter (·.name == n) = mergeIn (placed.filter (·.1.name == n)) := by
  have hkeep : (placed.filter fun x => ownerIn placed x == x.2).filter (·.1.name == n) =
      (placed.filter (·.1.name == n)).filter fun x =>
        ownerIn (placed.filter (·.1.name == n)) x == x.2 := by
    rw [List.filter_filter, List.filter_filter]
    refine List.filter_congr fun x hx => ?_
    by_cases hname : x.1.name = n
    · rw [ownerIn_filter_name hfree hx hname, Bool.and_comm]
    · rw [beq_eq_false_iff_ne.mpr hname, Bool.false_and, Bool.and_false]
  unfold mergeIn
  rw [List.filter_map, ← hkeep]
  refine List.map_congr_left fun x hx => ?_
  obtain ⟨hx, hname⟩ := List.mem_filter.mp hx
  have hx := (List.mem_filter.mp hx).1
  rw [ownedIn_filter_name hfree hplaces hx (beq_iff_eq.mp hname)]

end

end

theorem nodup_places (units : List TypeUnit) : (units.zipIdx.map (·.2)).Nodup := by
  rw [List.zipIdx_map_snd]
  exact List.nodup_range'

theorem merge_filter_name {units : List TypeUnit} (hfree : ∀ u ∈ units, u.ColonFree) (n : String) :
    (merge units).filter (·.name == n) = merge (units.filter (·.name == n)) := by
  have hplaced : ∀ x ∈ units.zipIdx, x.1.ColonFree := fun x hx =>
    hfree x.1 (List.fst_mem_of_mem_zipIdx hx)
  have hplaces : ((units.zipIdx.filter (·.1.name == n)).map (·.2)).Nodup :=
    (nodup_places units).sublist (List.filter_sublist.map _)
  have hunits : (units.zipIdx.filter (·.1.name == n)).map (·.1) = units.filter (·.name == n) := by
    conv_rhs => rw [← List.zipIdx_map_fst 0 units, List.filter_map]
    rfl
  rw [merge_eq_mergeIn, mergeIn_filter_name hplaced (nodup_places units),
    mergeIn_eq_merge hplaces, hunits]

/-- **Merging is local.** If no unit holds a colon in its name or its modules, the
merged units of a type name are, in order, what merging the units of that name alone
gives. So units of other names do not matter: with others in their place, at the same
or at other positions, the merged units of the name are the same. -/
theorem merge_named {units : List TypeUnit} (hfree : ∀ u ∈ units, u.ColonFree) (n : String) :
    (merge units).filter (·.name == n) = merge (units.filter (·.name == n)) ∧
    ∀ units' : List TypeUnit, (∀ u ∈ units', u.ColonFree) →
      units'.filter (·.name == n) = units.filter (·.name == n) →
      (merge units').filter (·.name == n) = (merge units).filter (·.name == n) := by
  refine ⟨merge_filter_name hfree n, fun units' hfree' hsame => ?_⟩
  rw [merge_filter_name hfree', hsame, merge_filter_name hfree]

/-- An order, with constants and an implementation in two more files, among other units. -/
def scattered : List TypeUnit :=
  [⟨"Order", ["consts"], "src/consts.rs", 1, ["STATE_NEW"], [], false⟩,
    ⟨"Item", ["model"], "src/model.rs", 1, ["KIND_BOOK"], [], true⟩,
    ⟨"Order", ["model"], "src/model.rs", 2, [], ["Sealed"], true⟩,
    ⟨"Order", ["traits"], "src/traits.rs", 5, [], ["Entity", "Sealed"], false⟩]

/-- The order is the same with one more item in front and the other one gone. -/
theorem scattered_named :
    (∀ u ∈ scattered, u.ColonFree) ∧
      (merge scattered).filter (·.name == "Order") =
        [⟨"Order", ["model"], "src/model.rs", 2, ["STATE_NEW"], ["Sealed", "Entity"], true⟩] ∧
      (merge (⟨"Item", ["a"], "src/a.rs", 1, [], [], false⟩ :: scattered.eraseIdx 1)).filter
          (·.name == "Order") =
        [⟨"Order", ["model"], "src/model.rs", 2, ["STATE_NEW"], ["Sealed", "Entity"], true⟩] := by
  have hfree : ∀ u ∈ scattered, u.ColonFree := by decide
  obtain ⟨hlocal, hother⟩ := merge_named hfree "Order"
  have horder : merge (scattered.filter (·.name == "Order")) =
      [⟨"Order", ["model"], "src/model.rs", 2, ["STATE_NEW"], ["Sealed", "Entity"], true⟩] := by
    decide
  refine ⟨hfree, hlocal.trans horder, (hother _ (by decide) (by decide)).trans ?_⟩
  exact hlocal.trans horder

/-! ## A second merge -/

/-- At distinct places there is one unit at each. -/
theorem filter_place {placed : List (TypeUnit × Nat)} (hplaces : (placed.map (·.2)).Nodup)
    {x : TypeUnit × Nat} (hx : x ∈ placed) : placed.filter (·.2 == x.2) = [x] := by
  have hsame : placed.filter (·.2 == x.2) = placed.filter (· == x) := by
    refine List.filter_congr fun y hy => ?_
    rw [Bool.eq_iff_iff, beq_iff_eq, beq_iff_eq]
    exact ⟨List.inj_on_of_nodup_map hplaces hy hx, congrArg Prod.snd⟩
  rw [hsame, List.filter_beq, List.count_eq_one_of_mem hplaces.of_map hx]
  rfl

theorem gather_self {u : TypeUnit} (h : u.traits.Nodup) : u.gather [u] = u := by
  simp [gather, eraseDups_of_nodup h]

/-- Where each unit keeps itself, there is nothing to merge. -/
theorem merge_eq_self {units : List TypeUnit} (hself : ∀ i u, units[i]? = some u → Owns units i i)
    (htraits : ∀ u ∈ units, u.traits.Nodup) : merge units = units := by
  have howner : ∀ x ∈ units.zipIdx, ownerIn units.zipIdx x = x.2 := by
    intro x hx
    have hu := List.mem_zipIdx_iff_getElem?.mp hx
    exact (hself x.2 x.1 hu).owner_eq hu
  have howned : ∀ x ∈ units.zipIdx, ownedIn units.zipIdx x.2 = [x.1] := by
    intro x hx
    rw [ownedIn, List.filter_congr fun y hy => by rw [howner y hy],
      filter_place (nodup_places units) hx]
    rfl
  rw [merge_eq_mergeIn, mergeIn, List.filter_eq_self.mpr fun x hx => by simp [howner x hx]]
  conv_rhs => rw [← List.zipIdx_map_fst 0 units]
  refine List.map_congr_left fun x hx => ?_
  rw [howned x hx, gather_self (htraits x.1 (List.fst_mem_of_mem_zipIdx hx))]

section
variable {units : List TypeUnit}

theorem exists_gathers_of_merge {k : Nat} {m : TypeUnit} (hm : (merge units)[k]? = some m) :
    ∃ i, ((kept units).map (·.2))[k]? = some i ∧ Owns units i i ∧ Gathers units i m := by
  obtain ⟨hlen, hgathers⟩ := List.forall₂_iff_get.mp (forall₂_merge units)
  obtain ⟨hk, rfl⟩ := List.getElem?_eq_some_iff.mp hm
  have hk' : k < ((kept units).map (·.2)).length := hlen ▸ hk
  have hi := List.getElem?_eq_getElem hk'
  exact ⟨_, hi, ((inOrder_kept units).mem_iff _).mp (List.mem_of_getElem? hi), hgathers k hk' hk⟩

/-- Every unit that keeps itself comes out of a merge. -/
theorem exists_merge_of_owns {i : Nat} (h : Owns units i i) :
    ∃ (k : Nat) (m : TypeUnit), ((kept units).map (·.2))[k]? = some i ∧
      (merge units)[k]? = some m ∧ Gathers units i m := by
  obtain ⟨k, hk⟩ := List.getElem?_of_mem (((inOrder_kept units).mem_iff i).mpr h)
  obtain ⟨hlen, hgathers⟩ := List.forall₂_iff_get.mp (forall₂_merge units)
  obtain ⟨hk', hi⟩ := List.getElem?_eq_some_iff.mp hk
  have hk'' : k < (merge units).length := hlen ▸ hk'
  exact ⟨k, _, hk, List.getElem?_eq_getElem hk'', hi ▸ hgathers k hk' hk''⟩

variable {P : TypeUnit → Prop}
  (hP : ∀ u m : TypeUnit, m.name = u.name → m.modules = u.modules → (P m ↔ P u))
include hP

theorem DeclaredAt.of_merge {k : Nat} (h : DeclaredAt (merge units) P k) :
    ∃ i, ((kept units).map (·.2))[k]? = some i ∧ DeclaredAt units P i := by
  obtain ⟨m, hm, hdecl, hPm⟩ := h
  obtain ⟨i, hi, -, ⟨u, hu, hname, hmodules, -, -, hdeclared⟩, -⟩ := exists_gathers_of_merge hm
  exact ⟨i, hi, u, hu, hdeclared ▸ hdecl, (hP u m hname hmodules).mp hPm⟩

theorem DeclaredAt.merge {i : Nat} (h : DeclaredAt units P i) :
    ∃ k, ((kept units).map (·.2))[k]? = some i ∧ DeclaredAt (merge units) P k := by
  obtain ⟨u, hu, hdecl, hPu⟩ := h
  obtain ⟨k, m, hk, hm, ⟨u', hu', hname, hmodules, -, -, hdeclared⟩, -⟩ :=
    exists_merge_of_owns (.declared hu hdecl)
  cases hu.symm.trans hu'
  exact ⟨k, hk, m, hm, hdeclared.trans hdecl, (hP u m hname hmodules).mpr hPu⟩

/-- A merge makes no declaration the only one. -/
theorem OnlyDeclared.of_merge {k : Nat} (h : OnlyDeclared (merge units) P k) :
    ∃ i, OnlyDeclared units P i := by
  obtain ⟨hk, honly⟩ := h
  obtain ⟨i, hi, hdeclared⟩ := hk.of_merge hP
  refine ⟨i, hdeclared, fun j hj => ?_⟩
  obtain ⟨k', hk', hmerged⟩ := hj.merge hP
  rw [honly k' hmerged, hi] at hk'
  exact (Option.some.inj hk').symm

end

/-- A unit that is not declared keeps itself only if there is no declaration for it. -/
theorem Owns.alone_of_self {units : List TypeUnit} {i : Nat} {u : TypeUnit} (h : Owns units i i)
    (hu : units[i]? = some u) (hdecl : u.declared = false) :
    (∀ k, ¬ DeclaredAt units (·.qualifiedName = u.qualifiedName) k) ∧
      ∀ j, ¬ OnlyDeclared units (·.name = u.name) j := by
  have hnot : ∀ P, ¬ DeclaredAt units P i := by
    rintro P ⟨d, hd, hdecl', -⟩
    cases hu.symm.trans hd
    rw [hdecl] at hdecl'
    cases hdecl'
  cases h with
  | declared hu' hdecl' => exact absurd ⟨_, hu', hdecl', trivial⟩ (hnot fun _ => True)
  | path _ _ hfirst => exact absurd hfirst.1 (hnot _)
  | name _ _ _ honly => exact absurd honly.1 (hnot _)
  | alone hu' _ hnone hmany =>
    cases hu.symm.trans hu'
    exact ⟨hnone, hmany⟩

/-- After a merge each unit keeps itself: no declaration for it has come up. -/
theorem owns_self_merge (units : List TypeUnit) {k : Nat} {m : TypeUnit}
    (hm : (merge units)[k]? = some m) : Owns (merge units) k k := by
  obtain ⟨i, -, hown, ⟨u, hu, hname, hmodules, -, -, hdeclared⟩, -⟩ := exists_gathers_of_merge hm
  have hpath : ∀ v w : TypeUnit, w.name = v.name → w.modules = v.modules →
      w.qualifiedName = v.qualifiedName := by
    intro v w hn hms
    rw [qualifiedName, hn, hms, qualifiedName]
  cases hdecl : m.declared with
  | true => exact .declared hm hdecl
  | false =>
    obtain ⟨hnone, hmany⟩ := hown.alone_of_self hu (hdeclared ▸ hdecl)
    refine .alone hm hdecl (fun k' hk' => ?_) fun j hj => ?_
    · rw [hpath u m hname hmodules] at hk'
      obtain ⟨i', -, hi'⟩ := hk'.of_merge fun v w hn hms => by rw [hpath v w hn hms]
      exact hnone i' hi'
    · rw [hname] at hj
      obtain ⟨i', hi'⟩ := hj.of_merge fun v w hn _ => by rw [hn]
      exact hmany i' hi'

/-- **A second merge changes nothing**, whatever the units. -/
theorem merge_merge (units : List TypeUnit) : merge (merge units) = merge units := by
  refine merge_eq_self (fun k m hm => owns_self_merge units hm) fun m hm => ?_
  obtain ⟨k, hk⟩ := List.getElem?_of_mem hm
  obtain ⟨i, -, -, -, ks, -, -, htraits⟩ := exists_gathers_of_merge hk
  exact htraits.nodup

end EnumFamily.TypeUnit
