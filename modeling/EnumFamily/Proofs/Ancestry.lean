import EnumFamily.Hierarchy
import EnumFamily.Proofs.ListOrder
import EnumFamily.Proofs.Reachability
import Mathlib.Data.List.Chain

/-!
# Ancestry is a chain of declarations

`Hierarchy` keeps one entry for each trait name and searches it. Here the answer
is put in terms of the declarations alone: a type has an ancestor exactly if a
chain of paths leads from a trait that it implements to one that agrees with
the ancestor, each path listed by a declaration of the trait that the path
before it names.

Results:
* `mem_supertraitsOf_ofDecls`: an entry holds what the declarations list.
* `mem_ancestry_iff`: ancestry is reachability from the implemented traits,
  whether they are declared or not.
* `implements_iff_chain`: the answer, and what follows from it: it does not
  depend on the order, the number or the division of the declarations, chains
  that go around in a cycle add nothing, and more declarations or more
  implemented traits never take an ancestor away.
-/
namespace EnumFamily.Hierarchy

/-- A declaration of the trait that the path `p` names lists `q` as a supertrait. -/
def Lists (ds : List TraitDecl) (p q : String) : Prop :=
  ∃ d ∈ ds, d.name = SymbolPath.lastSegment p ∧ q ∈ d.supertraits

/-! ## Entries -/

theorem mem_lookup_addTo (name n s : String) (sups : List String)
    (es : List (String × List String)) :
    s ∈ ((addTo name sups es).lookup n).getD [] ↔
      s ∈ (es.lookup n).getD [] ∨ name = n ∧ s ∈ sups := by
  induction es with
  | nil =>
    by_cases h : n = name
    · simp [addTo, h]
    · simp [addTo, lookup_cons_of_ne h, Ne.symm h]
  | cons e es ih =>
    obtain ⟨m, known⟩ := e
    simp only [addTo]
    by_cases hm : m = name
    · subst hm
      rw [if_pos rfl]
      by_cases h : n = m
      · simp [h]
      · simp [lookup_cons_of_ne h, Ne.symm h]
    · rw [if_neg hm]
      by_cases h : n = m
      · subst h
        simp [Ne.symm hm]
      · simpa [lookup_cons_of_ne h] using ih

theorem mem_supertraitsOf_foldl (ds : List TraitDecl) (h : Hierarchy) (p q : String) :
    q ∈ (ds.foldl add h).supertraitsOf p ↔ q ∈ h.supertraitsOf p ∨ Lists ds p q := by
  induction ds generalizing h with
  | nil => simp [Lists]
  | cons d ds ih =>
    rw [List.foldl_cons, ih]
    unfold add supertraitsOf
    rw [mem_lookup_addTo]
    simp only [Lists, List.mem_cons, exists_eq_or_imp, or_assoc]

theorem mem_supertraitsOf_ofDecls {ds : List TraitDecl} {p q : String} :
    q ∈ (ofDecls ds).supertraitsOf p ↔ Lists ds p q := by
  rw [ofDecls, mem_supertraitsOf_foldl]
  simp [empty, supertraitsOf]

theorem supertraitsOf_of_not_declared {h : Hierarchy} {p : String}
    (hp : h.isDeclared p = false) : h.supertraitsOf p = [] := by
  have hnone : h.entries.lookup (SymbolPath.lastSegment p) = none := by
    rw [List.lookup_eq_none_iff]
    intro e he
    have := List.any_eq_false.mp hp e he
    exact bne_iff_ne.mpr fun hk => this (by simp [hk])
  rw [supertraitsOf, hnone]
  rfl

/-! ## Ancestry -/

/-- An undeclared trait leads nowhere, so it does not matter that the search
does not start from it. -/
theorem mem_ancestry_iff {h : Hierarchy} {impl : List String} {p : String} :
    p ∈ h.ancestry impl ↔ ∃ r ∈ impl, h.graph.Reaches r p := by
  rw [ancestry, List.mem_eraseDups, List.mem_append, reachable, Graph.mem_reachableFrom_iff]
  constructor
  · rintro (⟨r, hr, -, hreach⟩ | hp)
    · exact ⟨r, hr, hreach⟩
    · exact ⟨p, hp, .refl p⟩
  · rintro ⟨r, hr, hreach⟩
    cases hd : h.isDeclared r with
    | true => exact Or.inl ⟨r, hr, hd, hreach⟩
    | false =>
      have hstay : ∀ q, h.graph.Reaches r q → q = r := by
        intro q hq
        induction hq with
        | refl => rfl
        | step _ hm ih =>
          subst ih
          have hnone : h.graph.neighbors _ = [] := supertraitsOf_of_not_declared hd
          rw [hnone] at hm
          exact absurd hm List.not_mem_nil
      exact Or.inr (hstay p hreach ▸ hr)

theorem implements_iff_reaches {h : Hierarchy} {impl : List String} {a : String} :
    h.implements impl a = true ↔
      ∃ r ∈ impl, ∃ p, h.graph.Reaches r p ∧ SymbolPath.agree p a = true := by
  simp only [implements, List.any_eq_true, mem_ancestry_iff]
  constructor
  · rintro ⟨p, ⟨r, hr, hreach⟩, ha⟩
    exact ⟨r, hr, p, hreach, ha⟩
  · rintro ⟨r, hr, p, hreach, ha⟩
    exact ⟨p, ⟨r, hr, hreach⟩, ha⟩

/-! ## Chains -/

theorem reaches_of_chain {h : Hierarchy} {R : String → String → Prop}
    (hR : ∀ p q, R p q → q ∈ h.graph.neighbors p) {p : String} {ps : List String}
    (hc : (p :: ps).IsChain R) :
    h.graph.Reaches p ((p :: ps).getLast (List.cons_ne_nil p ps)) := by
  induction ps generalizing p with
  | nil => exact .refl p
  | cons q qs ih =>
    obtain ⟨hpq, hqs⟩ := List.isChain_cons_cons.mp hc
    rw [List.getLast_cons_cons]
    exact (Graph.Reaches.step (.refl p) (hR p q hpq)).trans (ih hqs)

/-- What is reached is reached by a chain that meets no path twice: a path that
is met again closes a cycle, which is cut out. -/
theorem exists_simple_chain {h : Hierarchy} {R : String → String → Prop}
    (hR : ∀ p q, q ∈ h.graph.neighbors p → R p q) {r p : String} (hreach : h.graph.Reaches r p) :
    ∃ l : List String, l.head? = some r ∧ l.getLast? = some p ∧ l.IsChain R ∧ l.Nodup := by
  induction hreach with
  | refl => exact ⟨[r], rfl, rfl, .singleton r, by simp⟩
  | @step b c _ hc ih =>
    obtain ⟨l, hhead, hlast, hchain, hnodup⟩ := ih
    by_cases hmem : c ∈ l
    · obtain ⟨l₁, l₂, rfl⟩ := List.append_of_mem hmem
      rw [List.append_cons] at hhead hchain hnodup
      have hshort : (l₁ ++ [c]).Nodup := hnodup.sublist (List.sublist_append_left _ l₂)
      refine ⟨l₁ ++ [c], ?_, by simp, hchain.left_of_append, hshort⟩
      cases l₁ with
      | nil => exact hhead
      | cons a l₁ => exact hhead
    · refine ⟨l ++ [c], ?_, by simp, ?_, ?_⟩
      · rw [List.head?_append, hhead]
        rfl
      · refine hchain.append (.singleton c) fun x hx y hy => ?_
        rw [hlast] at hx
        cases hx
        cases hy
        exact hR b c hc
      · refine List.nodup_append.mpr ⟨hnodup, by simp, fun x hx y hy hxy => ?_⟩
        rw [hxy, List.mem_singleton.mp hy] at hx
        exact hmem hx

theorem implements_of_chain {ds : List TraitDecl} {impl : List String} {a p : String}
    {ps : List String} (hp : p ∈ impl) (hc : (p :: ps).IsChain (Lists ds))
    (ha : SymbolPath.agree ((p :: ps).getLast (List.cons_ne_nil p ps)) a = true) :
    (ofDecls ds).implements impl a = true :=
  implements_iff_reaches.mpr
    ⟨p, hp, _, reaches_of_chain (fun _ _ => mem_supertraitsOf_ofDecls.mpr) hc, ha⟩

theorem simple_chain_of_implements {ds : List TraitDecl} {impl : List String} {a : String}
    (h : (ofDecls ds).implements impl a = true) :
    ∃ p ∈ impl, ∃ ps, (p :: ps).IsChain (Lists ds) ∧ (p :: ps).Nodup ∧
      SymbolPath.agree ((p :: ps).getLast (List.cons_ne_nil p ps)) a = true := by
  obtain ⟨r, hr, q, hreach, ha⟩ := implements_iff_reaches.mp h
  obtain ⟨l, hhead, hlast, hchain, hnodup⟩ :=
    exists_simple_chain (fun _ _ => mem_supertraitsOf_ofDecls.mp) hreach
  cases l with
  | nil => cases hhead
  | cons p ps =>
    obtain rfl : p = r := Option.some.inj hhead
    rw [List.getLast?_eq_some_getLast (List.cons_ne_nil p ps), Option.some.injEq] at hlast
    exact ⟨p, hr, ps, hchain, hnodup, hlast ▸ ha⟩

/-- Whatever the first declarations list, the second ones list: no ancestor is lost. -/
theorem implements_mono {ds ds' : List TraitDecl} {impl impl' : List String} {a : String}
    (hds : ∀ p q, Lists ds p q → Lists ds' p q) (himpl : impl ⊆ impl')
    (h : (ofDecls ds).implements impl a = true) : (ofDecls ds').implements impl' a = true := by
  obtain ⟨p, hp, ps, hchain, -, ha⟩ := simple_chain_of_implements h
  exact implements_of_chain (himpl hp) (hchain.imp hds) ha

theorem Lists.mono {ds ds' : List TraitDecl} (h : ds ⊆ ds') {p q : String}
    (hl : Lists ds p q) : Lists ds' p q := by
  obtain ⟨d, hd, hn, hq⟩ := hl
  exact ⟨d, h hd, hn, hq⟩

theorem implements_congr {ds ds' : List TraitDecl} (h : ∀ p q, Lists ds p q ↔ Lists ds' p q)
    (impl : List String) (a : String) :
    (ofDecls ds').implements impl a = (ofDecls ds).implements impl a := by
  rw [Bool.eq_iff_iff]
  exact ⟨implements_mono (fun p q => (h p q).mpr) (List.Subset.refl impl),
    implements_mono (fun p q => (h p q).mp) (List.Subset.refl impl)⟩

theorem implements_eq_of_mem_iff {ds ds' : List TraitDecl} (h : ∀ d, d ∈ ds' ↔ d ∈ ds)
    (impl : List String) (a : String) :
    (ofDecls ds').implements impl a = (ofDecls ds).implements impl a := by
  refine implements_congr (fun p q => ⟨?_, ?_⟩) impl a
  · exact Lists.mono fun d => (h d).mpr
  · exact Lists.mono fun d => (h d).mp

/-- **Ancestry.** A type that implements `impl` has `a` in its ancestry exactly
if a chain of declarations leads from a trait of `impl` to a path that agrees
with `a`; the chain can be taken without repetition, so cycles add nothing.
Hence the answer is the same for declarations that list the same supertraits:
for the same declarations in any order and number, and for a trait whose
supertraits are divided over several declarations. More declarations and more
implemented traits only add ancestors. -/
theorem implements_iff_chain (ds : List TraitDecl) (impl : List String) (a : String) :
    ((ofDecls ds).implements impl a = true ↔
      ∃ p ∈ impl, ∃ ps, (p :: ps).IsChain (Lists ds) ∧
        SymbolPath.agree ((p :: ps).getLast (List.cons_ne_nil p ps)) a = true) ∧
    ((ofDecls ds).implements impl a = true ↔
      ∃ p ∈ impl, ∃ ps, (p :: ps).IsChain (Lists ds) ∧ (p :: ps).Nodup ∧
        SymbolPath.agree ((p :: ps).getLast (List.cons_ne_nil p ps)) a = true) ∧
    (∀ ds', (∀ d, d ∈ ds' ↔ d ∈ ds) →
      (ofDecls ds').implements impl a = (ofDecls ds).implements impl a) ∧
    (∀ ds', (∀ p q, Lists ds p q ↔ Lists ds' p q) →
      (ofDecls ds').implements impl a = (ofDecls ds).implements impl a) ∧
    (∀ d xs ys, d.supertraits = xs ++ ys →
      ((((ofDecls ds).add { d with supertraits := xs }).add { d with supertraits := ys }).implements
        impl a) = ((ofDecls ds).add d).implements impl a) ∧
    (∀ ds' impl', ds ⊆ ds' → impl ⊆ impl' → (ofDecls ds).implements impl a = true →
      (ofDecls ds').implements impl' a = true) := by
  refine ⟨⟨fun h => ?_, ?_⟩, ⟨simple_chain_of_implements, ?_⟩, fun ds' h => ?_, fun ds' h => ?_,
    ?_, ?_⟩
  · obtain ⟨p, hp, ps, hchain, -, ha⟩ := simple_chain_of_implements h
    exact ⟨p, hp, ps, hchain, ha⟩
  · rintro ⟨p, hp, ps, hchain, ha⟩
    exact implements_of_chain hp hchain ha
  · rintro ⟨p, hp, ps, hchain, -, ha⟩
    exact implements_of_chain hp hchain ha
  · exact implements_eq_of_mem_iff h impl a
  · exact implements_congr h impl a
  · intro d xs ys hd
    have hjoin : ∀ es, ofDecls (ds ++ es) = es.foldl add (ofDecls ds) := fun es =>
      List.foldl_append
    have hsame : ∀ p q, Lists (ds ++ [d]) p q ↔
        Lists (ds ++ [{ d with supertraits := xs }, { d with supertraits := ys }]) p q := by
      intro p q
      simp only [Lists, List.mem_append, List.mem_cons, List.not_mem_nil, or_false, or_and_right,
        exists_or, exists_eq_left, hd, and_or_left]
    have := implements_congr hsame impl a
    rwa [hjoin, hjoin] at this
  · intro ds' impl' hds himpl
    exact implements_mono (fun p q => Lists.mono hds) himpl

/-- Two traits that list each other, declared in either order and one of them twice. -/
theorem implements_of_cycle :
    (ofDecls [⟨"A", "crate::A", ["m::B"]⟩, ⟨"B", "crate::m::B", ["crate::A"]⟩]).implements
        ["x::A"] "B" = true ∧
      (ofDecls [⟨"B", "crate::m::B", ["crate::A"]⟩, ⟨"A", "crate::A", ["m::B"]⟩,
        ⟨"B", "crate::m::B", ["crate::A"]⟩]).implements ["x::A"] "B" = true := by
  have h := implements_iff_chain
    [⟨"A", "crate::A", ["m::B"]⟩, ⟨"B", "crate::m::B", ["crate::A"]⟩] ["x::A"] "B"
  have hstep : Lists [⟨"A", "crate::A", ["m::B"]⟩, ⟨"B", "crate::m::B", ["crate::A"]⟩]
      "x::A" "m::B" := ⟨_, List.mem_cons_self, by decide, List.mem_cons_self⟩
  have htrue := h.1.mpr
    ⟨"x::A", List.mem_cons_self, ["m::B"], List.isChain_pair.mpr hstep, by decide⟩
  refine ⟨htrue, (h.2.2.1 _ fun d => ?_).trans htrue⟩
  simp only [List.mem_cons, List.not_mem_nil, or_false]
  constructor
  · rintro (rfl | rfl | rfl) <;> simp
  · rintro (rfl | rfl) <;> simp

end EnumFamily.Hierarchy
