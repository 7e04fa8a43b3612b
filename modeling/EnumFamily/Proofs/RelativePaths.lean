import EnumFamily.Proofs.Descent

/-!
# What is left of a path

A path is a text, which may have dots and repeated slashes in it. What is left of it
below another path is cut out of this text and then read as a path of its own. Here
the cutting is followed on the pieces of the text: what is left stands for the
components that are left, however both paths are spelled.

Results:
* `components_spell`: pieces that were spelled out are read back.
* `exists_relativeTo`: what is left of a path whose components start with those of
  another one.
* `LiesAt.exists_relativeTo`, `LiesAt.relativeTo_join_eq_none`: the same for a file
  that names lead to from a root (`LiesAt`).
-/
namespace EnumFamily

namespace FilePath

/-! ## Pieces that are left -/

theorem not_mem_of_mem_splitAt {sep : Char} {s p : List Char} (h : p ∈ splitAt sep s) :
    sep ∉ p := by
  induction s generalizing p with
  | nil =>
    rw [splitAt, List.mem_singleton] at h
    simp [h]
  | cons c s ih =>
    obtain ⟨q, qs, hq⟩ := List.exists_cons_of_ne_nil (splitAt_ne_nil sep s)
    rw [splitAt, hq] at h
    rw [hq] at ih
    by_cases hc : c = sep
    · simp only [if_pos hc] at h
      rcases List.mem_cons.mp h with rfl | h
      · simp
      · exact ih h
    · simp only [if_neg hc] at h
      rcases List.mem_cons.mp h with rfl | h
      · simpa [Ne.symm hc] using ih List.mem_cons_self
      · exact ih (List.mem_cons_of_mem q h)

/-- A piece as it stands behind the first slash of a path. -/
structure Inner (p : Piece) : Prop where
  no_slash : '/' ∉ p.text.toList
  component : p.component = innerComponent p.text

/-- A piece as it stands first in a path that is not empty. -/
structure Leading (p : Piece) : Prop where
  no_slash : '/' ∉ p.text.toList
  component : p.component = firstComponent p.text true

theorem Inner.leading {p : Piece} (h : Inner p) (hp : p.component ≠ none) : Leading p := by
  refine ⟨h.no_slash, ?_⟩
  rw [h.component, innerComponent] at hp
  have htext : p.text ≠ "" ∧ p.text ≠ "." := by
    refine not_or.mp fun hnone => hp ?_
    rw [if_pos hnone]
  rw [h.component, firstComponent, if_neg htext.1, if_neg htext.2]

/-- A path is a leading piece and inner ones. -/
theorem exists_pieces {path : String} (hpath : path ≠ "") :
    ∃ p ps, pieces path = p :: ps ∧ Leading p ∧ ∀ q ∈ ps, Inner q := by
  obtain ⟨t, ts, h⟩ := List.exists_cons_of_ne_nil (splitAt_ne_nil '/' path.toList)
  have hslash : ∀ u ∈ t :: ts, '/' ∉ u := fun u hu => not_mem_of_mem_splitAt (h ▸ hu)
  refine ⟨_, _, pieces_of_splitAt h, ⟨by simpa using hslash t List.mem_cons_self, ?_⟩, ?_⟩
  · cases ts with
    | nil => exact firstComponent_of_ne_empty (part_ne_empty hpath h) _ _
    | cons u us => rfl
  · intro q hq
    obtain ⟨u, hu, rfl⟩ := List.mem_map.mp hq
    obtain ⟨v, hv, rfl⟩ := List.mem_map.mp hu
    exact ⟨by simpa using hslash v (List.mem_cons_of_mem t hv), rfl⟩

theorem innerComponent_ne_root (text : String) : innerComponent text ≠ some .root := by
  unfold innerComponent
  split
  · simp
  · split <;> simp

/-- Only the empty piece in front of a slash stands for the root. -/
theorem Leading.text_eq_empty {p : Piece} (h : Leading p) (hp : p.component = some .root) :
    p.text = "" := by
  refine Decidable.byContradiction fun htext => ?_
  rw [h.component, firstComponent, if_neg htext] at hp
  split at hp
  · cases hp
  · exact innerComponent_ne_root _ hp

/-- Pieces are joined by slashes, unless the root stands alone. -/
theorem spell_eq_intercalate {p : Piece} {ps : List Piece} (hp : Leading p)
    (h : ¬ (ps = [] ∧ p.text = "")) :
    spell (p :: ps) = "/".intercalate ((p :: ps).map (·.text)) := by
  unfold spell
  split
  · rename_i text heq
    obtain ⟨rfl, rfl⟩ := List.cons.inj heq
    exact absurd ⟨rfl, hp.text_eq_empty rfl⟩ h
  · rfl

/-- Pieces that were spelled out stand for the same components again. -/
theorem components_spell {p : Piece} {ps : List Piece} (hp : Leading p) (hps : ∀ q ∈ ps, Inner q) :
    components (spell (p :: ps)) = (p :: ps).filterMap (·.component) := by
  by_cases hroot : ps = [] ∧ p.text = ""
  · obtain ⟨rfl, htext⟩ := hroot
    obtain ⟨text, component⟩ := p
    obtain rfl : text = "" := htext
    obtain rfl : component = some .root := hp.component
    decide
  · have hspell := spell_eq_intercalate hp hroot
    have hslash : ∀ t ∈ p.text :: ps.map (·.text), '/' ∉ t.toList := by
      intro t ht
      rcases List.mem_cons.mp ht with rfl | ht
      · exact hp.no_slash
      · obtain ⟨q, hq, rfl⟩ := List.mem_map.mp ht
        exact (hps q hq).no_slash
    have hsplit := splitAt_intercalate hslash (List.cons_ne_nil _ _)
    rw [← List.map_cons, ← hspell, List.map_cons, List.map_cons] at hsplit
    have hfirst : firstComponent p.text (!((ps.map (·.text)).map String.toList).isEmpty) =
        p.component := by
      rw [hp.component]
      cases ps with
      | nil => exact firstComponent_of_ne_empty (fun ht => hroot ⟨rfl, ht⟩) _ _
      | cons q qs => rfl
    have hrest : (((ps.map (·.text)).map String.toList).map String.ofList).map
        (fun t => (⟨t, innerComponent t⟩ : Piece)) = ps := by
      simp only [List.map_map]
      refine (List.map_congr_left fun q hq => ?_).trans (List.map_id ps)
      simp [← (hps q hq).component]
    rw [components, pieces_of_splitAt hsplit, hrest, String.ofList_toList, hfirst]

/-! ## What is left below a path -/

theorem trimEnd_prefix (ps : List Piece) : trimEnd ps <+: ps := by
  have h := List.dropWhile_suffix (l := ps.reverse) (·.component.isNone)
  rw [← List.reverse_prefix, List.reverse_reverse] at h
  exact h

theorem components_dropWhile (ps : List Piece) :
    (ps.dropWhile (·.component.isNone)).filterMap (·.component) = ps.filterMap (·.component) := by
  induction ps with
  | nil => rfl
  | cons p ps ih =>
    cases hp : p.component with
    | none => rw [List.dropWhile_cons_of_pos (by simp [hp]), ih, List.filterMap_cons_none hp]
    | some c => rw [List.dropWhile_cons_of_neg (by simp [hp])]

theorem components_trimEnd (ps : List Piece) :
    (trimEnd ps).filterMap (·.component) = ps.filterMap (·.component) := by
  rw [trimEnd, List.filterMap_reverse, components_dropWhile, List.filterMap_reverse,
    List.reverse_reverse]

/-- Pieces without those at both ends that stand for nothing spell the same components. -/
theorem components_spell_inner {ps : List Piece} (hps : ∀ p ∈ ps, Inner p) :
    components (spell (trimEnd (ps.dropWhile (·.component.isNone)))) =
      ps.filterMap (·.component) := by
  rw [← components_dropWhile ps, ← components_trimEnd]
  cases hkept : trimEnd (ps.dropWhile (·.component.isNone)) with
  | nil => rfl
  | cons p rest =>
    obtain ⟨tail, htail⟩ := hkept ▸ trimEnd_prefix (ps.dropWhile (·.component.isNone))
    have hmem : ∀ q ∈ p :: rest, Inner q := by
      intro q hq
      have hdrop : q ∈ ps.dropWhile (·.component.isNone) := htail ▸ List.mem_append_left tail hq
      exact hps q ((List.dropWhile_suffix _).subset hdrop)
    have hfirst : p.component ≠ none := by
      have hnot := List.head?_dropWhile_not (·.component.isNone) ps
      rw [← htail] at hnot
      exact Option.isSome_iff_ne_none.mp (by simpa using hnot)
    exact components_spell ((hmem p List.mem_cons_self).leading hfirst) fun q hq =>
      hmem q (List.mem_cons_of_mem p hq)

/-- The same for pieces whose first one keeps its meaning. -/
theorem components_spell_trimEnd_cons {p : Piece} {ps : List Piece} (hp : Leading p)
    (hps : ∀ q ∈ ps, Inner q) :
    components (spell (trimEnd (p :: ps))) = (p :: ps).filterMap (·.component) := by
  have hsome : p.component ≠ none := hp.component ▸ firstComponent_ne_none fun _ => rfl
  rw [← components_trimEnd]
  cases hkept : trimEnd (p :: ps) with
  | nil =>
    -- the first piece stands for something, so it is not dropped
    have hnone := components_trimEnd (p :: ps)
    rw [hkept, List.filterMap_nil, eq_comm, List.filterMap_eq_nil_iff] at hnone
    exact absurd (hnone p List.mem_cons_self) hsome
  | cons q rest =>
    obtain ⟨rfl, hrest⟩ := List.cons_prefix_cons.mp (hkept ▸ trimEnd_prefix (p :: ps))
    exact components_spell hp fun r hr => hps r (hrest.subset hr)

theorem components_spell_trimEnd (path : String) :
    components (spell (trimEnd (pieces path))) = components path := by
  by_cases hpath : path = ""
  · subst hpath
    decide
  · obtain ⟨p, ps, hpieces, hp, hps⟩ := exists_pieces hpath
    rw [hpieces, components_spell_trimEnd_cons hp hps, ← hpieces, components]

theorem exists_dropComponents {cs ds : List Component} {ps : List Piece}
    (h : ps.filterMap (·.component) = cs ++ ds) :
    ∃ rest, dropComponents cs ps = some rest ∧ rest.filterMap (·.component) = ds ∧
      rest <:+ ps ∧ (cs ≠ [] → rest <:+ ps.tail) := by
  fun_induction dropComponents cs ps with
  | case1 ps => exact ⟨ps, rfl, h, List.suffix_rfl, fun hne => absurd rfl hne⟩
  | case2 c cs => simp at h
  | case3 c cs p ps hp ih =>
    rw [List.filterMap_cons_none hp] at h
    obtain ⟨rest, hdrop, hrest, hsuffix, -⟩ := ih h
    exact ⟨rest, hdrop, hrest, hsuffix.trans (List.suffix_cons p ps), fun _ => hsuffix⟩
  | case4 cs p ps c hp ih =>
    rw [List.filterMap_cons_some hp] at h
    obtain ⟨rest, hdrop, hrest, hsuffix, -⟩ := ih (List.cons.inj h).2
    exact ⟨rest, hdrop, hrest, hsuffix.trans (List.suffix_cons p ps), fun _ => hsuffix⟩
  | case5 c cs p ps d hp hne =>
    rw [List.filterMap_cons_some hp] at h
    exact absurd (List.cons.inj h).1.symm hne

/-- What is left of a path below another one stands for the components that are left. -/
theorem exists_relativeTo {base path : String} {cs : List Component}
    (h : components path = components base ++ cs) :
    ∃ rel, relativeTo? base path = some rel ∧ components rel = cs := by
  unfold relativeTo?
  split
  · rename_i hnil
    refine ⟨_, rfl, ?_⟩
    rw [components_spell_trimEnd, h, hnil, List.nil_append]
  · rename_i hne
    have hpath : path ≠ "" := by
      rintro rfl
      exact hne (List.append_eq_nil_iff.mp h.symm).1
    obtain ⟨rest, hdrop, hrest, -, hsuffix⟩ := exists_dropComponents h
    obtain ⟨p, ps, hpieces, -, hps⟩ := exists_pieces hpath
    rw [hpieces] at hsuffix
    rw [hdrop]
    refine ⟨_, rfl, ?_⟩
    rw [components_spell_inner fun q hq => hps q ((hsuffix hne).subset hq), hrest]

/-! ## Names below a root -/

/-- The path `file`, however it is spelled, leads from `root` by way of the names `ns`. -/
def LiesAt (root : String) (ns : List String) (file : String) : Prop :=
  components file = components root ++ ns.map Component.name

instance (root : String) (ns : List String) (file : String) : Decidable (LiesAt root ns file) :=
  inferInstanceAs (Decidable (_ = _))

theorem liesAt_descend {root : String} (hroot : root ≠ "") {ns : List String}
    (hns : ∀ n ∈ ns, IsEntryName n) : LiesAt root ns (descend root ns) :=
  components_descend hroot hns

theorem LiesAt.exists_relativeTo {root file : String} {ns : List String}
    (h : LiesAt root ns file) : ∃ rel, relativeTo? root file = some rel ∧ names rel = ns := by
  obtain ⟨rel, hrel, hcomponents⟩ := FilePath.exists_relativeTo h
  exact ⟨rel, hrel, by rw [names, hcomponents, name_names]⟩

theorem components_join (root : String) {n : String} (hn : IsEntryName n) :
    components (join root n) = components root ++ [.name n] := by
  by_cases hroot : root = ""
  · have hjoin : join "" n = n := by simp [join, isAbsolute_of_name hn]
    have hsplit := splitAt_of_not_mem hn.no_slash
    subst hroot
    rw [hjoin, components, pieces_of_splitAt hsplit, String.ofList_toList]
    simp [firstComponent, hn.ne_empty, hn.ne_dot, innerComponent_name hn, components, pieces,
      splitAt]
  · have hone : ∀ m ∈ [n], IsEntryName m := by simpa using hn
    rw [← descend_nil (join root n), ← descend_cons, components_descend hroot hone]
    rfl

/-- A name more at the end of the root is one less in front of the file. -/
theorem liesAt_join_iff {root file n : String} (hn : IsEntryName n) {ns : List String} :
    LiesAt (join root n) ns file ↔ LiesAt root (n :: ns) file := by
  unfold LiesAt
  rw [components_join root hn, List.append_assoc]
  rfl

/-- Below a directory of the root lies only what has its name in front. -/
theorem LiesAt.relativeTo_join_eq_none {root file n : String} (hn : IsEntryName n)
    {ns : List String} (h : LiesAt root ns file) (hne : ns.head? ≠ some n) :
    relativeTo? (join root n) file = none := by
  rw [← Option.not_isSome_iff_eq_none]
  intro hsome
  obtain ⟨rel, hrel⟩ := Option.isSome_iff_exists.mp hsome
  have hpre := prefix_of_relativeTo hrel
  rw [components_join root hn, h, List.prefix_append_right_inj] at hpre
  cases ns with
  | nil => simp at hpre
  | cons m ms =>
    obtain ⟨hm, -⟩ := List.cons_prefix_cons.mp hpre
    exact hne (by rw [Component.name.inj hm]; rfl)

end FilePath

end EnumFamily
