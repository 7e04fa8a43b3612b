import EnumFamily.Proofs.Canonical
import EnumFamily.Proofs.RelativePaths
import Mathlib.Data.List.Induction

/-!
# The paths above a path

Going up from a path cuts its text. However the path is spelled, each path above it
stands for its components without the last ones, and a path that leads somewhere leads
there by way of each path above it. To tell where, the components are enough: a piece
that stands for nothing moves only from a directory to itself.

Results:
* `exists_parent?`, `exists_ancestor`, `ancestors_getElem?_eq_none`: what lies above an
  absolute path.
* `Leads.of_pieces`, `leads_pieces`: a directory is reached by the components of a path
  as by its pieces.
* `resolve_above`: where the paths above lead, and how the way goes on from there.
* `exists_prefix_of_mem_ancestorsUpTo`: above a canonical path stand the canonical paths of
  the directories above.
-/
namespace EnumFamily

namespace FilePath

/-! ## Going up from any path -/

/-- The first piece of a path is never dropped as standing for nothing. -/
theorem exists_first {path : String} (hpath : path ≠ "") :
    ∃ p ps c, pieces path = p :: ps ∧ Leading p ∧ (∀ q ∈ ps, Inner q) ∧ p.component = some c ∧
      components path = c :: ps.filterMap (·.component) := by
  obtain ⟨p, ps, hpieces, hp, hps⟩ := exists_pieces hpath
  have hsome : p.component ≠ none := hp.component ▸ firstComponent_ne_none fun _ => rfl
  obtain ⟨c, hc⟩ := Option.ne_none_iff_exists'.mp hsome
  exact ⟨p, ps, c, hpieces, hp, hps, hc, by rw [components, hpieces, List.filterMap_cons_some hc]⟩

theorem isAbsolute_of_components {path : String} {rest : List Component}
    (h : components path = .root :: rest) : isAbsolute path = true := by
  have hpath : path ≠ "" := by
    rintro rfl
    cases h
  have hlist : path.toList ≠ [] := fun hnil => hpath (String.toList_eq_nil_iff.mp hnil)
  obtain ⟨c, s, hs⟩ := List.exists_cons_of_ne_nil hlist
  obtain ⟨q, qs, c', hpieces, hq, -, hc', hcomponents⟩ := exists_first hpath
  obtain ⟨rfl, -⟩ := List.cons.inj (hcomponents.symm.trans h)
  -- the piece of the root has no text, so a slash comes first
  have hempty := hq.text_eq_empty hc'
  obtain ⟨p, ps, hp⟩ := List.exists_cons_of_ne_nil (splitAt_ne_nil '/' s)
  by_cases hc : c = '/'
  · exact isAbsolute_iff.mpr ⟨s, by rw [hs, hc]⟩
  · have hsplit : splitAt '/' path.toList = (c :: p) :: ps := by simp [hs, splitAt, hp, hc]
    rw [pieces_of_splitAt hsplit] at hpieces
    obtain ⟨rfl, -⟩ := List.cons.inj hpieces
    simp at hempty

/-- What stands above an absolute path is absolute. -/
theorem isAbsolute_above {path : String} (habs : isAbsolute path = true) {q : String} (hq : q ≠ "")
    {gone : List Component} (h : components path = components q ++ gone) :
    isAbsolute q = true := by
  obtain ⟨rest, hrest⟩ := components_of_isAbsolute habs
  obtain ⟨d, ds, hds⟩ := List.exists_cons_of_ne_nil (components_ne_nil hq)
  rw [hrest, hds, List.cons_append] at h
  obtain ⟨rfl, -⟩ := List.cons.inj h
  exact isAbsolute_of_components hds

/-- The pieces that are kept at the end stand for something. -/
theorem trimEnd_eq_concat {ps : List Piece} {cs : List Component} {c : Component}
    (h : ps.filterMap (·.component) = cs ++ [c]) :
    ∃ init z, trimEnd ps = init ++ [z] ∧ z.component = some c ∧
      init.filterMap (·.component) = cs := by
  rcases List.eq_nil_or_concat (trimEnd ps) with hnil | ⟨init, z, hz⟩
  · rw [← components_trimEnd, hnil] at h
    simp at h
  · rw [List.concat_eq_append] at hz
    have hlast : z.component.isNone = false := by
      have hnot := List.head?_dropWhile_not (·.component.isNone) ps.reverse
      have hdrop : ps.reverse.dropWhile (·.component.isNone) = z :: init.reverse := by
        rw [← List.reverse_inj, ← trimEnd, hz]
        simp
      rw [hdrop] at hnot
      simpa using hnot
    obtain ⟨d, hd⟩ := Option.isSome_iff_exists.mp (Option.isNone_eq_false_iff.mp hlast)
    rw [← components_trimEnd, hz, List.filterMap_append, List.filterMap_cons_some hd,
      List.filterMap_nil] at h
    obtain ⟨hinit, hdc⟩ := List.append_inj' h rfl
    obtain ⟨rfl, -⟩ := List.cons.inj hdc
    exact ⟨init, z, hz, hd, hinit⟩

theorem parent?_of_trimEnd {path : String} {init : List Piece} {z : Piece}
    (h : trimEnd (pieces path) = init ++ [z]) :
    parent? path = if z.component = some .root then none else some (spell (trimEnd init)) := by
  have hreverse : (trimEnd (pieces path)).reverse = z :: init.reverse := by simp [h]
  unfold parent?
  rw [hreverse]
  obtain ⟨text, component⟩ := z
  split
  · rename_i heq
    cases heq
  · rename_i heq
    cases heq
    rfl
  · rename_i hnot heq
    obtain ⟨rfl, rfl⟩ := List.cons.inj heq
    rw [List.reverse_reverse, if_neg]
    rintro rfl
    exact hnot text rfl

/-- One component less, unless there is no other. -/
theorem exists_parent? {path : String} {cs : List Component} {c : Component}
    (h : components path = cs ++ [c]) (hcs : cs ≠ []) :
    ∃ q, parent? path = some q ∧ components q = cs := by
  have hpath : path ≠ "" := by
    rintro rfl
    simp [components, pieces, splitAt, firstComponent] at h
  obtain ⟨init, z, hkept, -, hinit⟩ := trimEnd_eq_concat h
  obtain ⟨p, ps, -, hpieces, hp, hps, -, -⟩ := exists_first hpath
  obtain ⟨p', init, rfl⟩ := List.exists_cons_of_ne_nil fun hnil : init = [] => by
    subst hnil
    exact hcs hinit.symm
  have hprefix := trimEnd_prefix (pieces path)
  rw [hkept, hpieces, List.cons_append] at hprefix
  obtain ⟨rfl, hrest⟩ := List.cons_prefix_cons.mp hprefix
  have hinner : ∀ q ∈ init ++ [z], Inner q := fun q hq => hps q (hrest.subset hq)
  have hnotroot : z.component ≠ some .root := by
    rw [(hinner z (by simp)).component]
    exact innerComponent_ne_root _
  refine ⟨spell (trimEnd (p' :: init)), ?_, ?_⟩
  · rw [parent?_of_trimEnd hkept, if_neg hnotroot]
  · rw [components_spell_trimEnd_cons hp fun q hq => hinner q (List.mem_append_left _ hq), hinit]

theorem parent?_root {path : String} (h : components path = [.root]) : parent? path = none := by
  have hlast : (pieces path).filterMap (·.component) = [] ++ [.root] := h
  obtain ⟨init, z, hkept, hz, -⟩ := trimEnd_eq_concat hlast
  rw [parent?_of_trimEnd hkept, if_pos hz]

/-- Above an absolute path stand all paths with fewer of its components. -/
theorem exists_ancestorsUpTo {fuel : Nat} {path : String} {cs gone : List Component}
    (h : components path = cs ++ gone) (hcs : cs ≠ []) (hfuel : gone.length ≤ fuel) :
    ∃ q, (ancestorsUpTo fuel path)[gone.length]? = some q ∧ components q = cs := by
  induction gone using List.reverseRecOn generalizing fuel path with
  | nil =>
    refine ⟨path, ?_, by simpa using h⟩
    cases fuel <;> simp [ancestorsUpTo]
  | append_singleton gone c ih =>
    rw [← List.append_assoc] at h
    rw [List.length_append, List.length_singleton] at hfuel ⊢
    obtain ⟨fuel, rfl⟩ : ∃ n, fuel = n + 1 := ⟨fuel - 1, by omega⟩
    obtain ⟨up, hup, hcomponents⟩ := exists_parent? h (by simp [hcs])
    have hless : gone.length ≤ fuel := by omega
    obtain ⟨q, hq, hqs⟩ := ih hcomponents hless
    refine ⟨q, ?_, hqs⟩
    rw [ancestorsUpTo, hup, List.getElem?_cons_succ]
    exact hq

theorem ancestorsUpTo_getElem?_eq_none {fuel : Nat} {path : String} {cs : List Component}
    (h : components path = .root :: cs) {n : Nat} (hn : (components path).length ≤ n) :
    (ancestorsUpTo fuel path)[n]? = none := by
  induction fuel generalizing path cs n with
  | zero =>
    rw [h, List.length_cons] at hn
    simp [ancestorsUpTo]
    omega
  | succ fuel ih =>
    obtain ⟨n, rfl⟩ : ∃ m, n = m + 1 := ⟨n - 1, by rw [h, List.length_cons] at hn; omega⟩
    rw [ancestorsUpTo, List.getElem?_cons_succ]
    rcases List.eq_nil_or_concat cs with rfl | ⟨init, c, rfl⟩
    · rw [parent?_root h]
      rfl
    · rw [List.concat_eq_append, ← List.cons_append] at h
      obtain ⟨up, hup, hcomponents⟩ := exists_parent? h (List.cons_ne_nil _ _)
      rw [hup]
      refine ih hcomponents ?_
      rw [h, List.length_append, List.length_singleton] at hn
      rw [hcomponents]
      omega

theorem exists_ancestor {path : String} {cs gone : List Component}
    (h : components path = cs ++ gone) (hcs : cs ≠ []) :
    ∃ q, (ancestors path)[gone.length]? = some q ∧ components q = cs := by
  refine exists_ancestorsUpTo h hcs ?_
  have hlength : (components path).length ≤ (pieces path).length := List.length_filterMap_le _ _
  rw [h, List.length_append] at hlength
  omega

theorem ancestors_getElem?_eq_none {path : String} (habs : isAbsolute path = true) {n : Nat}
    (hn : (components path).length ≤ n) : (ancestors path)[n]? = none := by
  obtain ⟨rest, hrest⟩ := components_of_isAbsolute habs
  exact ancestorsUpTo_getElem?_eq_none hrest hn

/-! ## Going up from a canonical path -/

open FileTree (absolute)

theorem components_absolute {ns : List String} (hns : ∀ n ∈ ns, IsEntryName n) :
    components (absolute ns) = .root :: ns.map Component.name := by
  rw [← descend_slash hns, components_descend (by decide) hns]
  rfl

theorem absolute_injective {ns ms : List String} (hns : ∀ n ∈ ns, IsEntryName n)
    (hms : ∀ n ∈ ms, IsEntryName n) (h : absolute ns = absolute ms) : ns = ms := by
  have hcomponents := congrArg components h
  rw [components_absolute hns, components_absolute hms] at hcomponents
  exact List.map_inj_right (fun _ _ => Component.name.inj) |>.mp (List.cons.inj hcomponents).2

theorem exists_prefix_of_mem_ancestorsUpTo {fuel : Nat} {ns : List String}
    (hns : ∀ n ∈ ns, IsEntryName n) {q : String}
    (h : q ∈ ancestorsUpTo fuel (absolute ns)) : ∃ ms, ms <+: ns ∧ q = absolute ms := by
  induction fuel generalizing ns with
  | zero => exact ⟨ns, List.prefix_rfl, List.mem_singleton.mp h⟩
  | succ fuel ih =>
    rw [ancestorsUpTo] at h
    rcases List.mem_cons.mp h with rfl | h
    · exact ⟨ns, List.prefix_rfl, rfl⟩
    · rcases List.eq_nil_or_concat ns with rfl | ⟨init, n, rfl⟩
      · rw [parent?_root (components_absolute hns)] at h
        cases h
      · rw [List.concat_eq_append] at hns h ⊢
        rw [parent?_absolute hns] at h
        obtain ⟨ms, hms, rfl⟩ := ih (fun m hm => hns m (List.mem_append_left _ hm)) h
        exact ⟨ms, hms.trans (List.prefix_append init [n]), rfl⟩

end FilePath

/-! ## Where the paths above lead -/

/-- The step that a component is. -/
def Component.step : Component → FileTree.Step
  | root => .stay
  | here => .stay
  | up => .up
  | name n => .name n

namespace FileTree

/-- A piece that stands for nothing is a step that stays. -/
def pieceStep (p : FilePath.Piece) : Step := (p.component.map Component.step).getD .stay

theorem pieceStep_of_none {p : FilePath.Piece} (hp : p.component = none) :
    pieceStep p = .stay := by
  rw [pieceStep, hp]
  rfl

theorem pieceStep_of_some {p : FilePath.Piece} {c : Component} (hp : p.component = some c) :
    pieceStep p = c.step := by
  rw [pieceStep, hp]
  rfl

theorem stepOf_inner (text : String) :
    stepOf text = ((FilePath.innerComponent text).map Component.step).getD .stay := by
  unfold stepOf FilePath.innerComponent
  split
  · rfl
  · split <;> rfl

theorem stepOf_first (text : String) :
    stepOf text = ((FilePath.firstComponent text true).map Component.step).getD .stay := by
  unfold FilePath.firstComponent
  split
  · rename_i h
    subst h
    rfl
  · split
    · rename_i h
      subst h
      rfl
    · exact stepOf_inner text

theorem steps_eq_map {path : String} (hpath : path ≠ "") :
    steps path = (FilePath.pieces path).map pieceStep := by
  obtain ⟨t, ts, hsplit⟩ := List.exists_cons_of_ne_nil (FilePath.splitAt_ne_nil '/' path.toList)
  have htexts : steps path = (FilePath.pieces path).map fun p => stepOf p.text := by
    rw [steps, FilePath.pieces_of_splitAt hsplit, hsplit]
    simp
  obtain ⟨p, ps, hpieces, hp, hps⟩ := FilePath.exists_pieces hpath
  rw [htexts, hpieces]
  refine List.map_congr_left fun q hq => ?_
  rcases List.mem_cons.mp hq with rfl | hq
  · rw [pieceStep, hp.component, ← stepOf_first]
  · rw [pieceStep, (hps q hq).component, ← stepOf_inner]

/-- Pieces that stand for nothing need not be taken. -/
theorem Leads.of_pieces {root : Node} {pos dest : List String} {ps : List FilePath.Piece} {k : Nat}
    (h : Leads root pos (ps.map pieceStep) k dest) :
    Leads root pos ((ps.filterMap (·.component)).map Component.step) k dest := by
  induction ps generalizing pos k with
  | nil => exact h
  | cons p ps ih =>
    rw [List.map_cons, ← List.singleton_append] at h
    obtain ⟨mid, i, j, rfl, hfirst, hrest⟩ := h.split
    cases hp : p.component with
    | none =>
      rw [pieceStep_of_none hp] at hfirst
      cases hfirst with
      | stay _ hdone =>
        cases hdone
        rw [List.filterMap_cons_none hp, Nat.zero_add]
        exact ih hrest
    | some c =>
      rw [pieceStep_of_some hp] at hfirst
      rw [List.filterMap_cons_some hp, List.map_cons, ← List.singleton_append]
      exact hfirst.append (ih hrest)

/-- On the way to a directory they can be taken all the same. -/
theorem leads_pieces {root : Node} {pos dest : List String} {ps : List FilePath.Piece} {k : Nat}
    {entries : List (String × Node)} (hdest : root.get? dest = some (.dir entries))
    (h : Leads root pos ((ps.filterMap (·.component)).map Component.step) k dest) :
    Leads root pos (ps.map pieceStep) k dest := by
  induction ps generalizing pos k with
  | nil => exact h
  | cons p ps ih =>
    cases hp : p.component with
    | none =>
      rw [List.filterMap_cons_none hp] at h
      rw [List.map_cons, pieceStep_of_none hp]
      have hrest := ih h
      cases hss : ps.map pieceStep with
      | nil =>
        rw [hss] at hrest
        cases hrest
        exact .stay hdest (.done _)
      | cons s ss =>
        rw [hss] at hrest
        obtain ⟨es, hes⟩ := hrest.dir_of_cons
        exact .stay hes hrest
    | some c =>
      rw [List.filterMap_cons_some hp, List.map_cons, ← List.singleton_append] at h
      obtain ⟨mid, i, j, rfl, hfirst, hrest⟩ := h.split
      rw [List.map_cons, pieceStep_of_some hp, ← List.singleton_append]
      exact hfirst.append (ih hrest)

section
variable {t : FileTree} {path : String}

theorem leads_of_resolve_absolute (habs : FilePath.isAbsolute path = true) {dest : List String}
    (h : t.resolve path = .ok dest) :
    ∃ k, k ≤ linkLimit ∧
      Leads t.root [] ((FilePath.components path).map Component.step) k dest := by
  have hpath := FilePath.ne_empty_of_isAbsolute habs
  obtain ⟨k, hk, hleads⟩ := (resolve_iff hpath).mp h
  rw [habs, if_pos rfl, steps_eq_map hpath] at hleads
  exact ⟨k, hk, hleads.of_pieces⟩

theorem resolve_of_leads_absolute (habs : FilePath.isAbsolute path = true) {dest : List String}
    {entries : List (String × Node)} (hdest : t.root.get? dest = some (.dir entries)) {k : Nat}
    (hk : k ≤ linkLimit)
    (h : Leads t.root [] ((FilePath.components path).map Component.step) k dest) :
    t.resolve path = .ok dest := by
  have hpath := FilePath.ne_empty_of_isAbsolute habs
  refine (resolve_iff hpath).mpr ⟨k, hk, ?_⟩
  rw [habs, if_pos rfl, steps_eq_map hpath]
  exact leads_pieces hdest h

/-- Two spellings of the same components lead to one place, if they lead anywhere. -/
theorem resolve_unique {q : String} (hpath : FilePath.isAbsolute path = true)
    (hq : FilePath.isAbsolute q = true) (h : FilePath.components path = FilePath.components q)
    {dest dest' : List String} (hdest : t.resolve path = .ok dest)
    (hdest' : t.resolve q = .ok dest') : dest = dest' := by
  obtain ⟨k, -, hleads⟩ := leads_of_resolve_absolute hpath hdest
  obtain ⟨k', -, hleads'⟩ := leads_of_resolve_absolute hq hdest'
  rw [← h] at hleads'
  exact hleads.unique hleads'

/-- A path leads on from where a path above it leads, whatever the spelling of both. -/
theorem resolve_above (habs : FilePath.isAbsolute path = true) {dest : List String}
    (h : t.resolve path = .ok dest) {q : String} (hq : q ≠ "") {gone : List Component}
    (hgone : gone ≠ []) (hcomponents : FilePath.components path = FilePath.components q ++ gone) :
    ∃ mid entries k, t.resolve q = .ok mid ∧ t.root.get? mid = some (.dir entries) ∧
      Leads t.root mid (gone.map Component.step) k dest := by
  have habsq := FilePath.isAbsolute_above habs hq hcomponents
  obtain ⟨k, hk, hleads⟩ := leads_of_resolve_absolute habs h
  rw [hcomponents, List.map_append] at hleads
  obtain ⟨mid, i, j, rfl, hfirst, hrest⟩ := hleads.split
  obtain ⟨c, gone, rfl⟩ := List.exists_cons_of_ne_nil hgone
  obtain ⟨entries, hmid⟩ := hrest.dir_of_cons
  exact ⟨mid, entries, j, resolve_of_leads_absolute habsq hmid (by omega) hfirst, hmid, hrest⟩

end

end FileTree

end EnumFamily
