import EnumFamily.TypeUnit

/-!
# The segments of a symbol path

`SymbolPath.cut` cuts a text at every `::`, from the left. `IsCut` says the same
by where the first `::` stands, so that of three colons in a row the first two are
the separator.

Results:
* `isCut_iff`: `cut` finds the pieces, and there is only one way to cut.
* `isSegments_iff`: so for segments, the pieces that are not empty.
* `cut_join`, `qualified_inj`: parts without colons can be read back from their
  path, also where some of them are empty; so a qualified name determines modules
  and name.
* `segments_qualified`, `segments_separators`: the segments of a qualified name, and
  of separators alone.
* `ColonFree.name_eq`: units of one qualified name have one type name.
-/
namespace EnumFamily

namespace SymbolPath

/-! ## Cutting -/

/-- The text `s`, cut at every `::` from the left, falls into the given pieces. -/
inductive IsCut : List Char → List (List Char) → Prop
  | whole {s : List Char} : ¬ [':', ':'] <:+: s → IsCut s [s]
  /-- the first `::` stands right behind the first piece -/
  | first {piece rest : List Char} {pieces : List (List Char)} :
      ¬ [':', ':'] <:+: piece ++ [':'] → IsCut rest pieces →
      IsCut (piece ++ ':' :: ':' :: rest) (piece :: pieces)

theorem separator_infix_cons_iff {c : Char} {s : List Char} :
    [':', ':'] <:+: c :: s ↔ (c = ':' ∧ ∃ r, s = ':' :: r) ∨ [':', ':'] <:+: s := by
  rw [List.infix_cons_iff, List.cons_prefix_cons, @eq_comm _ ':' c]
  refine or_congr_left (and_congr_right fun _ => ?_)
  constructor
  · rintro ⟨r, rfl⟩
    exact ⟨r, rfl⟩
  · rintro ⟨r, rfl⟩
    exact ⟨r, rfl⟩

/-- A character that does not begin a separator goes to the first piece. -/
theorem IsCut.cons {c : Char} {s piece : List Char} {pieces : List (List Char)}
    (hc : ¬ (c = ':' ∧ ∃ r, s = ':' :: r)) (h : IsCut s (piece :: pieces)) :
    IsCut (c :: s) ((c :: piece) :: pieces) := by
  cases h with
  | whole hno => exact .whole fun h => (separator_infix_cons_iff.mp h).elim hc hno
  | @first _ rest _ hno hrest =>
    refine @IsCut.first (c :: piece) rest pieces (fun h => ?_) hrest
    rcases separator_infix_cons_iff.mp h with ⟨rfl, r, hr⟩ | h
    · -- the piece begins with a colon, or is empty and the separator follows
      cases piece with
      | nil => exact hc ⟨rfl, _, rfl⟩
      | cons d piece =>
        obtain ⟨rfl, -⟩ := List.cons.inj hr
        exact hc ⟨rfl, _, rfl⟩
    · exact hno h

theorem isCut_cut (s : List Char) : IsCut s (cut s) := by
  fun_induction cut s with
  | case1 => exact .whole (by decide)
  | case2 r ih => exact @IsCut.first [] r _ (by decide) ih
  | case3 c r hc hnil ih =>
    rw [hnil] at ih
    cases ih
  | case4 c r hc piece pieces hcut ih =>
    rw [hcut] at ih
    exact ih.cons fun ⟨hcolon, r', hr⟩ => hc r' hcolon hr

theorem cut_cons {c : Char} {s piece : List Char} {pieces : List (List Char)}
    (hc : ¬ (c = ':' ∧ ∃ r, s = ':' :: r)) (h : cut s = piece :: pieces) :
    cut (c :: s) = (c :: piece) :: pieces := by
  rw [cut, h]
  rintro r rfl hr
  exact hc ⟨rfl, r, hr⟩

theorem cut_of_no_separator {s : List Char} (h : ¬ [':', ':'] <:+: s) : cut s = [s] := by
  induction s with
  | nil => rfl
  | cons c s ih =>
    obtain ⟨hc, hs⟩ := not_or.mp ((not_congr separator_infix_cons_iff).mp h)
    exact cut_cons hc (ih hs)

theorem cut_append_separator {piece rest : List Char} (h : ¬ [':', ':'] <:+: piece ++ [':']) :
    cut (piece ++ ':' :: ':' :: rest) = piece :: cut rest := by
  induction piece with
  | nil => rw [List.nil_append, cut]
  | cons c piece ih =>
    obtain ⟨hc, hpiece⟩ := not_or.mp ((not_congr separator_infix_cons_iff).mp h)
    refine cut_cons (fun ⟨hcolon, r, hr⟩ => hc ⟨hcolon, ?_⟩) (ih hpiece)
    cases piece with
    | nil => exact ⟨[], rfl⟩
    | cons d piece =>
      obtain ⟨rfl, -⟩ := List.cons.inj hr
      exact ⟨_, rfl⟩

theorem isCut_iff {s : List Char} {pieces : List (List Char)} :
    IsCut s pieces ↔ cut s = pieces := by
  constructor
  · intro h
    induction h with
    | whole hno => exact cut_of_no_separator hno
    | first hno _ ih => rw [cut_append_separator hno, ih]
  · rintro rfl
    exact isCut_cut s

/-! ## Segments -/

/-- The pieces of a path between separators, empty ones left out. -/
def IsSegments (path : String) (parts : List String) : Prop :=
  ∃ pieces, IsCut path.toList pieces ∧ parts.map String.toList = pieces.filter (· ≠ [])

theorem isSegments_iff {path : String} {parts : List String} :
    IsSegments path parts ↔ segments path = parts := by
  have hkeep : (cut path.toList).filter (· ≠ []) = (cut path.toList).filter (!·.isEmpty) :=
    List.filter_congr fun piece _ => by cases piece <;> rfl
  simp only [IsSegments, isCut_iff, exists_eq_left', hkeep, segments]
  constructor
  · intro h
    rw [← h, List.map_map, Function.comp_def]
    simp
  · rintro rfl
    simp [Function.comp_def]

/-! ## Reading parts back -/

theorem no_separator_of_not_mem {s : List Char} (h : ':' ∉ s) : ¬ [':', ':'] <:+: s ++ [':'] := by
  intro hin
  have hcount : [':', ':'].count ':' ≤ (s ++ [':']).count ':' := hin.sublist.count_le ':'
  rw [List.count_append, List.count_eq_zero_of_not_mem h] at hcount
  exact absurd hcount (by decide)

theorem toList_join_cons (p q : String) (parts : List String) :
    (join (p :: q :: parts)).toList = p.toList ++ ':' :: ':' :: (join (q :: parts)).toList := by
  simp [join, String.intercalate_cons_cons]

theorem isCut_join {parts : List String} (hfree : ∀ p ∈ parts, ':' ∉ p.toList)
    (hne : parts ≠ []) : IsCut (join parts).toList (parts.map String.toList) := by
  induction parts with
  | nil => exact absurd rfl hne
  | cons p parts ih =>
    obtain ⟨hp, hparts⟩ := List.forall_mem_cons.mp hfree
    have hno := no_separator_of_not_mem hp
    cases parts with
    | nil =>
      refine .whole fun hin => hno ?_
      rw [join, String.intercalate_singleton] at hin
      exact hin.trans (List.prefix_append _ _).isInfix
    | cons q parts =>
      rw [toList_join_cons]
      exact .first hno (ih hparts (List.cons_ne_nil q parts))

theorem cut_join {parts : List String} (hfree : ∀ p ∈ parts, ':' ∉ p.toList) (hne : parts ≠ []) :
    cut (join parts).toList = parts.map String.toList :=
  isCut_iff.mp (isCut_join hfree hne)

section
variable {modules : List String} {name : String} (hfree : ∀ p ∈ modules ++ [name], ':' ∉ p.toList)
include hfree

theorem crate_parts_free : ∀ p ∈ "crate" :: modules ++ [name], ':' ∉ p.toList := by
  rw [List.cons_append]
  exact List.forall_mem_cons.mpr ⟨by decide, hfree⟩

/-- A qualified name determines the modules and the name, empty ones included. -/
theorem qualified_inj {modules' : List String} {name' : String}
    (hfree' : ∀ p ∈ modules' ++ [name'], ':' ∉ p.toList)
    (h : qualified modules name = qualified modules' name') :
    modules = modules' ∧ name = name' := by
  have hcut := congrArg (fun path : String => cut path.toList) h
  simp only [qualified] at hcut
  rw [cut_join (crate_parts_free hfree) (by simp), cut_join (crate_parts_free hfree') (by simp),
    List.map_inj_right fun _ _ => String.toList_inj.mp] at hcut
  obtain ⟨hmodules, hname⟩ := List.append_inj' hcut rfl
  exact ⟨(List.cons.inj hmodules).2, List.singleton_inj.mp hname⟩

theorem segments_qualified (hparts : ∀ p ∈ modules ++ [name], p ≠ "") :
    segments (qualified modules name) = "crate" :: modules ++ [name] := by
  refine isSegments_iff.mp ⟨_, isCut_join (crate_parts_free hfree) (by simp), ?_⟩
  refine (List.filter_eq_self.mpr fun s hs => ?_).symm
  obtain ⟨p, hp, rfl⟩ := List.mem_map.mp hs
  have hne : p ≠ "" := by
    rcases List.mem_cons.mp hp with rfl | hp
    · decide
    · exact hparts p hp
  simpa using hne

end

theorem cut_separators (k : Nat) :
    cut (List.replicate k [':', ':']).flatten = List.replicate (k + 1) [] := by
  induction k with
  | zero => rfl
  | succ k ih =>
    rw [List.replicate_succ, List.flatten_cons, List.replicate_succ, ← ih]
    exact @cut_append_separator [] _ (by decide)

/-- Separators alone have no segments. -/
theorem segments_separators (k : Nat) : segments (String.join (List.replicate k "::")) = [] := by
  have hlist : (String.join (List.replicate k "::")).toList =
      (List.replicate k [':', ':']).flatten := by
    rw [String.toList_join, List.flatMap_def, List.map_replicate]
    rfl
  rw [segments, hlist, cut_separators]
  simp

end SymbolPath

/-! ## Units -/

namespace TypeUnit

/-- Neither the name of the unit nor one of its modules holds a colon. -/
structure ColonFree (u : TypeUnit) : Prop where
  name : ':' ∉ u.name.toList
  modules : ∀ m ∈ u.modules, ':' ∉ m.toList

instance (u : TypeUnit) : Decidable u.ColonFree :=
  decidable_of_iff (':' ∉ u.name.toList ∧ ∀ m ∈ u.modules, ':' ∉ m.toList)
    ⟨fun ⟨h₁, h₂⟩ => ⟨h₁, h₂⟩, fun ⟨h₁, h₂⟩ => ⟨h₁, h₂⟩⟩

theorem ColonFree.parts {u : TypeUnit} (h : u.ColonFree) :
    ∀ p ∈ u.modules ++ [u.name], ':' ∉ p.toList := by
  intro p hp
  rcases List.mem_append.mp hp with hp | hp
  · exact h.modules p hp
  · rw [List.mem_singleton.mp hp]
    exact h.name

theorem ColonFree.name_eq {u v : TypeUnit} (hu : u.ColonFree) (hv : v.ColonFree)
    (h : u.qualifiedName = v.qualifiedName) : u.name = v.name :=
  (SymbolPath.qualified_inj hu.parts hv.parts h).2

end TypeUnit

end EnumFamily
