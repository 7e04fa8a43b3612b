import EnumFamily.Proofs.Merging
import EnumFamily.Proofs.PathSegments

/-!
# Qualified names as keys

A unit is looked up by its qualified name, which is text. For modules and names
without colons this text is as good as the list of modules with the name: it can be
read from the left and from the right, and two units have one text only if they have
the same modules and the same name.

Results:
* `lastSegment_qualified`: the name, found from the right.
* `segments_qualified_iff`: modules and name, found from the left.
* `ColonFree.qualifiedName_eq_iff`: one text, the same modules and name.
* `declaredAt_qualifiedName`: so a look-up by text finds the declarations of one item.
* `qualified_read_back`: all of it, for any modules, names and units.
-/
namespace EnumFamily

namespace SymbolPath

/-! ## From the right -/

theorem afterLast?_eq_none {s : List Char} (h : ':' ∉ s) : afterLast? s = none := by
  induction s with
  | nil => rfl
  | cons c s ih =>
    rw [List.mem_cons, not_or] at h
    obtain ⟨hc, hs⟩ := h
    simp [afterLast?, ih hs, Ne.symm hc]

/-- What stands before the last separator does not matter, also if it is colons. -/
theorem afterLast?_append_separator {s : List Char} (h : ':' ∉ s) (before : List Char) :
    afterLast? (before ++ ':' :: ':' :: s) = some s := by
  induction before with
  | nil =>
    have hhead : s.head? ≠ some ':' := fun hs => h (List.mem_of_head? hs)
    simp [afterLast?, afterLast?_eq_none h, hhead]
  | cons c before ih => rw [List.cons_append, afterLast?, ih]

theorem toList_qualified_concat (modules : List String) (name : String) :
    (qualified modules name).toList =
      (join ("crate" :: modules)).toList ++ ':' :: ':' :: name.toList := by
  rw [qualified, join, String.intercalate_append_of_ne_nil (List.cons_ne_nil _ _)
    (List.cons_ne_nil _ _), String.intercalate_singleton]
  simp [join]

theorem lastSegment_qualified (modules : List String) {name : String} (h : ':' ∉ name.toList) :
    lastSegment (qualified modules name) = name := by
  have hlast : afterLast? (qualified modules name).toList = some name.toList := by
    rw [toList_qualified_concat, afterLast?_append_separator h]
  simp [lastSegment, hlast]

/-! ## From the left -/

/-- A segment is lost only if it is empty. -/
theorem segments_qualified_iff {modules : List String} {name : String}
    (hfree : ∀ p ∈ modules ++ [name], ':' ∉ p.toList) :
    segments (qualified modules name) = "crate" :: modules ++ [name] ↔
      ∀ p ∈ modules ++ [name], p ≠ "" := by
  refine ⟨fun h p hp hempty => ?_, segments_qualified hfree⟩
  have hmem : "" ∈ segments (qualified modules name) := by
    rw [h, ← hempty]
    exact List.mem_cons_of_mem _ hp
  simp [segments] at hmem

end SymbolPath

/-! ## Units -/

namespace TypeUnit

/-- The unit `d` is of the modules and the name of `u`. -/
def SameItem (u d : TypeUnit) : Prop := d.modules = u.modules ∧ d.name = u.name

theorem ColonFree.qualifiedName_eq_iff {u d : TypeUnit} (hu : u.ColonFree) (hd : d.ColonFree) :
    d.qualifiedName = u.qualifiedName ↔ u.SameItem d := by
  constructor
  · exact SymbolPath.qualified_inj hd.parts hu.parts
  · rintro ⟨hmodules, hname⟩
    rw [qualifiedName, hmodules, hname, qualifiedName]

section
variable {units : List TypeUnit} (hfree : ∀ u ∈ units, u.ColonFree) {u : TypeUnit}
  (hu : u.ColonFree)
include hfree hu

theorem declaredAt_qualifiedName :
    declaredAt units (·.qualifiedName == u.qualifiedName) =
      declaredAt units fun d => d.modules == u.modules && d.name == u.name := by
  refine congrArg (List.map _) (List.filter_congr fun x hx => ?_)
  have hd : x.1.ColonFree := hfree _ (List.fst_mem_of_mem_zipIdx hx)
  have hsame : (x.1.qualifiedName == u.qualifiedName) =
      (x.1.modules == u.modules && x.1.name == u.name) := by
    rw [Bool.eq_iff_iff, Bool.and_eq_true, beq_iff_eq, beq_iff_eq, beq_iff_eq]
    exact hu.qualifiedName_eq_iff hd
  exact congrArg (x.1.declared && ·) hsame

theorem firstDeclared_qualifiedName_iff {j : Nat} :
    FirstDeclared units (·.qualifiedName = u.qualifiedName) j ↔
      FirstDeclared units u.SameItem j := by
  have hdeclared : ∀ k, DeclaredAt units (·.qualifiedName = u.qualifiedName) k ↔
      DeclaredAt units u.SameItem k := by
    intro k
    refine exists_congr fun d => and_congr_right fun hk => and_congr_right fun _ => ?_
    exact hu.qualifiedName_eq_iff (hfree d (List.mem_of_getElem? hk))
  simp only [FirstDeclared, hdeclared]

end

/-- **Qualified names.** For modules and names without colons, empty ones included: equal
qualified names have equal modules and equal names; the last segment is the name; and the
segments are `crate`, the modules and the name, exactly if none of them is empty. So in
units of this kind a search for the declarations with the qualified name of a unit finds
those of its modules and its name and no other, and the first of them takes the unit
over, if the unit is not declared itself. -/
theorem qualified_read_back :
    (∀ (modules modules' : List String) (name name' : String),
      (∀ p ∈ modules ++ [name], ':' ∉ p.toList) → (∀ p ∈ modules' ++ [name'], ':' ∉ p.toList) →
      SymbolPath.qualified modules name = SymbolPath.qualified modules' name' →
      modules = modules' ∧ name = name') ∧
    (∀ (modules : List String) (name : String), (∀ p ∈ modules ++ [name], ':' ∉ p.toList) →
      SymbolPath.lastSegment (SymbolPath.qualified modules name) = name ∧
      (SymbolPath.segments (SymbolPath.qualified modules name) = "crate" :: modules ++ [name] ↔
        ∀ p ∈ modules ++ [name], p ≠ "")) ∧
    ∀ units : List TypeUnit, (∀ u ∈ units, u.ColonFree) → ∀ i u, units[i]? = some u →
      declaredAt units (·.qualifiedName == u.qualifiedName) =
        declaredAt units (fun d => d.modules == u.modules && d.name == u.name) ∧
      (u.declared = false → ∀ j, FirstDeclared units u.SameItem j → owner units u i = j) := by
  refine ⟨fun _ _ _ _ hfree hfree' h => SymbolPath.qualified_inj hfree hfree' h,
    fun modules name hfree => ⟨?_, SymbolPath.segments_qualified_iff hfree⟩,
    fun units hfree i u hu => ?_⟩
  · exact SymbolPath.lastSegment_qualified modules (hfree name (by simp))
  · have hfreeU := hfree u (List.mem_of_getElem? hu)
    refine ⟨declaredAt_qualifiedName hfree hfreeU, fun hdecl j hfirst => ?_⟩
    exact (Owns.path hu hdecl
      ((firstDeclared_qualifiedName_iff hfree hfreeU).mpr hfirst)).owner_eq hu

/-- A type `Invoice` without constants in the file of a module. -/
def invoice (mod : String) (declared : Bool) : TypeUnit :=
  { name := "Invoice", modules := [mod], file := "src/" ++ mod ++ ".rs", line := 1,
    constants := [], traits := [], declared }

/-- Two declarations have the name of the third unit; the one in its module takes it over.
And where a module has no name, the segments are short of it, but the last one is right. -/
theorem invoices_read_back :
    owner [invoice "billing" true, invoice "legacy" true, invoice "legacy" false]
        (invoice "legacy" false) 2 = 1 ∧
      SymbolPath.lastSegment (SymbolPath.qualified ["", "model"] "Order") = "Order" ∧
      SymbolPath.segments (SymbolPath.qualified ["", "model"] "Order") ≠
        ["crate", "", "model", "Order"] := by
  obtain ⟨-, hparts, hunits⟩ := qualified_read_back
  obtain ⟨hlast, hsegments⟩ := hparts ["", "model"] "Order" (by decide)
  refine ⟨?_, hlast, fun h => absurd (hsegments.mp h) (by decide)⟩
  have hfirst : FirstDeclared [invoice "billing" true, invoice "legacy" true,
      invoice "legacy" false] (invoice "legacy" false).SameItem 1 := by
    refine ⟨⟨_, rfl, rfl, rfl, rfl⟩, fun k hk => Nat.pos_of_ne_zero ?_⟩
    rintro rfl
    obtain ⟨d, hd, -, hmodules, -⟩ := hk
    cases hd
    exact absurd hmodules (by decide)
  exact (hunits _ (by decide) 2 _ rfl).2 rfl 1 hfirst

end TypeUnit

end EnumFamily
