import Mathlib.Data.List.Basic
import EnumFamily.Toml

/-!
# Texts in TOML tables

A document is put together pair by pair and section by section. A key is given once, and
a table that is extended keeps its members; so a text that has been set stays where it
is, whatever follows.

Results:
* `growing_assign`, `growing_addTo`: a pair and a section keep the texts that are there.
* `text?_of_mem`: a pair in the section of a table is in the document, if there is one.
-/
namespace EnumFamily.Toml

/-! ## Texts at paths -/

/-- The text at a path that leads from a value through the members of tables. -/
def textUnder? : List String → Toml → Option String
  | [], v => v.asString?
  | k :: path, v => v.members?.bind fun ms => (ms.lookup k).bind (textUnder? path)

/-- The text at a path from the root table on. -/
def text? (path : List String) (root : Members) : Option String :=
  textUnder? path (.table .header root)

@[simp] theorem textUnder?_table (k : String) (path : List String) (o : TableOrigin)
    (ms : Members) :
    textUnder? (k :: path) (.table o ms) = (ms.lookup k).bind (textUnder? path) := rfl

/-- Every text in one value stands at the same path in the other. -/
def Extends (v v' : Toml) : Prop :=
  ∀ path s, textUnder? path v = some s → textUnder? path v' = some s

/-- Every member of one table is in the other, maybe extended. -/
def Grows (ms ms' : Members) : Prop :=
  ∀ k v, ms.lookup k = some v → ∃ v', ms'.lookup k = some v' ∧ Extends v v'

theorem Extends.refl (v : Toml) : Extends v v := fun _ _ h => h

theorem Extends.trans {u v w : Toml} (h : Extends u v) (h' : Extends v w) : Extends u w :=
  fun path s hs => h' path s (h path s hs)

theorem Grows.refl (ms : Members) : Grows ms ms := fun _ v h => ⟨v, h, .refl v⟩

theorem Grows.trans {l m n : Members} (h : Grows l m) (h' : Grows m n) : Grows l n := by
  intro k u hu
  obtain ⟨v, hv, huv⟩ := h k u hu
  obtain ⟨w, hw, hvw⟩ := h' k v hv
  exact ⟨w, hw, huv.trans hvw⟩

/-- It does not matter how the tables came to be. -/
theorem Grows.extends {ms ms' : Members} (h : Grows ms ms') (o o' : TableOrigin) :
    Extends (.table o ms) (.table o' ms') := by
  intro path s hs
  cases path with
  | nil => cases hs
  | cons k path =>
    rw [textUnder?_table, Option.bind_eq_some_iff] at hs ⊢
    obtain ⟨v, hv, hs⟩ := hs
    obtain ⟨v', hv', hext⟩ := h k v hv
    exact ⟨v', hv', hext path s hs⟩

/-- No text stands under one of several tables. -/
theorem extends_tables (elements : List Toml) (v : Toml) : Extends (.tables elements) v := by
  intro path s hs
  cases path <;> cases hs

/-! ## One change of a table -/

theorem lookup_replace (k : String) (v : Toml) (ms : Members) (k' : String) :
    (replace k v ms).lookup k' =
      if k' = k then (ms.lookup k).map fun _ => v else ms.lookup k' := by
  induction ms with
  | nil => simp [replace]
  | cons m ms ih =>
    obtain ⟨n, old⟩ := m
    rw [replace]
    by_cases hn : n = k
    · subst hn
      by_cases hk : k' = n
      · simp [hk]
      · simp [List.lookup_cons, hk, beq_eq_false_iff_ne.mpr hk]
    · by_cases hk : k' = n
      · subst hk
        simp [hn]
      · simp [List.lookup_cons, hn, beq_eq_false_iff_ne.mpr hk,
          beq_eq_false_iff_ne.mpr (Ne.symm hn), ih]

theorem grows_append (ms : Members) (k : String) (v : Toml) : Grows ms (ms ++ [(k, v)]) := by
  intro k' u hu
  exact ⟨u, by rw [List.lookup_append, hu]; rfl, .refl u⟩

theorem grows_replace {ms : Members} {k : String} {v v' : Toml} (hv : ms.lookup k = some v)
    (h : Extends v v') : Grows ms (replace k v' ms) := by
  intro k' u hu
  rw [lookup_replace]
  by_cases hk : k' = k
  · subst hk
    obtain rfl := Option.some.inj (hv.symm.trans hu)
    exact ⟨v', by simp [hu], h⟩
  · exact ⟨u, by rw [if_neg hk, hu], .refl u⟩

/-- A change that keeps every text where it is. -/
def Growing (f : Members → Option Members) : Prop := ∀ ms ms', f ms = some ms' → Grows ms ms'

theorem Growing.within {f : Members → Option Members} (hf : Growing f)
    {admitted : TableOrigin → Bool} {v v' : Toml} (h : v.within admitted f = some v') :
    Extends v v' := by
  cases v with
  | table o ms =>
    rw [Toml.within] at h
    split at h
    · obtain ⟨ms', hms, rfl⟩ := Option.map_eq_some_iff.mp h
      exact (hf ms ms' hms).extends o o
    · cases h
  | tables elements => exact extends_tables elements v'
  | _ => cases h

theorem growing_foldlM {α : Type} {f : Members → α → Option Members}
    (hf : ∀ a, Growing (f · a)) (l : List α) : Growing (l.foldlM f) := by
  induction l with
  | nil =>
    intro ms ms' h
    obtain rfl := Option.some.inj h
    exact .refl ms
  | cons a l ih =>
    intro ms ms' h
    obtain ⟨mid, hmid, h⟩ := Option.bind_eq_some_iff.mp (List.foldlM_cons.symm.trans h)
    exact (hf a ms mid hmid).trans (ih mid ms' h)

/-! ## Pairs -/

theorem growing_assign (value : Toml) (key : List String) : Growing (assign value key) := by
  intro ms ms' h
  induction key generalizing ms ms' with
  | nil => cases h
  | cons k key ih =>
    cases key with
    | nil =>
      rw [assign, insertNew] at h
      split at h
      · obtain rfl := Option.some.inj h
        exact grows_append ms k value
      · cases h
    | cons next more =>
      rw [assign] at h
      split at h
      · obtain ⟨inner, -, rfl⟩ := Option.map_eq_some_iff.mp h
        exact grows_append ms k _
      · rename_i v hv
        obtain ⟨v', hv', rfl⟩ := Option.map_eq_some_iff.mp h
        exact grows_replace hv (Growing.within ih hv')

theorem growing_assignAll (pairs : List (List String × Toml)) : Growing (assignAll pairs) :=
  growing_foldlM (fun ((key, value) : List String × Toml) => growing_assign value key) pairs

/-- A text is under its key once all pairs are added. -/
theorem text_of_assignAll {pairs : List (List String × Toml)} {k s : String}
    (hpair : ([k], .string s) ∈ pairs) {ms ms' : Members} (h : assignAll pairs ms = some ms') :
    ∃ v, ms'.lookup k = some v ∧ Extends (.string s) v := by
  obtain ⟨before, after, rfl⟩ := List.append_of_mem hpair
  rw [assignAll, List.foldlM_append] at h
  obtain ⟨mid, -, h⟩ := Option.bind_eq_some_iff.mp h
  obtain ⟨set, hset, h⟩ := Option.bind_eq_some_iff.mp (List.foldlM_cons.symm.trans h)
  refine growing_assignAll after set ms' h k _ ?_
  simp only [assign, insertNew] at hset
  split at hset
  · rename_i hnone
    obtain rfl := Option.some.inj hset
    simp [List.lookup_append, hnone]
  · cases hset

/-! ## Sections -/

theorem Growing.descend {f : Members → Option Members} (hf : Growing f) (path : List String) :
    Growing (descend f path) := by
  intro ms ms' h
  induction path generalizing ms ms' with
  | nil => exact hf ms ms' h
  | cons k path ih =>
    rw [Toml.descend] at h
    split at h
    · obtain ⟨inner, -, rfl⟩ := Option.map_eq_some_iff.mp h
      exact grows_append ms k _
    · rename_i v hv
      obtain ⟨v', hv', rfl⟩ := Option.map_eq_some_iff.mp h
      exact grows_replace hv (Growing.within ih hv')

theorem growing_defineTable (name : String) (pairs : List (List String × Toml)) :
    Growing (defineTable name pairs) := by
  intro ms ms' h
  rw [defineTable] at h
  split at h
  · obtain ⟨inner, -, rfl⟩ := Option.map_eq_some_iff.mp h
    exact grows_append ms name _
  · rename_i inner hinner
    obtain ⟨inner', hinner', rfl⟩ := Option.map_eq_some_iff.mp h
    exact grows_replace hinner ((growing_assignAll pairs _ _ hinner').extends _ _)
  · cases h

theorem growing_addElement (name : String) (pairs : List (List String × Toml)) :
    Growing (addElement name pairs) := by
  intro ms ms' h
  rw [addElement] at h
  split at h
  · obtain ⟨inner, -, rfl⟩ := Option.map_eq_some_iff.mp h
    exact grows_append ms name _
  · rename_i elements helements
    obtain ⟨inner, -, rfl⟩ := Option.map_eq_some_iff.mp h
    exact grows_replace helements (extends_tables elements _)
  · cases h

theorem growing_addTo (sec : Section) : Growing sec.addTo := by
  intro root root' h
  rw [Section.addTo] at h
  split at h <;> obtain ⟨name, -, h⟩ := Option.bind_eq_some_iff.mp h
  · exact (growing_defineTable name sec.pairs).descend _ root root' h
  · exact (growing_addElement name sec.pairs).descend _ root root' h

theorem text?_of_addTo {sec : Section} {name k s : String} (hheader : sec.header = .table [name])
    (hpair : ([k], .string s) ∈ sec.pairs) {root root' : Members}
    (h : sec.addTo root = some root') : text? [name, k] root' = some s := by
  have hdefine : defineTable name sec.pairs root = some root' := by
    rw [Section.addTo, hheader] at h
    exact h
  have hinner : ∃ before inner, assignAll sec.pairs before = some inner ∧
      root'.lookup name = some (.table .header inner) := by
    rw [defineTable] at hdefine
    split at hdefine
    · rename_i hnone
      obtain ⟨inner, hinner, rfl⟩ := Option.map_eq_some_iff.mp hdefine
      exact ⟨[], inner, hinner, by simp [List.lookup_append, hnone]⟩
    · rename_i before hbefore
      obtain ⟨inner, hinner, rfl⟩ := Option.map_eq_some_iff.mp hdefine
      exact ⟨before, inner, hinner, by simp [lookup_replace, hbefore]⟩
    · cases hdefine
  obtain ⟨before, inner, hinner, htable⟩ := hinner
  obtain ⟨v, hv, hext⟩ := text_of_assignAll hpair hinner
  simpa [text?, htable, hv] using hext [] s rfl

/-- What a section of a table says is in the document. -/
theorem text?_of_mem {pairs : List (List String × Toml)} {sections : List Section} {doc : Members}
    (h : ofSections pairs sections = some doc) {sec : Section} (hsec : sec ∈ sections)
    {name k s : String} (hheader : sec.header = .table [name])
    (hpair : ([k], .string s) ∈ sec.pairs) : text? [name, k] doc = some s := by
  obtain ⟨root, -, h⟩ := Option.bind_eq_some_iff.mp h
  obtain ⟨before, after, rfl⟩ := List.append_of_mem hsec
  rw [List.foldlM_append] at h
  obtain ⟨mid, -, h⟩ := Option.bind_eq_some_iff.mp h
  obtain ⟨set, hset, h⟩ := Option.bind_eq_some_iff.mp (List.foldlM_cons.symm.trans h)
  have hgrows : Grows set doc := growing_foldlM growing_addTo after set doc h
  exact hgrows.extends .header .header _ _ (text?_of_addTo hheader hpair hset)

end EnumFamily.Toml
