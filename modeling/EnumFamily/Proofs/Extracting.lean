import EnumFamily.Source.Extract
import EnumFamily.Proofs.ListOrder

/-!
# What the items of a file give

`Extraction.ofItems` walks through the items of a file and the modules inside it,
and changes the units as it goes. Here the items are first laid out in one list,
in source order, each with the modules around it (`Source.located`); a unit is then
said all at once, from the items that are about its type (`unitFrom`).

Results:
* `mem_located_iff`: the list holds what stands at module level, and no more.
* `addItems_eq_foldl`: the walk takes the items of the list one after the other.
* `unitFrom_concat`, `units_foldl`: what one item changes in a unit, and what all
  of them give.
* `ofItems_describes`: the units and the trait declarations of a file.
-/
namespace EnumFamily

/-! ## Items at module level -/

namespace Source

/-- `item` stands in the modules `ms` below a list of items. -/
inductive Occurs : List Item → List String → Item → Prop
  | here {items : List Item} {item : Item} : item ∈ items → Occurs items [] item
  | inside {items inner : List Item} {name : String} {ms : List String} {item : Item} :
      .module name inner ∈ items → Occurs inner ms item → Occurs items (name :: ms) item

/-- All items at module level in source order, each with the modules around it; a
module stands before the items in it. -/
def located (modules : List String) : List Item → List (List String × Item)
  | [] => []
  | .module name inner :: items =>
    (modules, .module name inner) ::
      (located (modules ++ [name]) inner ++ located modules items)
  | item :: items => (modules, item) :: located modules items

theorem occurs_nil {ms : List String} {item : Item} : ¬ Occurs [] ms item := by
  rintro (h | ⟨h, -⟩)
  · exact List.not_mem_nil h
  · exact List.not_mem_nil h

theorem occurs_module_cons_iff {name : String} {inner items : List Item} {ms : List String}
    {item : Item} : Occurs (.module name inner :: items) ms item ↔
      (ms = [] ∧ item = .module name inner) ∨ (∃ rest, ms = name :: rest ∧ Occurs inner rest item) ∨
        Occurs items ms item := by
  constructor
  · rintro (h | ⟨hmodule, h⟩)
    · rcases List.mem_cons.mp h with rfl | h
      · exact Or.inl ⟨rfl, rfl⟩
      · exact Or.inr (Or.inr (.here h))
    · rcases List.mem_cons.mp hmodule with hm | hmodule
      · obtain ⟨rfl, rfl⟩ := Item.module.inj hm
        exact Or.inr (Or.inl ⟨_, rfl, h⟩)
      · exact Or.inr (Or.inr (.inside hmodule h))
  · rintro (⟨rfl, rfl⟩ | ⟨rest, rfl, h⟩ | (h | ⟨hmodule, h⟩))
    · exact .here List.mem_cons_self
    · exact .inside List.mem_cons_self h
    · exact .here (List.mem_cons_of_mem _ h)
    · exact .inside (List.mem_cons_of_mem _ hmodule) h

theorem occurs_cons_iff {i item : Item} (hi : ∀ name inner, i ≠ .module name inner)
    {items : List Item} {ms : List String} :
    Occurs (i :: items) ms item ↔ (ms = [] ∧ item = i) ∨ Occurs items ms item := by
  constructor
  · rintro (h | ⟨hmodule, h⟩)
    · exact (List.mem_cons.mp h).imp (fun h => ⟨rfl, h⟩) .here
    · rcases List.mem_cons.mp hmodule with hm | hmodule
      · exact absurd hm.symm (hi _ _)
      · exact Or.inr (.inside hmodule h)
  · rintro (⟨rfl, rfl⟩ | (h | ⟨hmodule, h⟩))
    · exact .here List.mem_cons_self
    · exact .here (List.mem_cons_of_mem _ h)
    · exact .inside (List.mem_cons_of_mem _ hmodule) h

theorem mem_located_iff {modules : List String} {items : List Item} {m : List String}
    {item : Item} : (m, item) ∈ located modules items ↔
      ∃ ms, m = modules ++ ms ∧ Occurs items ms item := by
  fun_induction located modules items with
  | case1 modules => simp [occurs_nil]
  | case2 modules name inner items ihinner ihitems =>
    simp only [List.mem_cons, List.mem_append, ihinner, ihitems, occurs_module_cons_iff]
    constructor
    · rintro (h | ⟨ms, rfl, h⟩ | ⟨ms, rfl, h⟩)
      · obtain ⟨rfl, rfl⟩ := Prod.mk.inj h
        exact ⟨[], by simp, Or.inl ⟨rfl, rfl⟩⟩
      · exact ⟨name :: ms, by simp, Or.inr (Or.inl ⟨ms, rfl, h⟩)⟩
      · exact ⟨ms, rfl, Or.inr (Or.inr h)⟩
    · rintro ⟨ms, rfl, ⟨rfl, rfl⟩ | ⟨rest, rfl, h⟩ | h⟩
      · exact Or.inl (by simp)
      · exact Or.inr (Or.inl ⟨rest, by simp, h⟩)
      · exact Or.inr (Or.inr ⟨ms, rfl, h⟩)
  | case3 modules i items hi ih =>
    simp only [List.mem_cons, ih, occurs_cons_iff hi]
    constructor
    · rintro (h | ⟨ms, rfl, h⟩)
      · obtain ⟨rfl, rfl⟩ := Prod.mk.inj h
        exact ⟨[], by simp, Or.inl ⟨rfl, rfl⟩⟩
      · exact ⟨ms, rfl, Or.inr h⟩
    · rintro ⟨ms, rfl, ⟨rfl, rfl⟩ | h⟩
      · exact Or.inl (by simp)
      · exact Or.inr ⟨ms, rfl, h⟩

/-! ## What an item says about a type -/

namespace Item

/-- The type that an item is about: the one that it declares, or that a block is
for. A negative block says nothing about its type. -/
def subject? : Item → Option String
  | .type name _ => some name
  | .impl block => if block.trait?.any (·.negative) then none else block.self.name?
  | _ => none

/-- The line of the name in a type declaration. -/
def typeLine? : Item → Option Nat
  | .type _ line => some line
  | _ => none

def implLine? : Item → Option Nat
  | .impl block => some block.line
  | _ => none

/-- The constants of a block of the type's own items. -/
def constants : Item → List String
  | .impl block => if block.trait?.isNone then block.items.filterMap ImplItem.const? else []
  | _ => []

/-- The trait that a block implements, as a path. -/
def traitPath? : Item → Option String
  | .impl block => block.trait?.map fun t => SymbolPath.join t.segments
  | _ => none

/-- The line at which an item makes a unit. -/
def line : Item → Nat
  | .type _ line => line
  | .impl block => block.line
  | _ => 0

theorem subject?_eq_some_iff {i : Item} {name : String} :
    i.subject? = some name ↔ (∃ line, i = .type name line) ∨
      ∃ block, i = .impl block ∧ block.self.name? = some name ∧
        ∀ t, block.trait? = some t → t.negative = false := by
  cases i with
  | type n line => simp [subject?]
  | impl block =>
    cases ht : block.trait? with
    | none => simp [subject?, ht]
    | some t => cases hneg : t.negative <;> simp [subject?, ht, hneg]
  | trait n bounds => simp [subject?]
  | module n items => simp [subject?]
  | other => simp [subject?]

end Item

/-- The unit that an item at a place is about, by its modules and its name. -/
def keyOf? (x : List String × Item) : Option (List String × String) :=
  x.2.subject?.map (x.1, ·)

/-- The items that are about a type, in source order. -/
def about (found : List (List String × Item)) (key : List String × String) : List Item :=
  (found.filter (keyOf? · == some key)).map (·.2)

/-- The declaration that an item is, if it is one of a trait. -/
def traitDecl? : List String × Item → Option TraitDecl
  | (modules, .trait name bounds) =>
    some { name, qualifiedName := SymbolPath.qualified modules name,
           supertraits := (bounds.filterMap Bound.supertrait?).map SymbolPath.join }
  | _ => none

theorem keyOf?_eq_some_iff {x : List String × Item} {m : List String} {n : String} :
    keyOf? x = some (m, n) ↔ x.1 = m ∧ x.2.subject? = some n := by
  simp only [keyOf?, Option.map_eq_some_iff, Prod.mk.injEq]
  constructor
  · rintro ⟨_, hn, rfl, rfl⟩
    exact ⟨rfl, hn⟩
  · rintro ⟨rfl, hn⟩
    exact ⟨n, hn, rfl, rfl⟩

theorem mem_about_iff {found : List (List String × Item)} {m : List String} {n : String}
    {i : Item} : i ∈ about found (m, n) ↔ (m, i) ∈ found ∧ i.subject? = some n := by
  simp only [about, List.mem_map, List.mem_filter, beq_iff_eq, keyOf?_eq_some_iff, Prod.exists]
  constructor
  · rintro ⟨_, _, ⟨h, rfl, hn⟩, rfl⟩
    exact ⟨h, hn⟩
  · rintro ⟨h, hn⟩
    exact ⟨m, i, ⟨h, rfl, hn⟩, rfl⟩

theorem about_eq_nil_iff {found : List (List String × Item)} {key : List String × String} :
    about found key = [] ↔ key ∉ found.filterMap keyOf? := by
  simp [about]

theorem about_concat_of_eq (found : List (List String × Item)) {x : List String × Item}
    {key : List String × String} (hx : keyOf? x = some key) :
    about (found ++ [x]) key = about found key ++ [x.2] := by
  simp [about, List.filter_append, hx]

theorem about_concat_of_ne (found : List (List String × Item)) {x : List String × Item}
    {key : List String × String} (hx : keyOf? x ≠ some key) :
    about (found ++ [x]) key = about found key := by
  simp [about, List.filter_append, hx]

end Source

/-! ## One item after the other -/

namespace Extraction

open Source (Item ImplBlock ImplItem located keyOf? about traitDecl?)

/-- What an item adds by itself, apart from the items inside it. -/
def addOwn (file : String) (e : Extraction) : List String × Item → Extraction
  | (modules, .type name line) => e.addType { file, modules } name line
  | (modules, .impl block) => e.addImpl { file, modules } block
  | (modules, .trait name bounds) => e.addTrait { file, modules } name bounds
  | _ => e

mutual

theorem addItem_eq_foldl (file : String) (modules : List String) (e : Extraction) :
    (i : Item) → addItem { file, modules } e i = (located modules [i]).foldl (addOwn file) e
  | .module name inner => by
    rw [addItem, addItems_eq_foldl]
    simp [located, addOwn]
  | .type name line => by simp [addItem, located, addOwn]
  | .impl block => by simp [addItem, located, addOwn]
  | .trait name bounds => by simp [addItem, located, addOwn]
  | .other => by simp [addItem, located, addOwn]

theorem addItems_eq_foldl (file : String) (modules : List String) (e : Extraction) :
    (items : List Item) →
      addItems { file, modules } e items = (located modules items).foldl (addOwn file) e
  | [] => by rw [addItems, located]; rfl
  | i :: items => by
    have hsplit : located modules (i :: items) = located modules [i] ++ located modules items := by
      cases i <;> simp [located]
    rw [addItems, addItem_eq_foldl, addItems_eq_foldl, hsplit, List.foldl_append]

end

theorem ofItems_eq_foldl (file : String) (modules : List String) (items : List Item) :
    ofItems file modules items = (located modules items).foldl (addOwn file) empty :=
  addItems_eq_foldl file modules empty items

theorem traits_foldl (file : String) (found : List (List String × Item)) (e : Extraction) :
    (found.foldl (addOwn file) e).traits = e.traits ++ found.filterMap traitDecl? := by
  induction found generalizing e with
  | nil => simp
  | cons x found ih =>
    rw [List.foldl_cons, ih, List.filterMap_cons]
    obtain ⟨modules, i⟩ := x
    cases i with
    | type name line => simp [addOwn, addType, traitDecl?]
    | impl block =>
      have htraits : (addImpl { file, modules } block e).traits = e.traits := by
        unfold addImpl
        split
        · rfl
        · split
          · split <;> rfl
          · rfl
      simp [addOwn, htraits, traitDecl?]
    | trait name bounds => simp [addOwn, addTrait, traitDecl?]
    | module name inner => simp [addOwn, traitDecl?]
    | other => simp [addOwn, traitDecl?]

/-! ## From the items of a type to its unit -/

/-- A unit is told from others by its modules and its name. -/
def key (u : TypeUnit) : List String × String := (u.modules, u.name)

/-- What an item changes in the unit that it is about. -/
def applyItem (i : Item) (u : TypeUnit) : TypeUnit :=
  match i with
  | .type _ line => { u with line, declared := true }
  | .impl block =>
    match block.trait? with
    | some t => withTrait (SymbolPath.join t.segments) u
    | none => { u with constants := u.constants ++ block.items.filterMap ImplItem.const? }
  | _ => u

theorem applyItem_own {block : ImplBlock} (ht : block.trait? = none) :
    applyItem (.impl block) = fun u =>
      { u with constants := u.constants ++ block.items.filterMap ImplItem.const? } := by
  funext u
  simp only [applyItem, ht]

theorem applyItem_trait {block : ImplBlock} {t : Source.ImplTrait} (ht : block.trait? = some t) :
    applyItem (.impl block) = withTrait (SymbolPath.join t.segments) := by
  funext u
  simp only [applyItem, ht]

theorem withTrait_eq (path : String) (u : TypeUnit) :
    withTrait path u =
      { u with traits := if path ∈ u.traits then u.traits else u.traits ++ [path] } := by
  unfold withTrait
  by_cases h : path ∈ u.traits
  · simp [h]
  · simp [h]

/-- The unit of a type, from all items that are about it. -/
def unitFrom (file : String) (k : List String × String) (items : List Item) : TypeUnit :=
  { name := k.2
    modules := k.1
    file
    line := ((items.filterMap Item.typeLine?).getLast?.or (items.head?.map Item.line)).getD 0
    constants := items.flatMap Item.constants
    traits := (items.filterMap Item.traitPath?).eraseDups
    declared := items.any (·.typeLine?.isSome) }

theorem change_eq_upsert (fresh : TypeUnit) (f : TypeUnit → TypeUnit) (us : List TypeUnit) :
    change fresh f us = upsert key fresh f us := by
  induction us with
  | nil => rfl
  | cons u us ih =>
    rw [change, upsert, ih]
    simp only [key, Prod.mk.injEq]

/-- An item changes the unit that it is about, and no other. -/
theorem units_addOwn (file : String) (e : Extraction) (x : List String × Item) :
    (addOwn file e x).units =
      match keyOf? x with
      | none => e.units
      | some k =>
        upsert key (freshUnit { file, modules := k.1 } k.2 x.2.line) (applyItem x.2) e.units := by
  obtain ⟨modules, i⟩ := x
  cases i with
  | type name line =>
    simp only [addOwn, addType, keyOf?, Item.subject?, Option.map_some, change_eq_upsert]
    rfl
  | impl block =>
    simp only [addOwn, addImpl, keyOf?, Item.subject?, change_eq_upsert]
    cases hname : block.self.name? with
    | none => simp
    | some name =>
      cases ht : block.trait? with
      | none => simp [applyItem_own ht, Item.line]
      | some t => cases hneg : t.negative <;> simp [applyItem_trait ht, hneg, Item.line]
  | trait name bounds => rfl
  | module name inner => rfl
  | other => rfl

theorem unitFrom_concat (file : String) (k : List String × String) {items : List Item}
    (hne : items ≠ []) {i : Item} (hi : i.subject?.isSome = true) :
    unitFrom file k (items ++ [i]) = applyItem i (unitFrom file k items) := by
  have hhead : (items ++ [i]).head? = items.head? := by
    cases items with
    | nil => exact absurd rfl hne
    | cons j js => rfl
  unfold unitFrom
  rw [hhead]
  cases i with
  | type name line =>
    simp [applyItem, List.filterMap_cons, Item.typeLine?, Item.constants, Item.traitPath?]
  | impl block =>
    cases ht : block.trait? with
    | none =>
      simp [applyItem_own ht, List.filterMap_cons, Item.typeLine?, Item.constants,
        Item.traitPath?, ht]
    | some t =>
      have hpath : Item.traitPath? (.impl block) = some (SymbolPath.join t.segments) := by
        simp [Item.traitPath?, ht]
      simp [applyItem_trait ht, withTrait_eq, List.filterMap_cons, Item.typeLine?, Item.constants,
        hpath, ht, eraseDups_concat]
  | trait name bounds => simp [Item.subject?] at hi
  | module name inner => simp [Item.subject?] at hi
  | other => simp [Item.subject?] at hi

theorem unitFrom_singleton (file : String) (k : List String × String) {i : Item}
    (hi : i.subject?.isSome = true) :
    unitFrom file k [i] = applyItem i (freshUnit { file, modules := k.1 } k.2 i.line) := by
  cases i with
  | type name line => rfl
  | impl block =>
    cases ht : block.trait? with
    | none =>
      simp [unitFrom, applyItem_own ht, freshUnit, List.filterMap_cons, Item.typeLine?,
        Item.constants, Item.traitPath?, ht]
    | some t =>
      simp [unitFrom, applyItem_trait ht, freshUnit, withTrait_eq, List.filterMap_cons,
        Item.typeLine?, Item.constants, Item.traitPath?, ht, List.eraseDups_cons]
  | trait name bounds => simp [Item.subject?] at hi
  | module name inner => simp [Item.subject?] at hi
  | other => simp [Item.subject?] at hi

/-- The units after the items of a list: one for each type, in the order in which
the types are first mentioned. -/
theorem units_foldl (file : String) (found : List (List String × Item)) :
    (found.foldl (addOwn file) empty).units =
      (found.filterMap keyOf?).eraseDups.map fun k => unitFrom file k (about found k) := by
  induction found using List.reverseRecOn with
  | nil => rfl
  | append_singleton found x ih =>
    rw [List.foldl_append, List.foldl_cons, List.foldl_nil, units_addOwn, ih,
      List.filterMap_append]
    cases hx : keyOf? x with
    | none =>
      rw [List.filterMap_cons_none hx, List.filterMap_nil, List.append_nil]
      refine List.map_congr_left fun k _ => ?_
      rw [Source.about_concat_of_ne found (by simp [hx])]
    | some k =>
      have hsubject : x.2.subject?.isSome = true := by
        rw [(Source.keyOf?_eq_some_iff.mp hx).2]
        rfl
      have hkey : ∀ k, key (unitFrom file k (about found k)) = k := fun _ => rfl
      rw [List.filterMap_cons_some hx, List.filterMap_nil]
      dsimp only
      refine upsert_eraseDups hkey (fun k' _ hne => ?_) (fun hold => ?_) fun hnew => ?_
      · rw [Source.about_concat_of_ne found fun h => hne (Option.some.inj (h.symm.trans hx))]
      · have hne : about found k ≠ [] := fun h => Source.about_eq_nil_iff.mp h hold
        exact (congrArg _ (Source.about_concat_of_eq found hx)).trans
          (unitFrom_concat file k hne hsubject)
      · have hnil : about found k = [] := Source.about_eq_nil_iff.mpr hnew
        refine (congrArg _ (Source.about_concat_of_eq found hx)).trans ?_
        rw [hnil]
        exact unitFrom_singleton file k hsubject

/-! ## What the units say -/

/-- A unit says what the items about its type say: the constants of the type's own
blocks, the traits of the others, whether the type is declared, and where. -/
structure Describes (file : String) (items : List Item) (u : TypeUnit) : Prop where
  file : u.file = file
  constants : u.constants = items.flatMap Item.constants
  traits : FirstAppearances (items.filterMap Item.traitPath?) u.traits
  declared : u.declared = true ↔ ∃ line, .type u.name line ∈ items
  /-- the line of the last declaration -/
  line_declared : u.declared = true → (items.filterMap Item.typeLine?).getLast? = some u.line
  /-- the line of the first block -/
  line_implemented : u.declared = false → (items.filterMap Item.implLine?).head? = some u.line

theorem isSome_typeLine_iff {i : Item} {n : String} (hi : i.subject? = some n) :
    i.typeLine?.isSome = true ↔ ∃ line, i = .type n line := by
  rcases Source.Item.subject?_eq_some_iff.mp hi with ⟨line, rfl⟩ | ⟨block, rfl, -⟩
  · simp [Item.typeLine?]
  · simp [Item.typeLine?]

theorem describes_unitFrom (file : String) {k : List String × String} {items : List Item}
    (hne : items ≠ []) (hall : ∀ i ∈ items, i.subject? = some k.2) :
    Describes file items (unitFrom file k items) where
  file := rfl
  constants := rfl
  traits := firstAppearances_eraseDups _
  declared := by
    simp only [unitFrom, List.any_eq_true]
    constructor
    · rintro ⟨i, hi, hline⟩
      obtain ⟨line, rfl⟩ := (isSome_typeLine_iff (hall i hi)).mp hline
      exact ⟨line, hi⟩
    · rintro ⟨line, hi⟩
      exact ⟨_, hi, rfl⟩
  line_declared h := by
    obtain ⟨i, hi, hline⟩ := List.any_eq_true.mp h
    obtain ⟨line, hline⟩ := Option.isSome_iff_exists.mp hline
    have hlines : items.filterMap Item.typeLine? ≠ [] :=
      List.ne_nil_of_mem (List.mem_filterMap.mpr ⟨i, hi, hline⟩)
    have hlast := List.getLast?_eq_some_getLast hlines
    simp only [unitFrom, hlast, Option.some_or, Option.getD_some]
  line_implemented h := by
    have hnone : ∀ i ∈ items, i.typeLine? = none := by
      intro i hi
      simpa using List.any_eq_false.mp h i hi
    have hlines : items.filterMap Item.typeLine? = [] := List.filterMap_eq_nil_iff.mpr hnone
    -- without a declaration the first item is a block
    cases items with
    | nil => exact absurd rfl hne
    | cons i items =>
      have hblock : i.implLine? = some i.line := by
        rcases Source.Item.subject?_eq_some_iff.mp (hall i List.mem_cons_self) with
          ⟨line, rfl⟩ | ⟨block, rfl, -⟩
        · cases hnone _ List.mem_cons_self
        · rfl
      simp [unitFrom, hlines, List.filterMap_cons_some hblock]

theorem units_ofItems (file : String) (base : List String) (items : List Item) :
    (ofItems file base items).units =
      ((located base items).filterMap keyOf?).eraseDups.map fun k =>
        unitFrom file k (about (located base items) k) := by
  rw [ofItems_eq_foldl, units_foldl]

theorem map_key_units (file : String) (base : List String) (items : List Item) :
    (ofItems file base items).units.map key =
      ((located base items).filterMap keyOf?).eraseDups := by
  rw [units_ofItems, List.map_map]
  exact List.map_id _

/-- Which types have a unit. -/
theorem exists_unit_iff {file : String} {base : List String} {items : List Item}
    {m : List String} {n : String} :
    (∃ u ∈ (ofItems file base items).units, u.modules = m ∧ u.name = n) ↔
      ∃ i, (m, i) ∈ located base items ∧ i.subject? = some n := by
  have hmem : (∃ u ∈ (ofItems file base items).units, u.modules = m ∧ u.name = n) ↔
      (m, n) ∈ (ofItems file base items).units.map key := by
    simp [key]
  rw [hmem, map_key_units, List.mem_eraseDups, List.mem_filterMap]
  constructor
  · rintro ⟨x, hx, hkey⟩
    obtain ⟨rfl, hn⟩ := Source.keyOf?_eq_some_iff.mp hkey
    exact ⟨x.2, hx, hn⟩
  · rintro ⟨i, hi, hn⟩
    exact ⟨(m, i), hi, Source.keyOf?_eq_some_iff.mpr ⟨rfl, hn⟩⟩

end Extraction

end EnumFamily
