import EnumFamily.Proofs.Adjusting
import EnumFamily.Proofs.PathSegments

/-!
# Which units the rule checks

The rule sees a unit by its qualified name and cuts that into segments again. For
units whose modules and name hold no colon this gives the modules back, so the
decision can be said on lists: the segments of a namespace, as one stretch of the
modules around the unit.

Results:
* `hasRun_iff`: the search for a stretch finds it.
* `enclosing_qualifiedName`: what lies around a unit.
* `skips_eq_false_iff_checked`: which units are checked.
-/
namespace EnumFamily.RuleConfig

/-! ## Stretches -/

theorem hasRun_iff {run modules : List String} :
    hasRun run modules = true ↔ run ≠ [] ∧ run <:+: modules := by
  induction modules with
  | nil => simp [hasRun]
  | cons m modules ih =>
    simp only [hasRun, Bool.and_eq_true, Bool.or_eq_true, List.isPrefixOf_iff_prefix, ih,
      List.infix_cons_iff, Bool.not_eq_true', List.isEmpty_eq_false_iff]
    constructor
    · rintro ⟨hne, hpre | ⟨-, hin⟩⟩
      · exact ⟨hne, Or.inl hpre⟩
      · exact ⟨hne, Or.inr hin⟩
    · rintro ⟨hne, hpre | hin⟩
      · exact ⟨hne, Or.inl hpre⟩
      · exact ⟨hne, Or.inr ⟨hne, hin⟩⟩

/-- Nothing is a stretch of no segments. -/
@[simp] theorem hasRun_nil (modules : List String) : hasRun [] modules = false := by
  cases modules <;> rfl

theorem inEnumNamespace_eq_false_iff {cfg : RuleConfig} {path : String} :
    cfg.inEnumNamespace path = false ↔
      hasRun (SymbolPath.segments cfg.enumNamespace) (enclosing path) = false ∨
        ∃ e, cfg.exemptNamespace = some e ∧
          hasRun (SymbolPath.segments e) (enclosing path) = true := by
  unfold inEnumNamespace
  rw [Bool.and_eq_false_iff]
  refine or_congr_right ?_
  cases cfg.exemptNamespace with
  | none => simp
  | some e => simp

/-! ## Units -/

section
variable {u : TypeUnit} (hfree : u.ColonFree) (hmodules : ∀ m ∈ u.modules, m ≠ "")
include hfree hmodules

theorem enclosing_qualifiedName (hname : u.name ≠ "") :
    enclosing u.qualifiedName = "crate" :: u.modules := by
  have hparts : ∀ p ∈ u.modules ++ [u.name], p ≠ "" := by
    intro p hp
    rcases List.mem_append.mp hp with hp | hp
    · exact hmodules p hp
    · rw [List.mem_singleton.mp hp]
      exact hname
  rw [enclosing, TypeUnit.qualifiedName, SymbolPath.segments_qualified hfree.parts hparts,
    List.dropLast_concat]

/-- A named unit is exempt if one namespace surrounds it and the other does not, or if
no parent type is among its ancestors. -/
theorem skips_host_eq_false_iff (cfg : RuleConfig) (h : Hierarchy) :
    cfg.skips h.host u = false ↔
      u.name ≠ "" ∧ (∃ p ∈ cfg.parentTypes, h.implements u.traits p = true) ∧
        (hasRun (SymbolPath.segments cfg.enumNamespace) ("crate" :: u.modules) = false ∨
          ∃ e, cfg.exemptNamespace = some e ∧
            hasRun (SymbolPath.segments e) ("crate" :: u.modules) = true) := by
  rw [skips_eq]
  by_cases hname : u.name = ""
  · simp [Hierarchy.host, hname]
  · have hname? : h.host.name? u = some u.qualifiedName := by
      simp [Hierarchy.host, hname]
    rw [hname?]
    simp only [Bool.or_eq_false_iff, Bool.not_eq_false', inEnumNamespace_eq_false_iff,
      enclosing_qualifiedName hfree hmodules hname, List.any_eq_true]
    rw [and_comm, and_iff_right hname]
    rfl

/-- The name of a unit is no namespace: another name changes nothing. -/
theorem skips_host_rename (cfg : RuleConfig) (h : Hierarchy) (hname : u.name ≠ "") {name : String}
    (hname' : name ≠ "") (hfree' : ':' ∉ name.toList) :
    cfg.skips h.host { u with name } = cfg.skips h.host u := by
  have hrenamed : TypeUnit.ColonFree { u with name } := ⟨hfree', hfree.modules⟩
  rw [Bool.eq_iff_iff, ← not_iff_not, Bool.not_eq_true, Bool.not_eq_true,
    skips_host_eq_false_iff hfree hmodules, skips_host_eq_false_iff hrenamed hmodules]
  simp [hname, hname']

end

/-- An exempt namespace without segments exempts nothing. -/
theorem skips_of_no_segments {α : Type} (cfg : RuleConfig) (host : Host α) (unit : α) {e : String}
    (he : SymbolPath.segments e = []) :
    { cfg with exemptNamespace := some e }.skips host unit =
      { cfg with exemptNamespace := none }.skips host unit := by
  have hsame : ∀ path, inEnumNamespace { cfg with exemptNamespace := some e } path =
      inEnumNamespace { cfg with exemptNamespace := none } path := by
    intro path
    simp [inEnumNamespace, he]
  rw [skips_eq, skips_eq]
  simp only [hsame]

/-- **Which units are checked.** Take a unit whose name and modules hold no colon and
whose modules are not empty. It is checked exactly if it has a name, a parent type is
among its ancestors, and the enum namespace has no segments, or its segments are not one
stretch of the modules around the unit from `crate` on, or those of the exempt namespace
are, and are not none. The name of the unit is no part of that stretch, so units that
differ in it are checked alike. And an exempt namespace of separators alone, or of no
text at all, is none. -/
theorem skips_eq_false_iff_checked (cfg : RuleConfig) (h : Hierarchy) {u : TypeUnit}
    (hfree : u.ColonFree) (hmodules : ∀ m ∈ u.modules, m ≠ "") :
    (cfg.skips h.host u = false ↔
      u.name ≠ "" ∧ (∃ p ∈ cfg.parentTypes, h.implements u.traits p = true) ∧
        (SymbolPath.IsSegments cfg.enumNamespace [] ∨
          (∃ parts, SymbolPath.IsSegments cfg.enumNamespace parts ∧
            ¬ parts <:+: "crate" :: u.modules) ∨
          ∃ e parts, cfg.exemptNamespace = some e ∧ SymbolPath.IsSegments e parts ∧
            parts ≠ [] ∧ parts <:+: "crate" :: u.modules)) ∧
    (∀ name, u.name ≠ "" → name ≠ "" → ':' ∉ name.toList →
      cfg.skips h.host { u with name } = cfg.skips h.host u) ∧
    ∀ (v : TypeUnit) (k : Nat),
      { cfg with exemptNamespace := some (String.join (List.replicate k "::")) }.skips h.host v =
        { cfg with exemptNamespace := none }.skips h.host v := by
  refine ⟨?_, fun name hname hname' hfree' => ?_, fun v k => ?_⟩
  · rw [skips_host_eq_false_iff hfree hmodules]
    simp only [SymbolPath.isSegments_iff, exists_eq_left', hasRun_iff, ← Bool.not_eq_true,
      not_and_or, not_not, or_assoc, exists_and_left]
  · exact skips_host_rename hfree hmodules cfg h hname hname' hfree'
  · exact skips_of_no_segments cfg h.host v (SymbolPath.segments_separators k)

/-- A unit in the modules `rules::enums`. -/
def ruleKind : TypeUnit where
  name := "Kind"
  modules := ["rules", "enums"]
  file := "src/rules/enums.rs"
  line := 1
  constants := []
  traits := ["Sellable"]
  declared := true

/-- Its trait has a supertrait. -/
def sellable : List TraitDecl := [⟨"Sellable", "crate::Sellable", ["Entity"]⟩]

/-- The unit is checked, since its namespace is exempt; so is one called like the enum
namespace. -/
theorem ruleKind_checked :
    ruleKind.ColonFree ∧ (∀ m ∈ ruleKind.modules, m ≠ "") ∧
      RuleConfig.skips { parentTypes := ["Entity"] } (Hierarchy.ofDecls sellable).host
        ruleKind = false ∧
      RuleConfig.skips { parentTypes := ["Entity"] } (Hierarchy.ofDecls sellable).host
        { ruleKind with name := "enums" } = false := by
  have hfree : ruleKind.ColonFree := ⟨by decide, by decide⟩
  have hmodules : ∀ m ∈ ruleKind.modules, m ≠ "" := by decide
  have hchain : ["Sellable", "Entity"].IsChain (Hierarchy.Lists sellable) :=
    List.isChain_pair.mpr ⟨_, List.mem_cons_self, by decide, List.mem_cons_self⟩
  have hparent : (Hierarchy.ofDecls sellable).implements ruleKind.traits "Entity" = true :=
    Hierarchy.implements_of_chain List.mem_cons_self hchain (by decide)
  have hexempt : SymbolPath.IsSegments "rules::enums" ["rules", "enums"] :=
    SymbolPath.isSegments_iff.mpr (by decide)
  obtain ⟨hiff, hrename, -⟩ := skips_eq_false_iff_checked { parentTypes := ["Entity"] }
    (Hierarchy.ofDecls sellable) hfree hmodules
  have hchecked := hiff.mpr ⟨by decide, ⟨_, List.mem_cons_self, hparent⟩,
    Or.inr (Or.inr ⟨_, _, rfl, hexempt, by decide, ⟨["crate"], [], by decide⟩⟩)⟩
  exact ⟨hfree, hmodules, hchecked,
    (hrename "enums" (by decide) (by decide) (by decide)).trans hchecked⟩

end EnumFamily.RuleConfig
