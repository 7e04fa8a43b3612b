import EnumFamily.Proofs.Ancestry
import EnumFamily.Proofs.Families
import EnumFamily.Proofs.Gathering

/-!
# Adjusting a plan

A plan may deny further stems, ignore further units and check the implementors
of further parent types. Each of these is a filter: it chooses among the
families of one list, which the order of the report does not disturb.

* `deny` and `ignore` leave findings out of the report, by their stem and by the
  path of their unit.
* `addParentTypes` puts findings in between; the report without them is what is
  left if the units that only the new types bring in are taken out.

Results:
* `reported_filter`: a plan that keeps some families of another one at every site
  reports those families.
* `diagnostics_deny`, `diagnostics_ignore`: what further stems and patterns leave.
* `diagnostics_sublist_addParentTypes`, `mem_diagnostics_addParentTypes`,
  `diagnostics_congr_parents`: what further parent types add, and that only their set
  matters.
* `findings_adjusted`: all this for the analysis of a file tree.
-/
namespace EnumFamily

/-! ## The path of a unit -/

/-- The path of the unit that a finding is about: its qualified name without the
segment of the package and the `::` behind it. -/
def Diagnostic.unitPath (d : Diagnostic) : String :=
  String.ofList (SymbolPath.dropRoot (d.unit.toList.drop "crate".length))

theorem SymbolPath.toList_qualified (modules : List String) (name : String) :
    (qualified modules name).toList =
      "crate".toList ++ "::".toList ++ (join (modules ++ [name])).toList := by
  unfold qualified join
  rw [List.cons_append, String.intercalate_cons_of_ne_nil (by simp), String.toList_append,
    String.toList_append]

/-- A finding shows the path of its unit as ignore patterns see it. -/
theorem Family.unitPath_diagnostic (cfg : RuleConfig) (f : Family) :
    (f.diagnostic cfg).unitPath = IgnorePattern.subject f.site.unit := by
  have hpath : (f.diagnostic cfg).unit.toList.drop "crate".length =
      ':' :: ':' :: (SymbolPath.join (f.site.unit.modules ++ [f.site.unit.name])).toList := by
    unfold Family.diagnostic TypeUnit.qualifiedName
    rw [SymbolPath.toList_qualified]
    rfl
  unfold Diagnostic.unitPath IgnorePattern.subject
  rw [hpath]
  cases f.site.unit.modules with
  | nil => simp [SymbolPath.join]
  | cons m ms =>
    have hjoin : SymbolPath.join (m :: ms ++ [f.site.unit.name]) =
        SymbolPath.join (m :: ms) ++ "::" ++ f.site.unit.name :=
      String.intercalate_append_of_ne_nil (List.cons_ne_nil m ms) (by simp)
    rw [hjoin, SymbolPath.dropRoot]

/-! ## Which units a plan checks -/

/-- A unit is exempt if it has no name, if it stands in the enum namespace, or if
no parent type is among its ancestors. -/
theorem RuleConfig.skips_eq {α : Type} (cfg : RuleConfig) (host : Host α) (unit : α) :
    cfg.skips host unit =
      match host.name? unit with
      | none => true
      | some name => cfg.inEnumNamespace name || !cfg.parentTypes.any (host.hasAncestor unit) := by
  unfold skips judge
  cases host.name? unit with
  | none => rfl
  | some name =>
    by_cases henum : cfg.inEnumNamespace name = true
    · simp only [henum]
      rfl
    · by_cases hparent : cfg.parentTypes.any (host.hasAncestor unit) = true
      · simp only [henum, hparent]
        rfl
      · simp only [henum, hparent]
        rfl

namespace Plan

/-- What a plan asks of a unit apart from its ancestors. -/
def admits (p : Plan) (u : TypeUnit) : Bool :=
  !p.isIgnored u && !u.name.isEmpty && !p.rule.inEnumNamespace u.qualifiedName

/-- One of the types is among the ancestors of the unit at a site. -/
def hasParent (rs : List Reading) (s : Site) (types : List String) : Bool :=
  types.any ((Hierarchy.ofDecls (Target.traitsSeen rs s.target)).implements s.unit.traits)

theorem checks_eq (p : Plan) (rs : List Reading) (s : Site) :
    p.checks rs s = (p.admits s.unit && hasParent rs s p.rule.parentTypes) := by
  unfold checks admits hasParent
  rw [RuleConfig.skips_eq]
  by_cases hname : s.unit.name.isEmpty = true
  · simp only [Hierarchy.host, hname]
    simp
  · simp only [Hierarchy.host, hname, Bool.and_assoc]
    simp

/-- The plan with other parent types in the place of its own. -/
def setParentTypes (p : Plan) (types : List String) : Plan :=
  { p with rule := { p.rule with parentTypes := types } }

section
variable (p : Plan) (rs : List Reading)

theorem checks_deny (stems : List String) (s : Site) :
    (p.deny stems).checks rs s = p.checks rs s := by
  rw [checks_eq, checks_eq]
  rfl

theorem checks_ignore (patterns : List String) (s : Site) :
    (p.ignore patterns).checks rs s =
      (p.checks rs s && !IgnorePattern.anyAccepts patterns (IgnorePattern.subject s.unit)) := by
  have hignored : (p.ignore patterns).isIgnored s.unit = (p.isIgnored s.unit ||
      IgnorePattern.anyAccepts patterns (IgnorePattern.subject s.unit)) := List.any_append
  have hrule : (p.ignore patterns).rule = p.rule := rfl
  unfold checks
  rw [hignored, hrule, Bool.not_or, Bool.and_right_comm]

theorem checks_setParentTypes (types : List String) (s : Site) :
    (p.setParentTypes types).checks rs s = (p.admits s.unit && hasParent rs s types) := by
  rw [checks_eq]
  rfl

/-- A unit is checked by further parent types if it was before, or if it is by
the further ones alone. -/
theorem checks_addParentTypes (types : List String) (s : Site) :
    (p.addParentTypes types).checks rs s =
      (p.checks rs s || (p.setParentTypes types).checks rs s) := by
  have hparent : hasParent rs s (p.rule.parentTypes ++ types) =
      (hasParent rs s p.rule.parentTypes || hasParent rs s types) := List.any_append
  have hadd : p.addParentTypes types = p.setParentTypes (p.rule.parentTypes ++ types) := rfl
  rw [hadd, checks_setParentTypes, checks_setParentTypes, checks_eq, hparent,
    Bool.and_or_distrib_left]

theorem checks_congr_parents {types types' : List String} (h : ∀ a, a ∈ types ↔ a ∈ types')
    (s : Site) :
    (p.setParentTypes types).checks rs s = (p.setParentTypes types').checks rs s := by
  have hparent : hasParent rs s types = hasParent rs s types' := by
    unfold hasParent
    rw [Bool.eq_iff_iff, List.any_eq_true, List.any_eq_true]
    simp only [h]
  rw [checks_setParentTypes, checks_setParentTypes, hparent]

/-! ## Families that a plan keeps -/

variable {p rs} {p' : Plan}

/-- Leaving out families site by site is leaving them out of the report. -/
theorem reported_filter {keep : Family → Bool}
    (h : ∀ s, p'.familiesAt rs s = (p.familiesAt rs s).filter keep) :
    p'.reported rs = (p.reported rs).filter keep := by
  have hfamilies : p'.families rs = (p.families rs).filter keep := by
    rw [families_eq, families_eq, List.filter_flatMap]
    exact congrArg List.flatten (List.map_congr_left fun s _ => h s)
  rw [reported, hfamilies, mergeSort_filter Family.placeLe_isTotalPreorder, reported]

/-- Where fewer sites are checked, the families of the others stay as they are. -/
theorem familiesAt_filter (keep : Site → Bool) {s : Site}
    (hchecks : p'.checks rs s = (p.checks rs s && keep s))
    (hstems : p'.stemsOf s.unit = p.stemsOf s.unit) :
    p'.familiesAt rs s = (p.familiesAt rs s).filter (keep ·.site) := by
  unfold familiesAt
  rw [hchecks, hstems]
  cases p.checks rs s with
  | false => rfl
  | true =>
    cases hkeep : keep s with
    | true =>
      rw [Bool.and_self, if_pos rfl, List.filter_map, List.filter_eq_self.mpr]
      intro k _
      exact hkeep
    | false => simp [hkeep]

theorem diagnostic_congr (hsep : p'.rule.separator = p.rule.separator) :
    Family.diagnostic p'.rule = Family.diagnostic p.rule := by
  funext f
  simp only [Family.diagnostic, Family.members, hsep]

/-- The findings of the families that are kept, if that can be seen from a finding. -/
theorem diagnostics_filter {keep : Diagnostic → Bool}
    (hsep : p'.rule.separator = p.rule.separator)
    (h : ∀ s, p'.familiesAt rs s =
      (p.familiesAt rs s).filter fun f => keep (f.diagnostic p.rule)) :
    (p'.report rs).diagnostics = (p.report rs).diagnostics.filter keep := by
  rw [diagnostics_eq_reported, diagnostics_eq_reported, reported_filter h, diagnostic_congr hsep,
    List.filter_map]
  rfl

/-! ## What is left out and what is added -/

variable (p rs)

theorem stemsOf_deny (stems : List String) (u : TypeUnit) :
    (p.deny stems).stemsOf u = (p.stemsOf u).filter (!stems.contains ·) := by
  unfold stemsOf
  rw [List.filter_filter]
  refine List.filter_congr fun k _ => ?_
  have hdenied : (p.deny stems).rule.denied.contains k =
      (stems.contains k || p.rule.denied.contains k) := DenyList.contains_extend _ _ _
  rw [hdenied, Bool.not_or, Bool.and_left_comm]
  rfl

theorem diagnostics_deny (stems : List String) :
    ((p.deny stems).report rs).diagnostics =
      (p.report rs).diagnostics.filter (!stems.contains ·.stem) := by
  refine diagnostics_filter rfl fun s => ?_
  unfold familiesAt
  rw [checks_deny, stemsOf_deny]
  split
  · rw [List.filter_map]
    rfl
  · rfl

theorem diagnostics_ignore (patterns : List String) :
    ((p.ignore patterns).report rs).diagnostics =
      (p.report rs).diagnostics.filter (!IgnorePattern.anyAccepts patterns ·.unitPath) := by
  refine diagnostics_filter rfl fun s => ?_
  simp only [Family.unitPath_diagnostic]
  exact familiesAt_filter (fun s => !IgnorePattern.anyAccepts patterns
    (IgnorePattern.subject s.unit)) (checks_ignore p rs patterns s) rfl

/-- Without the units that only further parent types bring in, the report is the
one without these types. -/
theorem reported_addParentTypes (types : List String) :
    p.reported rs = ((p.addParentTypes types).reported rs).filter (p.checks rs ·.site) := by
  refine reported_filter fun s => familiesAt_filter (p.checks rs) ?_ rfl
  rw [checks_addParentTypes, Bool.and_comm]
  cases p.checks rs s <;> rfl

theorem mem_families_addParentTypes (types : List String) {f : Family} :
    f ∈ (p.addParentTypes types).families rs ↔
      f ∈ p.families rs ∨ f ∈ (p.setParentTypes types).families rs := by
  have hstems : (p.addParentTypes types).stemsOf = p.stemsOf := rfl
  have hstems' : (p.setParentTypes types).stemsOf = p.stemsOf := rfl
  simp only [mem_families_iff, checks_addParentTypes, Bool.or_eq_true, hstems, hstems']
  constructor
  · rintro ⟨hsite, hcheck | hcheck, hstem⟩
    · exact Or.inl ⟨hsite, hcheck, hstem⟩
    · exact Or.inr ⟨hsite, hcheck, hstem⟩
  · rintro (⟨hsite, hcheck, hstem⟩ | ⟨hsite, hcheck, hstem⟩)
    · exact ⟨hsite, Or.inl hcheck, hstem⟩
    · exact ⟨hsite, Or.inr hcheck, hstem⟩

theorem mem_diagnostics_iff {d : Diagnostic} :
    d ∈ (p.report rs).diagnostics ↔ ∃ f ∈ p.families rs, f.diagnostic p.rule = d := by
  rw [diagnostics_eq_reported, List.mem_map, reported]
  simp only [List.mem_mergeSort]

/-- Further parent types take no finding away and do not reorder those that were
there. -/
theorem diagnostics_sublist_addParentTypes (types : List String) :
    (p.report rs).diagnostics.Sublist ((p.addParentTypes types).report rs).diagnostics := by
  have hsep : (p.addParentTypes types).rule.separator = p.rule.separator := rfl
  rw [diagnostics_eq_reported, diagnostics_eq_reported, diagnostic_congr hsep,
    reported_addParentTypes p rs types]
  exact List.filter_sublist.map _

theorem mem_diagnostics_addParentTypes (types : List String) {d : Diagnostic} :
    d ∈ ((p.addParentTypes types).report rs).diagnostics ↔
      d ∈ (p.report rs).diagnostics ∨ d ∈ ((p.setParentTypes types).report rs).diagnostics := by
  have hsep : (p.addParentTypes types).rule.separator = p.rule.separator := rfl
  have hsep' : (p.setParentTypes types).rule.separator = p.rule.separator := rfl
  simp only [mem_diagnostics_iff, diagnostic_congr hsep, diagnostic_congr hsep',
    mem_families_addParentTypes, or_and_right, exists_or]

theorem diagnostics_congr_parents {types types' : List String} (h : ∀ a, a ∈ types ↔ a ∈ types') :
    ((p.setParentTypes types).report rs).diagnostics =
      ((p.setParentTypes types').report rs).diagnostics := by
  have hat : (p.setParentTypes types).familiesAt rs = (p.setParentTypes types').familiesAt rs := by
    funext s
    unfold familiesAt
    rw [checks_congr_parents p rs h]
    rfl
  rw [diagnostics_eq_reported, diagnostics_eq_reported, reported, reported, families_eq,
    families_eq, hat]
  rfl

end

/-! ## From a file tree -/

/-- What an analysis of a file tree finds, if it ends with a report. -/
def findingsIn (p : Plan) (t : FileTree) : Except Failure (List Diagnostic) :=
  (p.analyze t).map (·.diagnostics)

/-- Plans for the same files read them alike: either none can, or each reports
what it finds in the same readings. -/
theorem findingsIn_cases (p : Plan) (t : FileTree) :
    (∃ e, ∀ p' : Plan, p'.root = p.root → p'.excludedDirs = p.excludedDirs →
      p'.findingsIn t = .error e) ∨
    (∃ rs, ∀ p' : Plan, p'.root = p.root → p'.excludedDirs = p.excludedDirs →
      p'.findingsIn t = .ok (p'.report rs).diagnostics) := by
  cases hgather : gather t p.root p.excludedDirs with
  | error e =>
    refine Or.inl ⟨e.within "Failed to gather .rs files", fun p' hroot hdirs => ?_⟩
    unfold findingsIn analyze readings
    rw [hroot, hdirs, hgather]
    rfl
  | ok files =>
    refine Or.inr ⟨p.read t files, fun p' hroot hdirs => ?_⟩
    have hread : p'.read t files = p.read t files := by rw [read, hroot, read]
    rw [findingsIn, analyze_of_gather (by rw [hroot, hdirs, hgather]), hread]
    rfl

/-- **Adjusting a plan.** Compare the analyses of one file tree by a plan before
and after it is adjusted; if one cannot list the files, none can. Denying stems
leaves out the findings with these stems. Ignoring patterns leaves out the
findings whose unit has a path that a pattern accepts; a finding shows that path.
What is left keeps its order. Adding parent types takes no finding away and does
not reorder the findings; those with the further types are the ones found before
and the ones found by the further types alone. And of the parent types only the
set matters. -/
theorem findings_adjusted (p : Plan) (t : FileTree) :
    (∀ stems, (p.deny stems).findingsIn t =
      (p.findingsIn t).map (·.filter (!stems.contains ·.stem))) ∧
    (∀ patterns, (p.ignore patterns).findingsIn t =
      (p.findingsIn t).map (·.filter (!IgnorePattern.anyAccepts patterns ·.unitPath))) ∧
    (∀ cfg, ∀ f : Family, (f.diagnostic cfg).unitPath = IgnorePattern.subject f.site.unit) ∧
    (∀ types,
      (∃ e, p.findingsIn t = .error e ∧ (p.addParentTypes types).findingsIn t = .error e ∧
        (p.setParentTypes types).findingsIn t = .error e) ∨
      (∃ before after alone, p.findingsIn t = .ok before ∧
        (p.addParentTypes types).findingsIn t = .ok after ∧
        (p.setParentTypes types).findingsIn t = .ok alone ∧
        before.Sublist after ∧ ∀ d, d ∈ after ↔ d ∈ before ∨ d ∈ alone)) ∧
    (∀ types types', (∀ a, a ∈ types ↔ a ∈ types') →
      (p.setParentTypes types).findingsIn t = (p.setParentTypes types').findingsIn t) := by
  rcases findingsIn_cases p t with ⟨e, he⟩ | ⟨rs, hrs⟩
  · have hp := he p rfl rfl
    refine ⟨fun stems => ?_, fun patterns => ?_, Family.unitPath_diagnostic, fun types => ?_,
      fun types types' _ => ?_⟩
    · rw [he (p.deny stems) rfl rfl, hp]
      rfl
    · rw [he (p.ignore patterns) rfl rfl, hp]
      rfl
    · exact Or.inl ⟨e, hp, he _ rfl rfl, he _ rfl rfl⟩
    · rw [he (p.setParentTypes types) rfl rfl, he (p.setParentTypes types') rfl rfl]
  · have hp := hrs p rfl rfl
    refine ⟨fun stems => ?_, fun patterns => ?_, Family.unitPath_diagnostic, fun types => ?_,
      fun types types' h => ?_⟩
    · rw [hrs (p.deny stems) rfl rfl, hp, diagnostics_deny]
      rfl
    · rw [hrs (p.ignore patterns) rfl rfl, hp, diagnostics_ignore]
      rfl
    · exact Or.inr ⟨_, _, _, hp, hrs _ rfl rfl, hrs _ rfl rfl,
        diagnostics_sublist_addParentTypes p rs types,
        fun d => mem_diagnostics_addParentTypes p rs types⟩
    · rw [hrs (p.setParentTypes types) rfl rfl, hrs (p.setParentTypes types') rfl rfl,
        diagnostics_congr_parents p rs h]

/-! ## Reports with one finding -/

/-- A unit that a plan admits is checked if supertraits lead from one of its traits to a
parent type. -/
theorem checks_of_chain {p : Plan} {rs : List Reading} {s : Site}
    (hadmits : p.admits s.unit = true) {parent t : String} {ts : List String}
    (hparent : parent ∈ p.rule.parentTypes) (ht : t ∈ s.unit.traits)
    (hchain : (t :: ts).IsChain (Hierarchy.Lists (Target.traitsSeen rs s.target)))
    (hagree : SymbolPath.agree ((t :: ts).getLast (List.cons_ne_nil t ts)) parent = true) :
    p.checks rs s = true := by
  rw [checks_eq, Bool.and_eq_true]
  refine ⟨hadmits, List.any_eq_true.mpr ⟨parent, hparent, ?_⟩⟩
  exact Hierarchy.implements_of_chain ht hchain hagree

/-- Where only the first unit has constants that share a stem, there is one family. -/
theorem familiesAt_first {p : Plan} {rs : List Reading} {f : Family} {rest : List Site}
    (hchecks : p.checks rs f.site = true) (hstems : p.stemsOf f.site.unit = [f.stem])
    (hrest : ∀ s ∈ rest, p.stemsOf s.unit = []) :
    (f.site :: rest).flatMap (p.familiesAt rs) = [f] := by
  have hnone : rest.flatMap (p.familiesAt rs) = [] := by
    refine List.flatMap_eq_nil_iff.mpr fun s hs => ?_
    simp [familiesAt, hrest s hs]
  rw [List.flatMap_cons, hnone, List.append_nil, familiesAt, if_pos hchecks, hstems]
  rfl

/-! ## A package with one finding -/

/-- A package at `/shop` with a library of one file. -/
def shop (library : String) : FileTree where
  root := .dir [("shop", .dir [("Cargo.toml", .file "".toUTF8),
    ("src", .dir [("lib.rs", .file library.toUTF8)])])]
  cwd := []

/-- A type with a parent and with two constants that share a stem. -/
def orderText : String :=
  "struct Order; impl Entity for Order {}" ++
    " impl Order { const STATE_NEW: u8 = 0; const STATE_PAID: u8 = 1; }"

def order : TypeUnit where
  name := "Order"
  modules := []
  file := "src/lib.rs"
  line := 1
  constants := ["STATE_NEW", "STATE_PAID"]
  traits := ["Entity"]
  declared := true

def shopPlan : Plan := setParentTypes { root := "/shop" } ["Entity"]

def orderFamily : Family where
  site := { target := Location.library, index := 0, unit := order }
  stem := "STATE"

theorem gather_shop (library : String) : gather (shop library) "/shop" [] =
    .ok ["/shop/src/lib.rs"] :=
  gather_eq_ok_iff.mpr ⟨["/shop/src/lib.rs"], by rfl, by simp⟩

theorem ofText_order : Extraction.ofText "src/lib.rs" [] orderText = .ok ⟨[order], []⟩ := by
  decide +kernel

theorem findings_shop :
    shopPlan.findingsIn (shop orderText) = .ok [orderFamily.diagnostic shopPlan.rule] := by
  have hread : shopPlan.read (shop orderText) ["/shop/src/lib.rs"] =
      [⟨Location.library, .ok ⟨[order], []⟩⟩] := by
    rw [read, List.map_singleton, Reading.ofFile_of_ofText Location.library (by rfl) (by decide)
      (by decide) (by decide) ofText_order]
  have hsites : Target.allSites (shopPlan.read (shop orderText) ["/shop/src/lib.rs"]) =
      [orderFamily.site] := by
    rw [hread]
    decide +kernel
  have hchecks : shopPlan.checks (shopPlan.read (shop orderText) ["/shop/src/lib.rs"])
      orderFamily.site = true :=
    checks_of_chain (by decide +kernel) (List.mem_singleton_self "Entity") List.mem_cons_self
      (List.isChain_singleton "Entity") (by decide)
  rw [findingsIn, analyze_of_gather (gather_shop orderText)]
  show Except.ok (shopPlan.report _).diagnostics = _
  rw [diagnostics_eq_reported, reported, families_eq, hsites,
    familiesAt_first hchecks (by decide +kernel) (by simp), List.mergeSort_singleton]
  rfl

/-- The one finding goes with its stem or with its unit; it stays when another
parent type is added, and it does not matter how the two are listed. -/
theorem shop_adjusted :
    (shopPlan.deny ["STATE"]).findingsIn (shop orderText) = .ok [] ∧
    (shopPlan.ignore ["Ord*"]).findingsIn (shop orderText) = .ok [] ∧
    (∃ after, (shopPlan.addParentTypes ["Tagged"]).findingsIn (shop orderText) = .ok after ∧
      orderFamily.diagnostic shopPlan.rule ∈ after) ∧
    (shopPlan.setParentTypes ["Entity", "Tagged"]).findingsIn (shop orderText) =
      (shopPlan.setParentTypes ["Tagged", "Entity", "Tagged"]).findingsIn (shop orderText) := by
  obtain ⟨hdeny, hignore, -, hadd, hset⟩ := findings_adjusted shopPlan (shop orderText)
  refine ⟨?_, ?_, ?_, hset _ _ fun a => ?_⟩
  · rw [hdeny, findings_shop]
    rfl
  · have hpath : IgnorePattern.anyAccepts ["Ord*"]
        (orderFamily.diagnostic shopPlan.rule).unitPath = true := by decide +kernel
    rw [hignore, findings_shop]
    simp [Except.map, hpath]
  · rcases hadd ["Tagged"] with ⟨e, he, -⟩ | ⟨before, after, alone, hbefore, hafter, -, -, hmem⟩
    · rw [findings_shop] at he
      cases he
    · rw [findings_shop] at hbefore
      cases hbefore
      exact ⟨after, hafter, (hmem _).mpr (Or.inl List.mem_cons_self)⟩
  · simp only [List.mem_cons, List.not_mem_nil, or_false]
    constructor
    · rintro (rfl | rfl) <;> simp
    · rintro (rfl | rfl | rfl) <;> simp

end Plan

end EnumFamily
