import EnumFamily.Analysis
import EnumFamily.Proofs.ListOrder

/-!
# The families that a report is about

A *site* is a merged unit together with the target that holds it and its
position there. A *family* is a stem at a site. `Plan.families` lists them
target by target, unit by unit, stem by stem, straight from what was read; and
`Plan.reported` is that list in the order of the report.

Results:
* `diagnostics_eq_reported`: a report is the list `Plan.reported`, each family
  written as its finding.
* `mem_families_iff`: which families are listed.
* `nodup_families`, `families_site_together`: each once, those of a site together.
* `analyze_of_gather`: an analysis whose files can be listed ends with a report.
-/
namespace EnumFamily

/-- A merged unit, the target that holds it, and its position there. -/
structure Site where
  target : String
  index : Nat
  unit : TypeUnit
deriving DecidableEq

/-- A stem that constants at a site share. -/
structure Family where
  site : Site
  stem : String
deriving DecidableEq

namespace Family

/-- The constants of the family in the order of their declaration. -/
def members (cfg : RuleConfig) (f : Family) : List String :=
  f.site.unit.constants.filter (Cluster.stemOf cfg.separator · == f.stem)

def diagnostic (cfg : RuleConfig) (f : Family) : Diagnostic :=
  { file := f.site.unit.file
    line := f.site.unit.line
    unit := f.site.unit.qualifiedName
    stem := f.stem
    constants := f.members cfg
    message := Cluster.messageFor (f.members cfg) }

/-- By the file of the unit, then by its line. -/
def placeLe (f g : Family) : Bool :=
  decide (f.site.unit.file < g.site.unit.file) ||
    (f.site.unit.file == g.site.unit.file && decide (f.site.unit.line ≤ g.site.unit.line))

end Family

/-! ## From readings to families -/

namespace Reading

/-- The units that a file gave; none if it could not be used. -/
def units (r : Reading) : List TypeUnit :=
  match r.outcome with
  | .ok e => e.units
  | .error _ => []

def traits (r : Reading) : List TraitDecl :=
  match r.outcome with
  | .ok e => e.traits
  | .error _ => []

end Reading

namespace Target

/-- The units of the files of a target, file after file. -/
def unitsRead (rs : List Reading) (key : String) : List TypeUnit :=
  (rs.filter (·.target == key)).flatMap Reading.units

def traitsRead (rs : List Reading) (key : String) : List TraitDecl :=
  (rs.filter (·.target == key)).flatMap Reading.traits

/-- The declarations that a target sees: those of the library, and its own. -/
def traitsSeen (rs : List Reading) (key : String) : List TraitDecl :=
  if key = Location.library then traitsRead rs Location.library
  else traitsRead rs Location.library ++ traitsRead rs key

def sites (rs : List Reading) (key : String) : List Site :=
  (TypeUnit.merge (unitsRead rs key)).zipIdx.map fun (unit, index) => { target := key, index, unit }

end Target

namespace Plan

/-- The unit is neither ignored nor exempt. -/
def checks (p : Plan) (rs : List Reading) (s : Site) : Bool :=
  !p.isIgnored s.unit &&
    !p.rule.skips (Hierarchy.ofDecls (Target.traitsSeen rs s.target)).host s.unit

/-- The stems, in order of first appearance, that two constants of the unit
have and that are not denied. -/
def stemsOf (p : Plan) (u : TypeUnit) : List String :=
  (u.constants.map (Cluster.stemOf p.rule.separator)).eraseDups.filter fun k =>
    decide (2 ≤ (u.constants.filter (Cluster.stemOf p.rule.separator · == k)).length) &&
      !p.rule.denied.contains k

def familiesAt (p : Plan) (rs : List Reading) (s : Site) : List Family :=
  if p.checks rs s then (p.stemsOf s.unit).map fun stem => { site := s, stem } else []

def familiesIn (p : Plan) (rs : List Reading) (key : String) : List Family :=
  (Target.sites rs key).flatMap (p.familiesAt rs)

def families (p : Plan) (rs : List Reading) : List Family :=
  (Target.keys rs).flatMap (p.familiesIn rs)

/-- The families in the order of the report. -/
def reported (p : Plan) (rs : List Reading) : List Family :=
  (p.families rs).mergeSort Family.placeLe

end Plan

/-! ## What the targets hold -/

namespace Target

/-- What usable files contribute, one after the other, is what all files contribute. -/
theorem flatMap_extraction? {α : Type} {field : Extraction → List α} {part : Reading → List α}
    (hpart : ∀ r, part r = match r.outcome with
      | .ok e => field e
      | .error _ => []) (rs : List Reading) :
    (rs.filterMap (·.extraction?)).flatMap field = rs.flatMap part := by
  induction rs with
  | nil => rfl
  | cons r rs ih =>
    rw [List.flatMap_cons, ← ih, hpart]
    cases h : r.outcome <;> simp [Reading.extraction?, h]

theorem content_units (rs : List Reading) (key : String) :
    (content rs key).units = unitsRead rs key := flatMap_extraction? (fun _ => rfl) _

theorem content_traits (rs : List Reading) (key : String) :
    (content rs key).traits = traitsRead rs key := flatMap_extraction? (fun _ => rfl) _

theorem hierarchy_eq (rs : List Reading) (key : String) :
    hierarchy rs key = Hierarchy.ofDecls (traitsSeen rs key) := by
  simp only [hierarchy, content_traits, traitsSeen]

theorem map_unit_sites (rs : List Reading) (key : String) :
    (sites rs key).map (·.unit) = units rs key := by
  rw [units, content_units, sites, List.map_map]
  exact List.zipIdx_map_fst 0 _

theorem mem_sites_iff {rs : List Reading} {key : String} {s : Site} :
    s ∈ sites rs key ↔
      s.target = key ∧ (TypeUnit.merge (unitsRead rs key))[s.index]? = some s.unit := by
  simp only [sites, List.mem_map, Prod.exists, List.mem_zipIdx_iff_getElem?]
  constructor
  · rintro ⟨u, i, hu, rfl⟩
    exact ⟨rfl, hu⟩
  · rintro ⟨rfl, hu⟩
    exact ⟨s.unit, s.index, hu, rfl⟩

theorem nodup_sites (rs : List Reading) (key : String) : (sites rs key).Nodup := by
  have hmap : (sites rs key).map (·.index) =
      (TypeUnit.merge (unitsRead rs key)).zipIdx.map (·.2) := by
    rw [sites, List.map_map]
    rfl
  have hnodup : ((sites rs key).map (·.index)).Nodup := by
    rw [hmap, List.zipIdx_map_snd]
    exact List.nodup_range'
  exact (List.pairwise_map.mp hnodup).imp fun h e => h (congrArg Site.index e)

/-! ## The keys of the targets -/

theorem le_isTotalPreorder : IsTotalPreorder fun a b : String => decide (a ≤ b) where
  trans a b c hab hbc := by
    simp only [decide_eq_true_eq] at hab hbc ⊢
    exact String.le_trans hab hbc
  total a b := by simpa using String.le_total a b

theorem mem_keys_iff {rs : List Reading} {key : String} :
    key ∈ keys rs ↔ ∃ r ∈ rs, r.target = key ∧ r.extraction?.isSome = true := by
  simp only [keys, List.mem_mergeSort, List.mem_eraseDups, List.mem_map, List.mem_filter]
  constructor
  · rintro ⟨r, ⟨hr, hs⟩, hk⟩
    exact ⟨r, hr, hk, hs⟩
  · rintro ⟨r, hr, hk, hs⟩
    exact ⟨r, ⟨hr, hs⟩, hk⟩

theorem nodup_keys (rs : List Reading) : (keys rs).Nodup :=
  (List.mergeSort_perm _ _).nodup_iff.mpr (nodup_eraseDups _)

/-- The targets stand in strictly ascending order. -/
theorem keys_ascending (rs : List Reading) : (keys rs).Pairwise (· < ·) := by
  have hle := (stableSort_mergeSort le_isTotalPreorder
    ((rs.filter (·.extraction?.isSome)).map (·.target)).eraseDups).sorted
  refine (hle.and (nodup_keys rs)).imp ?_
  intro a b h
  simp only [decide_eq_true_eq] at h
  exact String.not_le.mp fun hba => h.2 (String.le_antisymm h.1 hba)

/-- A target without a usable file holds no unit. -/
theorem sites_of_not_mem_keys {rs : List Reading} {key : String} (h : key ∉ keys rs) :
    sites rs key = [] := by
  have hread : unitsRead rs key = [] := by
    rw [unitsRead, List.flatMap_eq_nil_iff]
    intro r hr
    have hr := List.mem_filter.mp hr
    cases ho : r.outcome with
    | error f => simp [Reading.units, ho]
    | ok e =>
      refine absurd (mem_keys_iff.mpr ⟨r, hr.1, by simpa using hr.2, ?_⟩) h
      simp [Reading.extraction?, ho]
  rw [sites, hread]
  rfl

end Target

/-! ## The report as a list of families -/

namespace RuleConfig

/-- What is reported of a unit: nothing if it is exempt, else the families that
are not denied. -/
theorem judge_candidates (cfg : RuleConfig) (h : Hierarchy) (u : TypeUnit) :
    (cfg.judge h.host u).candidates =
      if cfg.skips h.host u then [] else cfg.candidates u.constants := by
  unfold skips
  cases hj : cfg.judge h.host u with
  | nameless => rfl
  | inEnumNamespace name => rfl
  | unrelated name => rfl
  | checked n cs =>
    unfold judge at hj
    split at hj
    · cases hj
    · split at hj
      · cases hj
      · split at hj
        · cases hj
          rfl
        · cases hj

end RuleConfig

namespace Plan

theorem candidates_eq_stemsOf (p : Plan) (u : TypeUnit) :
    p.rule.candidates u.constants =
      (p.stemsOf u).map (Cluster.ofStem p.rule.separator u.constants) := by
  simp only [RuleConfig.candidates, Cluster.split, Cluster.stems, stemsOf, List.filter_map,
    List.filter_filter]
  congr 1
  refine List.filter_congr fun k _ => ?_
  exact Bool.and_comm _ _

/-- The findings at a site, from its verdict. -/
theorem map_diagnostic_familiesAt (p : Plan) (rs : List Reading) (s : Site) :
    (p.familiesAt rs s).map (Family.diagnostic p.rule) =
      if p.isIgnored s.unit then []
      else (p.rule.judge (Target.hierarchy rs s.target).host s.unit).candidates.map
        (Diagnostic.ofCluster s.unit) := by
  rw [RuleConfig.judge_candidates, Target.hierarchy_eq, candidates_eq_stemsOf, familiesAt, checks]
  cases p.isIgnored s.unit
  · cases p.rule.skips (Hierarchy.ofDecls (Target.traitsSeen rs s.target)).host s.unit
    · simp only [Bool.not_false, Bool.and_self, if_true, Bool.false_eq_true, if_false, List.map_map]
      rfl
    · rfl
  · rfl

theorem map_diagnostic_familiesIn (p : Plan) (rs : List Reading) (key : String) :
    (p.familiesIn rs key).map (Family.diagnostic p.rule) =
      (Target.units rs key).flatMap fun u =>
        if p.isIgnored u then []
        else (p.rule.judge (Target.hierarchy rs key).host u).candidates.map
          (Diagnostic.ofCluster u) := by
  rw [familiesIn, List.map_flatMap, ← Target.map_unit_sites, List.flatMap_map]
  refine congrArg List.flatten (List.map_congr_left fun s hs => ?_)
  rw [map_diagnostic_familiesAt, (Target.mem_sites_iff.mp hs).1]

theorem findings_judgements (p : Plan) (rs : List Reading) :
    findings (p.judgements rs) = (p.families rs).map (Family.diagnostic p.rule) := by
  have hsplit : findings (p.judgements rs) = (Subject.all rs).flatMap fun s =>
      if p.isIgnored s.unit then []
      else (p.rule.judge s.hierarchy.host s.unit).candidates.map (Diagnostic.ofCluster s.unit) := by
    rw [findings, judgements, List.flatMap_map]
    induction Subject.all rs with
    | nil => rfl
    | cons s ss ih =>
      cases h : p.isIgnored s.unit <;> simpa [List.filter_cons, h] using ih
  rw [hsplit, Subject.all, List.flatMap_assoc, families, List.map_flatMap]
  refine congrArg List.flatten (List.map_congr_left fun key _ => ?_)
  rw [List.flatMap_map, map_diagnostic_familiesIn]

/-- A report is the list of families in report order, each as its finding. -/
theorem diagnostics_eq_reported (p : Plan) (rs : List Reading) :
    (p.report rs).diagnostics = (p.reported rs).map (Family.diagnostic p.rule) := by
  rw [report_diagnostics, diagnostics, findings_judgements, reported]
  have hsame : ∀ f ∈ p.families rs, ∀ g ∈ p.families rs, Family.placeLe f g =
      reportOrder (f.diagnostic p.rule) (g.diagnostic p.rule) := fun _ _ _ _ => rfl
  exact (List.map_mergeSort hsame).symm

end Plan

/-! ## Which families there are -/

namespace Family

theorem placeLe_iff {f g : Family} :
    f.placeLe g = true ↔ f.site.unit.file < g.site.unit.file ∨
      f.site.unit.file = g.site.unit.file ∧ f.site.unit.line ≤ g.site.unit.line := by
  simp [placeLe]

theorem placeLe_isTotalPreorder : IsTotalPreorder placeLe where
  trans a b c hab hbc := by
    rw [placeLe_iff] at hab hbc ⊢
    rcases hab with hab | ⟨hab, hl⟩
    · rcases hbc with hbc | ⟨hbc, -⟩
      · exact Or.inl (String.lt_trans hab hbc)
      · exact Or.inl (hbc ▸ hab)
    · rcases hbc with hbc | ⟨hbc, hl'⟩
      · exact Or.inl (hab ▸ hbc)
      · exact Or.inr ⟨hab.trans hbc, Nat.le_trans hl hl'⟩
  total a b := by
    rw [Bool.or_eq_true, placeLe_iff, placeLe_iff]
    by_cases h : a.site.unit.file = b.site.unit.file
    · rcases Nat.le_total a.site.unit.line b.site.unit.line with hl | hl
      · exact Or.inl (Or.inr ⟨h, hl⟩)
      · exact Or.inr (Or.inr ⟨h.symm, hl⟩)
    · rcases String.le_total a.site.unit.file b.site.unit.file with hle | hle
      · exact Or.inl (Or.inl (Std.lt_of_le_of_ne hle h))
      · exact Or.inr (Or.inl (Std.lt_of_le_of_ne hle (Ne.symm h)))

/-- Families of one site are tied in the order of the report. -/
theorem tied_of_site_eq {f g : Family} (h : f.site = g.site) : tied placeLe f g = true := by
  simp [tied, placeLe, h]

end Family

namespace Target

/-- The sites of all targets. -/
def allSites (rs : List Reading) : List Site := (keys rs).flatMap (sites rs)

theorem mem_allSites_iff {rs : List Reading} {s : Site} :
    s ∈ allSites rs ↔ s.target ∈ keys rs ∧
      (TypeUnit.merge (unitsRead rs s.target))[s.index]? = some s.unit := by
  simp only [allSites, List.mem_flatMap, mem_sites_iff]
  constructor
  · rintro ⟨key, hk, rfl, hu⟩
    exact ⟨hk, hu⟩
  · rintro ⟨hk, hu⟩
    exact ⟨s.target, hk, rfl, hu⟩

theorem nodup_allSites (rs : List Reading) : (allSites rs).Nodup := by
  refine List.pairwise_flatMap.mpr ⟨fun key _ => nodup_sites rs key, ?_⟩
  refine (nodup_keys rs).imp ?_
  intro key key' hne s hs s' hs' he
  apply hne
  rw [← (mem_sites_iff.mp hs).1, he, (mem_sites_iff.mp hs').1]

end Target

namespace Plan

theorem mem_stemsOf_iff {p : Plan} {u : TypeUnit} {k : String} :
    k ∈ p.stemsOf u ↔
      2 ≤ (u.constants.filter (Cluster.stemOf p.rule.separator · == k)).length ∧
        p.rule.denied.contains k = false := by
  simp only [stemsOf, List.mem_filter, List.mem_eraseDups, Bool.and_eq_true, decide_eq_true_eq,
    Bool.not_eq_true', and_iff_right_iff_imp, and_imp]
  intro hlen _
  obtain ⟨c, hc⟩ := List.exists_mem_of_length_pos (Nat.lt_of_lt_of_le Nat.zero_lt_two hlen)
  obtain ⟨hc, hk⟩ := List.mem_filter.mp hc
  exact List.mem_map.mpr ⟨c, hc, by simpa using hk⟩

theorem mem_familiesAt_iff {p : Plan} {rs : List Reading} {s : Site} {f : Family} :
    f ∈ p.familiesAt rs s ↔ f.site = s ∧ p.checks rs s = true ∧ f.stem ∈ p.stemsOf s.unit := by
  unfold familiesAt
  split
  · rename_i hc
    simp only [List.mem_map, hc, true_and]
    constructor
    · rintro ⟨k, hk, rfl⟩
      exact ⟨rfl, hk⟩
    · rintro ⟨rfl, hk⟩
      exact ⟨f.stem, hk, rfl⟩
  · rename_i hc
    simp [hc]

theorem families_eq (p : Plan) (rs : List Reading) :
    p.families rs = (Target.allSites rs).flatMap (p.familiesAt rs) := by
  rw [Target.allSites, List.flatMap_assoc]
  rfl

theorem mem_families_iff {p : Plan} {rs : List Reading} {f : Family} :
    f ∈ p.families rs ↔
      f.site ∈ Target.allSites rs ∧ p.checks rs f.site = true ∧ f.stem ∈ p.stemsOf f.site.unit := by
  simp only [families_eq, List.mem_flatMap, mem_familiesAt_iff]
  constructor
  · rintro ⟨s, hs, rfl, h⟩
    exact ⟨hs, h⟩
  · rintro ⟨hs, h⟩
    exact ⟨f.site, hs, rfl, h⟩

theorem nodup_familiesAt (p : Plan) (rs : List Reading) (s : Site) : (p.familiesAt rs s).Nodup := by
  unfold familiesAt
  split
  · have hstems : (p.stemsOf s.unit).Nodup := (nodup_eraseDups _).sublist List.filter_sublist
    exact List.pairwise_map.mpr (hstems.imp fun h e => h (congrArg Family.stem e))
  · exact List.nodup_nil

theorem nodup_families (p : Plan) (rs : List Reading) : (p.families rs).Nodup := by
  rw [families_eq]
  refine List.pairwise_flatMap.mpr ⟨fun s _ => nodup_familiesAt p rs s, ?_⟩
  refine (Target.nodup_allSites rs).imp ?_
  intro s s' hne f hf f' hf' he
  apply hne
  rw [← (mem_familiesAt_iff.mp hf).1, he, (mem_familiesAt_iff.mp hf').1]

/-- The families of a site stand together, and in the order of their stems. -/
theorem families_site_together (p : Plan) (rs : List Reading) (s : Site) :
    (p.families rs).filter (·.site == s) <:+: p.families rs := by
  rw [families_eq, filter_tag_flatMap Family.site
    (fun s f hf => (mem_familiesAt_iff.mp hf).1) (Target.nodup_allSites rs)]
  split
  · rename_i hs
    exact group_together _ hs
  · exact List.nil_infix

/-! ## From a file tree to a report -/

/-- Files of the package as they are read. -/
def read (p : Plan) (t : FileTree) (files : List String) : List Reading :=
  files.map (Reading.ofFile t p.root)

/-- An analysis ends with the report, unless a fault is not of the sort that
concerns one file. -/
theorem conclude_eq_ok_iff {p : Plan} {rs : List Reading} {a : Analysis} :
    p.conclude rs = .ok a ↔ (∀ r ∈ rs, r.fatal? = none) ∧ a = p.report rs := by
  unfold conclude
  cases h : rs.findSome? Reading.fatal? with
  | none =>
    have hall := List.findSome?_eq_none_iff.mp h
    constructor
    · intro ha
      exact ⟨hall, (Except.ok.inj ha).symm⟩
    · rintro ⟨-, rfl⟩
      rfl
  | some f =>
    refine iff_of_false (fun ha => by cases ha) ?_
    rintro ⟨hall, -⟩
    rw [List.findSome?_eq_none_iff.mpr hall] at h
    cases h

end Plan

/-- A file is used, or its text cannot be read, or the text does not follow the grammar. -/
theorem Reading.outcome_ofFile (t : FileTree) (root file : String) :
    (∃ text items, t.text file = .ok text ∧ Source.items text = .ok items ∧
      (Reading.ofFile t root file).outcome = .ok
        (Extraction.ofItems (Location.relative root file) (Location.modulePath root file) items)) ∨
    (∃ e, t.text file = .error e ∧ (Reading.ofFile t root file).outcome =
        .error (.unreadable (Location.relative root file) e.message)) ∨
    (∃ text pos, t.text file = .ok text ∧ Source.items text = .error pos ∧
      (Reading.ofFile t root file).outcome = .error (.malformed (Location.relative root file)
        pos.line pos.column "unexpected token or end of input")) := by
  unfold Reading.ofFile Extraction.ofText
  cases ht : t.text file with
  | error e => exact Or.inr (Or.inl ⟨e, rfl, rfl⟩)
  | ok text =>
    cases hi : Source.items text with
    | ok items => exact Or.inl ⟨text, items, rfl, hi, by simp only [hi]⟩
    | error pos => exact Or.inr (Or.inr ⟨text, pos, rfl, hi, by simp only [hi]⟩)

/-- A file whose text follows the grammar is read as what the text contributes. -/
theorem Reading.ofFile_of_ofText (key : String) {t : FileTree} {root file text shown : String}
    {modules : List String} {e : Extraction} (hnode : t.node file = .ok (.file text.toUTF8))
    (hkey : Location.target root file = key) (hshown : Location.relative root file = shown)
    (hmodules : Location.modulePath root file = modules)
    (he : Extraction.ofText shown modules text = .ok e) :
    Reading.ofFile t root file = { target := key, outcome := .ok e } := by
  have hdecode : String.fromUTF8? text.toUTF8 = some text := by
    rw [String.fromUTF8?, String.toUTF8_eq_toByteArray, dif_pos text.isValidUTF8]
    rfl
  have htext : t.text file = .ok text := by
    simp only [FileTree.text, hnode, bind, Except.bind, hdecode]
  subst hkey hshown hmodules
  simp only [Reading.ofFile, htext, he]

/-- Whatever is wrong with a file concerns that file alone. -/
theorem Reading.fatal?_ofFile (t : FileTree) (root file : String) :
    (Reading.ofFile t root file).fatal? = none := by
  unfold Reading.fatal? Reading.fault?
  rcases Reading.outcome_ofFile t root file with
    ⟨text, items, -, -, ho⟩ | ⟨e, -, ho⟩ | ⟨text, pos, -, -, ho⟩
  · rw [ho]
    rfl
  · rw [ho]
    rfl
  · rw [ho]
    rfl

/-- Once the files are listed, an analysis ends with a report. -/
theorem Plan.analyze_of_gather {p : Plan} {t : FileTree} {files : List String}
    (h : gather t p.root p.excludedDirs = .ok files) :
    p.analyze t = .ok (p.report (p.read t files)) := by
  have hread : p.readings t = .ok (p.read t files) := by
    unfold readings
    rw [h]
    rfl
  rw [analyze, hread]
  show p.conclude (p.read t files) = _
  refine conclude_eq_ok_iff.mpr ⟨fun r hr => ?_, rfl⟩
  obtain ⟨f, -, rfl⟩ := List.mem_map.mp hr
  exact Reading.fatal?_ofFile t p.root f

end EnumFamily
