import EnumFamily.Proofs.Families

/-!
# What a report holds, and in which order

For files as they were read, the findings are the families of `Plan.families`
in a stable sort by file and line. Several units may share a place, for
instance types declared on one line; their findings are told apart by the site
that a family carries.

Result: `report_families`.
-/
namespace EnumFamily.Plan

theorem reported_stableSort (p : Plan) (rs : List Reading) :
    StableSort Family.placeLe (p.families rs) (p.reported rs) :=
  stableSort_mergeSort Family.placeLe_isTotalPreorder _

theorem mem_reported_iff {p : Plan} {rs : List Reading} {f : Family} :
    f ∈ p.reported rs ↔
      f.site.target ∈ Target.keys rs ∧
      (TypeUnit.merge (Target.unitsRead rs f.site.target))[f.site.index]? = some f.site.unit ∧
      p.isIgnored f.site.unit = false ∧
      p.rule.skips (Hierarchy.ofDecls (Target.traitsSeen rs f.site.target)).host
        f.site.unit = false ∧
      2 ≤ (f.members p.rule).length ∧ p.rule.denied.contains f.stem = false := by
  rw [(reported_stableSort p rs).perm.mem_iff, mem_families_iff, Target.mem_allSites_iff,
    mem_stemsOf_iff]
  simp only [checks, Bool.and_eq_true, Bool.not_eq_true', Family.members, and_assoc]

/-- The findings of a unit are reported in the order of their stems. -/
theorem reported_filter_site (p : Plan) (rs : List Reading) (s : Site) :
    (p.reported rs).filter (·.site == s) = (p.families rs).filter (·.site == s) := by
  refine (reported_stableSort p rs).filter_eq_of_tied (x := ⟨s, ""⟩) fun f _ hf => ?_
  exact Family.tied_of_site_eq (by simpa using (beq_iff_eq.mp hf).symm)

/-- Units that share a place do not mix their findings. -/
theorem reported_site_together (p : Plan) (rs : List Reading) (s : Site) :
    (p.reported rs).filter (·.site == s) <:+: p.reported rs := by
  rw [reported_filter_site]
  refine (reported_stableSort p rs).block_together Family.placeLe_isTotalPreorder (x := ⟨s, ""⟩)
    (families_site_together p rs s) fun f hf => ?_
  exact Family.tied_of_site_eq (by simpa using (beq_iff_eq.mp (List.mem_filter.mp hf).2).symm)

theorem report_sorted (p : Plan) (rs : List Reading) :
    (p.report rs).diagnostics.Pairwise fun a b =>
      a.file < b.file ∨ a.file = b.file ∧ a.line ≤ b.line := by
  rw [diagnostics_eq_reported, List.pairwise_map]
  exact (reported_stableSort p rs).sorted.imp Family.placeLe_iff.mp

/-- **The report.** For any files as read and any plan, an analysis that ends
with a result reports the families of `families` (target by target in ascending
order of the keys, unit by unit, stem by stem) in the stable sort by file and
line, each as its finding. So the findings ascend, each family that qualifies is
there once, and those of one unit stand together in the order of their stems. -/
theorem report_families (p : Plan) (rs : List Reading) :
    (∀ a, p.conclude rs = .ok a ↔ (∀ r ∈ rs, r.fatal? = none) ∧ a = p.report rs) ∧
      (p.report rs).diagnostics = (p.reported rs).map (Family.diagnostic p.rule) ∧
      StableSort Family.placeLe (p.families rs) (p.reported rs) ∧
      (Target.keys rs).Pairwise (· < ·) ∧
      (∀ key, key ∈ Target.keys rs ↔ ∃ r ∈ rs, r.target = key ∧ r.extraction?.isSome = true) ∧
      ((p.reported rs).map (Family.diagnostic p.rule)).Pairwise (fun a b =>
        a.file < b.file ∨ a.file = b.file ∧ a.line ≤ b.line) ∧
      (p.reported rs).Nodup ∧
      (∀ f, f ∈ p.reported rs ↔
        f.site.target ∈ Target.keys rs ∧
        (TypeUnit.merge (Target.unitsRead rs f.site.target))[f.site.index]? = some f.site.unit ∧
        p.isIgnored f.site.unit = false ∧
        p.rule.skips (Hierarchy.ofDecls (Target.traitsSeen rs f.site.target)).host
          f.site.unit = false ∧
        2 ≤ (f.members p.rule).length ∧ p.rule.denied.contains f.stem = false) ∧
      (∀ s, (p.reported rs).filter (·.site == s) <:+: p.reported rs ∧
        (p.reported rs).filter (·.site == s) = (p.families rs).filter (·.site == s)) := by
  refine ⟨fun _ => conclude_eq_ok_iff, diagnostics_eq_reported p rs, reported_stableSort p rs,
    Target.keys_ascending rs, fun _ => Target.mem_keys_iff, ?_, ?_, fun _ => mem_reported_iff,
    fun s => ⟨?_, ?_⟩⟩
  · rw [← diagnostics_eq_reported]
    exact report_sorted p rs
  · exact (reported_stableSort p rs).perm.nodup_iff.mpr (nodup_families p rs)
  · exact reported_site_together p rs s
  · exact reported_filter_site p rs s

end EnumFamily.Plan
