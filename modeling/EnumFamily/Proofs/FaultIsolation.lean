import EnumFamily.Proofs.Adjusting
import EnumFamily.Proofs.Mending

/-!
# Files that cannot be used

An analysis leaves broken files out and lists them. Here it is compared with the
analysis of the tree from which they are deleted.

Deleting a file can take away more than itself: a manifest may be a link to it,
and without its manifest a directory is no longer a package of its own, so its
files are scanned (`deletion_adds_unit`). If every directory below the root
keeps its manifest, the two analyses find the same.

Results:
* `report_usable`: a report is that of the readings that could be used.
* `skipped_read`: what is listed, and in which order.
* `faults_isolated`: one analysis, and the other.
-/
namespace EnumFamily

/-! ## Readings that could be used -/

namespace Reading

def isUsable (r : Reading) : Bool := r.extraction?.isSome

theorem isUsable_ofFile (t : FileTree) (root f : String) :
    (ofFile t root f).isUsable = !t.isBroken f := by
  unfold isUsable extraction? FileTree.isBroken
  rcases outcome_ofFile t root f with
    ⟨text, items, ht, hi, ho⟩ | ⟨e, ht, ho⟩ | ⟨text, pos, ht, hi, ho⟩
  · simp [ho, ht, hi]
  · simp [ho, ht]
  · simp [ho, ht, hi]

theorem fault?_of_isUsable {r : Reading} (h : r.isUsable = true) : r.fault? = none := by
  unfold isUsable extraction? at h
  unfold fault?
  cases ho : r.outcome with
  | ok e => rfl
  | error f => simp [ho] at h

/-- What is wrong with a broken file carries the path shown for it. -/
theorem fault?_of_broken {t : FileTree} {f : String} (h : t.isBroken f = true) (root : String) :
    ∃ fault, (ofFile t root f).fault? = some fault ∧ fault.path = Location.relative root f ∧
      fault.isRecoverable = true := by
  unfold fault?
  rcases outcome_ofFile t root f with
    ⟨text, items, ht, hi, -⟩ | ⟨e, -, ho⟩ | ⟨text, pos, -, -, ho⟩
  · simp [FileTree.isBroken, ht, hi] at h
  · rw [ho]
    exact ⟨.unreadable (Location.relative root f) e.message, rfl, rfl, rfl⟩
  · rw [ho]
    exact ⟨.malformed (Location.relative root f) pos.line pos.column _, rfl, rfl, rfl⟩

end Reading

namespace Target

theorem keys_usable (rs : List Reading) : keys (rs.filter Reading.isUsable) = keys rs := by
  unfold keys
  have husable : (rs.filter Reading.isUsable).filter (·.extraction?.isSome) =
      rs.filter (·.extraction?.isSome) := by
    rw [List.filter_filter]
    exact List.filter_congr fun r _ => Bool.and_self _
  rw [husable]

theorem content_usable (rs : List Reading) (key : String) :
    content (rs.filter Reading.isUsable) key = content rs key := by
  unfold content
  have hsame : ((rs.filter Reading.isUsable).filter (·.target == key)).filterMap
      Reading.extraction? = (rs.filter (·.target == key)).filterMap Reading.extraction? := by
    induction rs with
    | nil => rfl
    | cons r rs ih =>
      cases he : r.extraction? with
      | none =>
        have hu : r.isUsable = false := by simp [Reading.isUsable, he]
        rw [List.filter_cons_of_neg (by simp [hu]), ih, List.filter_cons]
        split
        · rw [List.filterMap_cons_none he]
        · rfl
      | some e =>
        have hu : r.isUsable = true := by simp [Reading.isUsable, he]
        rw [List.filter_cons_of_pos hu, List.filter_cons, List.filter_cons]
        split
        · rw [List.filterMap_cons_some he, List.filterMap_cons_some he, ih]
        · exact ih
  rw [hsame]

end Target

theorem Subject.all_usable (rs : List Reading) :
    Subject.all (rs.filter Reading.isUsable) = Subject.all rs := by
  unfold Subject.all Target.hierarchy Target.units
  simp only [Target.keys_usable, Target.content_usable]

namespace Plan

/-- The judgements and the findings are those of the readings that could be used. -/
theorem report_usable (p : Plan) (rs : List Reading) :
    (p.report (rs.filter Reading.isUsable)).diagnostics = (p.report rs).diagnostics ∧
      (p.report (rs.filter Reading.isUsable)).units = (p.report rs).units := by
  unfold report judgements
  simp only [Subject.all_usable]
  exact ⟨trivial, trivial⟩

theorem filter_usable_read (p : Plan) (t : FileTree) (files : List String) :
    (p.read t files).filter Reading.isUsable = p.read t (files.filter (!t.isBroken ·)) := by
  rw [read, List.filter_map, read]
  congr 1
  exact List.filter_congr fun f _ => Reading.isUsable_ofFile t p.root f

/-- One entry for each broken file, in the order of the files. -/
theorem skipped_read (p : Plan) (t : FileTree) (files : List String) :
    (p.report (p.read t files)).skipped.map Fault.path =
        (files.filter t.isBroken).map (Location.relative p.root) ∧
      ∀ fault ∈ (p.report (p.read t files)).skipped, fault.isRecoverable = true := by
  show ((p.read t files).filterMap Reading.fault?).map Fault.path = _ ∧
    ∀ fault ∈ (p.read t files).filterMap Reading.fault?, _
  induction files with
  | nil => exact ⟨rfl, by simp [read]⟩
  | cons f files ih =>
    rw [read, List.map_cons]
    cases hb : t.isBroken f with
    | false =>
      have hnone : (Reading.ofFile t p.root f).fault? = none :=
        Reading.fault?_of_isUsable (by rw [Reading.isUsable_ofFile, hb]; rfl)
      rw [List.filterMap_cons_none hnone, List.filter_cons_of_neg (by simp [hb])]
      exact ih
    | true =>
      obtain ⟨fault, hfault, hpath, hrec⟩ := Reading.fault?_of_broken hb p.root
      rw [List.filterMap_cons_some hfault, List.filter_cons_of_pos hb]
      refine ⟨?_, ?_⟩
      · rw [List.map_cons, List.map_cons, hpath]
        exact congrArg _ ih.1
      · rw [List.forall_mem_cons]
        exact ⟨hrec, ih.2⟩

end Plan

/-! ## Two analyses -/

namespace Plan

theorem below_of_gather {t : Disk} {root : String} {excluded files : List String}
    (hdir : t.isDir root = true) (h : gather t root excluded = .ok files) :
    ∃ place entries, t.Below root place entries files := by
  obtain ⟨found, hfound, rfl⟩ := gather_eq_ok_iff.mp h
  obtain ⟨place, entries, hbelow⟩ := FileTree.below_of_sourcesBelow hdir hfound
  exact ⟨place, entries, hbelow.subset fun f hf => List.mem_mergeSort.mp hf⟩

/-- Deleting the broken files one after the other mends the tree. -/
theorem removeAll_eq_mend {t : Disk} {root : String} {excluded files : List String}
    (hdir : t.isDir root = true) (h : gather t root excluded = .ok files) :
    t.removeAll (files.filter t.isBroken) = t.mend files := by
  obtain ⟨place, entries, hbelow⟩ := below_of_gather hdir h
  have hbroken := hbelow.filter t.isBroken
  have hnodup : (files.filter t.isBroken).Nodup :=
    (listing_of_gather h).2.nodup.sublist List.filter_sublist
  refine Disk.removeAll_eq_prune (fun f hf => ?_) hbroken.leadToFiles
    (hbroken.nodup_entryPlaces hnodup)
  obtain ⟨ns, dest, data, -, -, hstands⟩ := hbroken.stands hf
  exact ⟨_, hstands.entry⟩

section
variable {t : Disk} {p : Plan} (hdir : t.isDir p.root = true)
  {files : List String} (h : gather t p.root p.excludedDirs = .ok files)
  (hmanifests : ∀ ns, ns ≠ [] → (∀ n ∈ ns, IsEntryName n) →
    t.hasManifest (FilePath.descend p.root ns) = true →
    (t.mend files).hasManifest (FilePath.descend p.root ns) = true)
include hdir h

include hmanifests in
/-- The files of the mended package are those that are not broken. -/
theorem gather_mend :
    gather (t.mend files) p.root p.excludedDirs = .ok (files.filter (!t.isBroken ·)) := by
  obtain ⟨place, entries, hbelow⟩ := below_of_gather hdir h
  obtain ⟨found, hfound, rfl⟩ := gather_eq_ok_iff.mp h
  refine gather_eq_ok_iff.mpr ⟨_, hbelow.sourcesBelow_mend hmanifests hfound fun f hf => ?_, ?_⟩
  · exact List.mem_mergeSort.mpr hf
  · exact (mergeSort_filter FilePath.le_isTotalPreorder found _).symm

/-- They are read as before. -/
theorem read_mend :
    p.read (t.mend files) (files.filter (!t.isBroken ·)) =
      (p.read t files).filter Reading.isUsable := by
  obtain ⟨place, entries, hbelow⟩ := below_of_gather hdir h
  rw [filter_usable_read]
  refine List.map_congr_left fun f hf => ?_
  obtain ⟨hf, hok⟩ := List.mem_filter.mp hf
  unfold Reading.ofFile
  rw [hbelow.text_mend hf (by simpa using hok)]

end

/-- **Fault isolation.** On a disk, let the root of a plan be a directory whose
files can be listed. Then the analysis ends with a report. It lists the broken
files, each once and in the order of the files. Its targets, its findings and its
units are those of the other files. A manifest that is itself a file outlasts the
deletion of the broken files; and if every directory below the root that has a
manifest keeps one, then the analysis of the disk without the broken files finds
the same in as many units. -/
theorem faults_isolated (p : Plan) {t : Disk} (hdir : t.isDir p.root = true)
    {files : List String} (h : gather t p.root p.excludedDirs = .ok files) :
    ∃ a, p.analyze t = .ok a ∧
      a.skipped.map Fault.path = (files.filter t.isBroken).map (Location.relative p.root) ∧
      (∀ fault ∈ a.skipped, fault.isRecoverable = true) ∧
      Target.keys (p.read t files) = Target.keys (p.read t (files.filter (!t.isBroken ·))) ∧
      (∀ key, Target.content (p.read t files) key =
        Target.content (p.read t (files.filter (!t.isBroken ·))) key) ∧
      a.diagnostics = (p.report (p.read t (files.filter (!t.isBroken ·)))).diagnostics ∧
      a.units = (p.report (p.read t (files.filter (!t.isBroken ·)))).units ∧
      (∀ ns data, (∀ n ∈ ns, IsEntryName n) →
        t.nodeOrLink (Manifest.pathIn (FilePath.descend p.root ns)) = .ok (.file data) →
        (t.removeAll (files.filter t.isBroken)).hasManifest (FilePath.descend p.root ns) = true) ∧
      ((∀ ns, ns ≠ [] → (∀ n ∈ ns, IsEntryName n) →
          t.hasManifest (FilePath.descend p.root ns) = true →
          (t.removeAll (files.filter t.isBroken)).hasManifest (FilePath.descend p.root ns) = true) →
        ∃ a', p.analyze (t.removeAll (files.filter t.isBroken)) = .ok a' ∧
          a'.diagnostics = a.diagnostics ∧ a'.units = a.units ∧ a'.skipped = []) := by
  have hskipped := skipped_read p t files
  have husable := filter_usable_read p t files
  obtain ⟨hdiagnostics, hunits⟩ := report_usable p (p.read t files)
  obtain ⟨place, entries, hbelow⟩ := below_of_gather hdir h
  rw [removeAll_eq_mend hdir h, ← husable]
  refine ⟨_, analyze_of_gather h, hskipped.1, hskipped.2, (Target.keys_usable _).symm,
    fun key => (Target.content_usable _ key).symm, hdiagnostics.symm, hunits.symm, ?_, ?_⟩
  · intro ns data hns hnode
    exact hbelow.hasManifest_mend (FilePath.descend_ne_empty hbelow.root_ne hns) hnode
  · intro hmanifests
    have hmend := analyze_of_gather (gather_mend hdir h hmanifests)
    rw [read_mend hdir h] at hmend
    refine ⟨_, hmend, hdiagnostics, hunits, ?_⟩
    refine List.filterMap_eq_nil_iff.mpr fun r hr => ?_
    exact Reading.fault?_of_isUsable (List.mem_filter.mp hr).2

/-- A package at the root with a broken file, a sound one, and another package. -/
def nestedPackage : Disk where
  root := .dir [("bad.rs", .file ⟨#[0xff]⟩), ("lib.rs", .file orderText.toUTF8),
    ("n", .dir [("Cargo.toml", .file "".toUTF8), ("a.rs", .file "struct T;".toUTF8)])]
  cwd := []

theorem nestedPackage_open {pos ms dest : List String} {k : Nat}
    (h : FileTree.Leads nestedPackage.root pos ((ms ++ [Manifest.fileName]).map .name) k dest) :
    ∃ entries, nestedPackage.root.get? pos = some (.dir entries) := by
  cases ms with
  | nil => exact h.dir_of_cons
  | cons m ms => exact h.dir_of_cons

/-- Only the package inside has a manifest. -/
theorem nestedPackage_manifest {ns : List String} (hne : ns ≠ []) (hns : ∀ n ∈ ns, IsEntryName n)
    (h : nestedPackage.hasManifest (FilePath.descend "/" ns) = true) : ns = ["n"] := by
  obtain ⟨dest, data, hdest, -⟩ := FileTree.isFile_iff.mp h
  have hpath : Manifest.pathIn (FilePath.descend "/" ns) =
      FilePath.descend "/" (ns ++ [Manifest.fileName]) :=
    (FilePath.descend_append "/" ns [Manifest.fileName]).symm
  have hroot : nestedPackage.resolve "/" = .ok [] := by rfl
  rw [hpath] at hdest
  obtain ⟨k, hleads⟩ := FileTree.leads_of_resolve hroot
    (isEntryName_concat hns (by decide)) (by simp) hdest
  cases ns with
  | nil => exact absurd rfl hne
  | cons n ns =>
    cases hleads with
    | link hpos hl _ _ =>
      cases hpos
      simpa using Node.mem_of_lookup hl
    | enter hpos hl _ hrest =>
      cases hpos
      have hn : n = "bad.rs" ∨ n = "lib.rs" ∨ n = "n" := by
        have := Node.mem_of_lookup hl
        simp only [List.mem_cons, Prod.mk.injEq, List.not_mem_nil, or_false] at this
        exact this.imp And.left (Or.imp And.left And.left)
      obtain ⟨entries, hdir⟩ := nestedPackage_open hrest
      rcases hn with rfl | rfl | rfl
      · cases hdir
      · cases hdir
      · cases ns with
        | nil => rfl
        | cons m ms =>
          cases hrest with
          | link hpos hl _ _ =>
            cases hpos
            simpa using Node.mem_of_lookup hl
          | enter hpos hl _ hrest =>
            cases hpos
            have hm : m = "Cargo.toml" ∨ m = "a.rs" := by
              have := Node.mem_of_lookup hl
              simp only [List.mem_cons, Prod.mk.injEq, List.not_mem_nil, or_false] at this
              exact this.imp And.left And.left
            obtain ⟨entries, hdir⟩ := nestedPackage_open hrest
            rcases hm with rfl | rfl
            · cases hdir
            · cases hdir

def nestedPlan : Plan := setParentTypes { root := "/" } ["Entity"]

/-- The family of the sound file, which is a target by itself. -/
def soundFamily : Family where
  site := { target := "lib.rs", index := 0, unit := { order with file := "lib.rs" } }
  stem := "STATE"

theorem gather_nestedPackage : gather nestedPackage "/" [] = .ok ["/bad.rs", "/lib.rs"] := by
  have hfound : nestedPackage.sourcesBelow (FileTree.excludedNames ++ []) "/" =
      .ok ["/bad.rs", "/lib.rs"] := by rfl
  refine gather_eq_ok_iff.mpr ⟨_, hfound, ?_⟩
  rw [List.mergeSort_of_pairwise (by decide)]

theorem ofFile_nestedPackage : Reading.ofFile nestedPackage "/" "/lib.rs" =
    ⟨"lib.rs", .ok ⟨[soundFamily.site.unit], []⟩⟩ := by
  have hsound : Extraction.ofText "lib.rs" [] orderText =
      .ok ⟨[soundFamily.site.unit], []⟩ := by decide +kernel
  exact Reading.ofFile_of_ofText _ (by rfl) (by decide) (by decide) (by decide) hsound

theorem findings_nestedPackage :
    (nestedPlan.report (nestedPlan.read nestedPackage ["/bad.rs", "/lib.rs"])).diagnostics =
      [soundFamily.diagnostic nestedPlan.rule] := by
  have hread : nestedPlan.read nestedPackage ["/bad.rs", "/lib.rs"] =
      [Reading.ofFile nestedPackage "/" "/bad.rs",
        ⟨"lib.rs", .ok ⟨[soundFamily.site.unit], []⟩⟩] := by
    rw [← ofFile_nestedPackage]
    rfl
  have hsites : Target.allSites (nestedPlan.read nestedPackage ["/bad.rs", "/lib.rs"]) =
      [soundFamily.site] := by
    rw [hread]
    decide +kernel
  have hchecks : nestedPlan.checks (nestedPlan.read nestedPackage ["/bad.rs", "/lib.rs"])
      soundFamily.site = true :=
    checks_of_chain (by decide +kernel) (List.mem_singleton_self "Entity") List.mem_cons_self
      (List.isChain_singleton "Entity") (by decide)
  rw [diagnostics_eq_reported, reported, families_eq, hsites,
    familiesAt_first hchecks (by decide +kernel) (by simp), List.mergeSort_singleton]
  rfl

/-- The broken file is listed, and without it the sound one gives the same finding. -/
theorem nestedPackage_isolated :
    ∃ a a', nestedPlan.analyze nestedPackage = .ok a ∧
      nestedPlan.analyze (nestedPackage.removeAll ["/bad.rs"]) = .ok a' ∧
      a.skipped.map Fault.path = ["bad.rs"] ∧ a'.skipped = [] ∧
      a.diagnostics = [soundFamily.diagnostic nestedPlan.rule] ∧
      a'.diagnostics = a.diagnostics ∧ a'.units = a.units := by
  have hbad : nestedPackage.isBroken "/bad.rs" = true := by decide +kernel
  have hsound : nestedPackage.isBroken "/lib.rs" = false := by
    have husable : (!nestedPackage.isBroken "/lib.rs") = true := by
      rw [← Reading.isUsable_ofFile nestedPackage "/" "/lib.rs", ofFile_nestedPackage]
      rfl
    simpa using husable
  have hbroken : ["/bad.rs", "/lib.rs"].filter nestedPackage.isBroken = ["/bad.rs"] := by
    simp [hbad, hsound]
  have h := faults_isolated nestedPlan (t := nestedPackage) (by rfl) gather_nestedPackage
  rw [hbroken] at h
  obtain ⟨a, ha, hskipped, -, -, -, -, -, -, hdelete⟩ := h
  obtain ⟨a', ha', hdiagnostics, hunits, hnone⟩ := hdelete fun ns hne hns hmanifest => by
    rw [nestedPackage_manifest hne hns hmanifest]
    rfl
  obtain rfl := Except.ok.inj ((analyze_of_gather gather_nestedPackage).symm.trans ha)
  refine ⟨_, a', ha, ha', ?_, hnone, findings_nestedPackage, hdiagnostics, hunits⟩
  rw [hskipped]
  decide

/-! ## A manifest that is a link -/

/-- A package at `/p` that holds another one, whose manifest is a link to a broken file. -/
def linkedManifest : Disk where
  root := .dir [("p", .dir [("broken.rs", .file ⟨#[0xff]⟩),
    ("n", .dir [("Cargo.toml", .link "../broken.rs"), ("a.rs", .file "struct S;".toUTF8)])])]
  cwd := []

/-- Deleting the broken file takes the manifest away, so the files of the other
package are scanned: there is one unit more. -/
theorem deletion_adds_unit :
    ¬ ∀ (p : Plan) (t : Disk) (files : List String), t.isDir p.root = true →
      gather t p.root p.excludedDirs = .ok files →
      ∃ a a', p.analyze t = .ok a ∧
        p.analyze (t.removeAll (files.filter t.isBroken)) = .ok a' ∧
        a'.diagnostics = a.diagnostics ∧ a'.units = a.units := by
  intro hall
  have hgather : gather linkedManifest "/p" [] = .ok ["/p/broken.rs"] :=
    gather_eq_ok_iff.mpr ⟨["/p/broken.rs"], by rfl, by simp⟩
  have hgather' : gather (linkedManifest.removeAll ["/p/broken.rs"]) "/p" [] =
      .ok ["/p/n/a.rs"] :=
    gather_eq_ok_iff.mpr ⟨["/p/n/a.rs"], by rfl, by simp⟩
  have hbroken : ["/p/broken.rs"].filter linkedManifest.isBroken = ["/p/broken.rs"] := by
    decide +kernel
  obtain ⟨a, a', ha, ha', -, hunits⟩ :=
    hall { root := "/p" } linkedManifest ["/p/broken.rs"] (by rfl) hgather
  rw [hbroken, analyze_of_gather hgather'] at ha'
  rw [analyze_of_gather hgather] at ha
  obtain rfl := Except.ok.inj ha
  obtain rfl := Except.ok.inj ha'
  revert hunits
  decide +kernel

end Plan

end EnumFamily
