import EnumFamily.Proofs.Adjusting
import EnumFamily.Proofs.Placement

/-!
# Targets do not disturb each other

Two packages, or one package before and after a change, are compared on the
findings that come from one target. `Plan.findingsFrom` is the subsequence of
the report with that origin.

Results:
* `target_eq_library_iff`: which files are keyed as the library.
* `findingsFrom_congr`: the findings of a target depend on the units that its
  files hold and on the declarations that it sees.
* `findings_isolated`: so those of the library depend on its files alone, and
  those of any other target on its own files and the library's declarations.
-/
namespace EnumFamily

/-! ## Which files belong to the library -/

namespace Location

/-- A text without slashes is shown as it is. -/
theorem eq_of_normalize_eq {s r : String} (h : normalize s = r) (hr : '/' ∉ r.toList) : s = r := by
  subst h
  have hsame : s.toList.map (fun c => if c = '\\' then '/' else c) = s.toList := by
    refine (List.map_congr_left fun c hc => ?_).trans (List.map_id _)
    refine if_neg fun hback => hr ?_
    simp only [normalize, String.toList_ofList, List.mem_map]
    exact ⟨c, hc, if_pos hback⟩
  rw [normalize, hsame, String.ofList_toList]

theorem targetOf_eq_library_iff {rel : String} (hrel : rel ≠ "lib") :
    targetOf rel = library ↔
      FilePath.names rel = ["src"] ∨ FilePath.names rel = ["src", "bin"] ∨
        ∃ n rest, FilePath.names rel = "src" :: n :: rest ∧ n ≠ "bin" := by
  have hother : normalize rel ≠ library := fun h => hrel (eq_of_normalize_eq h (by decide))
  unfold targetOf
  generalize FilePath.names rel = ns
  split
  · -- an entry of `src/bin`
    refine iff_of_false (ne_library_of_slash (by simp)) ?_
    simp
  · -- the rest of `src`
    rename_i rest hbin
    refine iff_of_true rfl ?_
    rcases rest with _ | ⟨n, rest⟩
    · simp
    · by_cases hn : n = "bin"
      · subst hn
        cases rest with
        | nil => simp
        | cons m ms => exact absurd rfl (hbin m ms)
      · exact Or.inr (Or.inr ⟨n, rest, rfl, hn⟩)
  · rename_i d m ms hbin hsrc
    have hd : d ≠ "src" := hsrc
    refine iff_of_false ?_ (by simp [hd])
    split
    · exact ne_library_of_slash (by simp)
    · exact hother
  · -- a single name, or none
    rename_i hsrc _
    refine iff_of_false hother ?_
    rintro (rfl | rfl | ⟨n, rest, rfl, -⟩)
    · exact hsrc _ rfl
    · exact hsrc _ rfl
    · exact hsrc _ rfl

/-- Of the files that end in `.rs`, the library has those in `src` that are not in
`src/bin`. -/
theorem target_eq_library_iff {root file s : String} {dirs : List String}
    (h : FilePath.LiesAt root (dirs ++ [s ++ ".rs"]) file) :
    target root file = library ↔
      ∃ n rest, dirs ++ [s ++ ".rs"] = "src" :: n :: rest ∧ n ≠ "bin" := by
  obtain ⟨rel, hnames, htarget⟩ := exists_targetOf h
  -- the other paths with that key do not end so
  have hlast : ∀ n, ".rs".toList.isSuffixOf n.toList = false →
      (FilePath.names rel).getLast? ≠ some n := by
    intro n hn hends
    rw [hnames, List.getLast?_concat, Option.some.injEq] at hends
    rw [endsInRs_iff.mpr ⟨s, hends.symm⟩] at hn
    cases hn
  have hrel : rel ≠ "lib" := by
    rintro rfl
    exact hlast "lib" (by decide) (by decide)
  rw [htarget, targetOf_eq_library_iff hrel, ← hnames]
  constructor
  · rintro (hsrc | hbin | hlib)
    · exact absurd (by rw [hsrc]; rfl) (hlast "src" (by decide))
    · exact absurd (by rw [hbin]; rfl) (hlast "bin" (by decide))
    · exact hlib
  · intro hlib
    exact Or.inr (Or.inr hlib)

end Location

/-! ## The findings of one target -/

namespace Hierarchy

/-- What the rule learns about a unit does not depend on the order of the
declarations, nor on how often one is seen. -/
theorem host_congr {ds ds' : List TraitDecl} (h : ∀ d, d ∈ ds ↔ d ∈ ds') :
    (ofDecls ds).host = (ofDecls ds').host := by
  have himpl := implements_eq_of_mem_iff h
  unfold host
  simp only [himpl]

end Hierarchy

namespace Plan

/-- The findings that come from the units of a target, as they stand in the report. -/
def findingsFrom (p : Plan) (rs : List Reading) (key : String) : List Diagnostic :=
  ((p.reported rs).filter (·.site.target == key)).map (Family.diagnostic p.rule)

theorem familiesIn_of_not_mem_keys {p : Plan} {rs : List Reading} {key : String}
    (h : key ∉ Target.keys rs) : p.familiesIn rs key = [] := by
  rw [familiesIn, Target.sites_of_not_mem_keys h]
  rfl

/-- Cutting a target out of the report is the same as sorting its families alone. -/
theorem findingsFrom_eq (p : Plan) (rs : List Reading) (key : String) :
    p.findingsFrom rs key =
      ((p.familiesIn rs key).mergeSort Family.placeLe).map (Family.diagnostic p.rule) := by
  have htag : ∀ key, ∀ f ∈ p.familiesIn rs key, f.site.target = key := by
    intro key f hf
    obtain ⟨s, hs, hfs⟩ := List.mem_flatMap.mp hf
    rw [(mem_familiesAt_iff.mp hfs).1, (Target.mem_sites_iff.mp hs).1]
  have hcut : (p.families rs).filter (·.site.target == key) = p.familiesIn rs key := by
    rw [families, filter_tag_flatMap (fun f : Family => f.site.target) htag (Target.nodup_keys rs)]
    split
    · rfl
    · rename_i hkey
      rw [familiesIn_of_not_mem_keys hkey]
  rw [findingsFrom, reported, ← mergeSort_filter Family.placeLe_isTotalPreorder, hcut]

theorem findingsFrom_congr {p : Plan} {rs rs' : List Reading} {key : String}
    (hunits : Target.unitsRead rs key = Target.unitsRead rs' key)
    (htraits : ∀ d, d ∈ Target.traitsSeen rs key ↔ d ∈ Target.traitsSeen rs' key) :
    p.findingsFrom rs key = p.findingsFrom rs' key := by
  have hsites : Target.sites rs key = Target.sites rs' key := by
    rw [Target.sites, hunits, Target.sites]
  have hat : ∀ s ∈ Target.sites rs' key, p.familiesAt rs s = p.familiesAt rs' s := by
    intro s hs
    unfold familiesAt checks
    rw [(Target.mem_sites_iff.mp hs).1, Hierarchy.host_congr htraits]
  have hin : p.familiesIn rs key = p.familiesIn rs' key := by
    rw [familiesIn, hsites, familiesIn]
    exact congrArg List.flatten (List.map_congr_left hat)
  rw [findingsFrom_eq, findingsFrom_eq, hin]

/-! ## Two file trees -/

/-- Two trees have the same files with key `key`, with the same texts. -/
def AgreeOn (p : Plan) (t t' : FileTree) (files files' : List String) (key : String) : Prop :=
  ∀ f, Location.target p.root f = key →
    (f ∈ files ↔ f ∈ files') ∧ (f ∈ files → t.text f = t'.text f)

theorem filter_read (p : Plan) (t : FileTree) (files : List String) (key : String) :
    (p.read t files).filter (·.target == key) =
      (files.filter (Location.target p.root · == key)).map (Reading.ofFile t p.root) := by
  rw [read, List.filter_map]
  rfl

theorem AgreeOn.read_eq {p : Plan} {t t' : FileTree} {files files' : List String} {key : String}
    (hroot : p.root ≠ "") (hlist : Listing p.root files) (hlist' : Listing p.root files')
    (h : p.AgreeOn t t' files files' key) :
    (p.read t files).filter (·.target == key) = (p.read t' files').filter (·.target == key) := by
  have hfiles : files.filter (Location.target p.root · == key) =
      files'.filter (Location.target p.root · == key) := by
    refine Listing.ext hroot (hlist.filter _) (hlist'.filter _) fun f => ?_
    rw [List.mem_filter, List.mem_filter]
    constructor
    · rintro ⟨hf, hkey⟩
      exact ⟨(h f (beq_iff_eq.mp hkey)).1.mp hf, hkey⟩
    · rintro ⟨hf, hkey⟩
      exact ⟨(h f (beq_iff_eq.mp hkey)).1.mpr hf, hkey⟩
  rw [filter_read, filter_read, ← hfiles]
  refine List.map_congr_left fun f hf => ?_
  obtain ⟨hf, hkey⟩ := List.mem_filter.mp hf
  unfold Reading.ofFile
  rw [(h f (beq_iff_eq.mp hkey)).2 hf]

theorem AgreeOn.unitsRead_eq {p : Plan} {t t' : FileTree} {files files' : List String}
    {key : String} (hroot : p.root ≠ "") (hlist : Listing p.root files)
    (hlist' : Listing p.root files') (h : p.AgreeOn t t' files files' key) :
    Target.unitsRead (p.read t files) key = Target.unitsRead (p.read t' files') key := by
  rw [Target.unitsRead, h.read_eq hroot hlist hlist', Target.unitsRead]

theorem AgreeOn.traitsRead_eq {p : Plan} {t t' : FileTree} {files files' : List String}
    {key : String} (hroot : p.root ≠ "") (hlist : Listing p.root files)
    (hlist' : Listing p.root files') (h : p.AgreeOn t t' files files' key) :
    Target.traitsRead (p.read t files) key = Target.traitsRead (p.read t' files') key := by
  rw [Target.traitsRead, h.read_eq hroot hlist hlist', Target.traitsRead]

/-- **Target isolation.** Take two disks whose files can be listed below the root
of a plan. Each analysis ends with a report whose findings have an origin. If
the disks agree on the files of the library, the findings from the library are
the same, whatever else the disks hold. If they agree on the files of another
target and declare the same traits in the library, the findings from that target
are the same. A file that ends in `.rs`, however its path is spelled, has the key of
the library exactly if it is in `src` but not in `src/bin`; and no file that lies in
`src/bin`, whatever it is called, has it. -/
theorem findings_isolated (p : Plan) {t t' : Disk} {files files' : List String}
    (h : gather t p.root p.excludedDirs = .ok files)
    (h' : gather t' p.root p.excludedDirs = .ok files') :
    (∃ a, p.analyze t = .ok a ∧
      a.diagnostics = (p.reported (p.read t files)).map (Family.diagnostic p.rule)) ∧
    (∃ a, p.analyze t' = .ok a ∧
      a.diagnostics = (p.reported (p.read t' files')).map (Family.diagnostic p.rule)) ∧
    (p.AgreeOn t t' files files' Location.library →
      p.findingsFrom (p.read t files) Location.library =
        p.findingsFrom (p.read t' files') Location.library) ∧
    (∀ key, key ≠ Location.library → p.AgreeOn t t' files files' key →
      (∀ d, d ∈ Target.traitsRead (p.read t files) Location.library ↔
        d ∈ Target.traitsRead (p.read t' files') Location.library) →
      p.findingsFrom (p.read t files) key = p.findingsFrom (p.read t' files') key) ∧
    (∀ f ∈ files, FileTree.isSource f = true ∧
      ∃ ns, (∀ n ∈ ns, IsEntryName n) ∧ f = FilePath.descend p.root ns) ∧
    (∀ file dirs s, FilePath.LiesAt p.root (dirs ++ [s ++ ".rs"]) file →
      (Location.target p.root file = Location.library ↔
        ∃ n rest, dirs ++ [s ++ ".rs"] = "src" :: n :: rest ∧ n ≠ "bin")) ∧
    (∀ file n rest, FilePath.LiesAt p.root ("src" :: "bin" :: n :: rest) file →
      Location.target p.root file ≠ Location.library) := by
  obtain ⟨hroot, hlist⟩ := listing_of_gather h
  obtain ⟨-, hlist'⟩ := listing_of_gather h'
  refine ⟨⟨_, analyze_of_gather h, diagnostics_eq_reported _ _⟩,
    ⟨_, analyze_of_gather h', diagnostics_eq_reported _ _⟩, ?_, ?_, ?_, ?_, ?_⟩
  · intro hagree
    refine findingsFrom_congr (hagree.unitsRead_eq hroot hlist hlist') fun d => ?_
    rw [Target.traitsSeen, if_pos rfl, hagree.traitsRead_eq hroot hlist hlist', Target.traitsSeen,
      if_pos rfl]
  · intro key hkey hagree htraits
    refine findingsFrom_congr (hagree.unitsRead_eq hroot hlist hlist') fun d => ?_
    rw [Target.traitsSeen, if_neg hkey, hagree.traitsRead_eq hroot hlist hlist', Target.traitsSeen,
      if_neg hkey, List.mem_append, List.mem_append, htraits d]
  · intro f hf
    exact ⟨hlist.source f hf, hlist.below f hf⟩
  · intro file dirs s hfile
    exact Location.target_eq_library_iff hfile
  · intro file n rest hfile hlib
    exact Location.ne_bin_of_library hfile hlib rfl

/-- A package at `/p` with a library of one file and one test. -/
def smallPackage (library test : String) : Disk where
  root := .dir [("p", .dir [("src", .dir [("lib.rs", .file library.toUTF8)]),
    ("tests", .dir [("a.rs", .file test.toUTF8)])])]
  cwd := []
  wellFormed := Node.wellFormed_of_check _ rfl

def smallPlan : Plan := setParentTypes { root := "/p" } ["Entity"]

def smallReadings (library test : String) : List Reading :=
  smallPlan.read (smallPackage library test) ["/p/src/lib.rs", "/p/tests/a.rs"]

/-- A type with two constants that share a stem, whose trait is declared elsewhere. -/
def taggedText : String :=
  "struct Order; impl Tagged for Order {}" ++
    " impl Order { const STATE_NEW: u8 = 0; const STATE_PAID: u8 = 1; }"

def taggedFamily : Family where
  site := { target := "tests/a", index := 0,
            unit := { order with file := "tests/a.rs", traits := ["Tagged"] } }
  stem := "STATE"

def taggedDecl : TraitDecl := ⟨"Tagged", "crate::Tagged", ["Entity"]⟩

theorem ofText_taggedDecl :
    Extraction.ofText "src/lib.rs" [] "trait Tagged: Entity {}" = .ok ⟨[], [taggedDecl]⟩ := by
  decide +kernel

theorem ofText_tagged :
    Extraction.ofText "tests/a.rs" [] taggedText = .ok ⟨[taggedFamily.site.unit], []⟩ := by
  decide +kernel

theorem gather_smallPackage (library test : String) : gather (smallPackage library test) "/p" [] =
    .ok ["/p/src/lib.rs", "/p/tests/a.rs"] := by
  have hfound : (smallPackage library test).sourcesBelow (FileTree.excludedNames ++ []) "/p" =
      .ok ["/p/src/lib.rs", "/p/tests/a.rs"] := by rfl
  refine gather_eq_ok_iff.mpr ⟨_, hfound, ?_⟩
  rw [List.mergeSort_of_pairwise (by decide)]

/-- The packages agree on a target if the file that belongs to it has the same text. -/
theorem agreeOn_smallPackage {key library library' test test' : String}
    (hlibrary : Location.library = key → library = library')
    (htest : "tests/a" = key → test = test') :
    smallPlan.AgreeOn (smallPackage library test) (smallPackage library' test')
      ["/p/src/lib.rs", "/p/tests/a.rs"] ["/p/src/lib.rs", "/p/tests/a.rs"] key := by
  refine fun f hkey => ⟨Iff.rfl, fun hf => ?_⟩
  have hlib : Location.target "/p" "/p/src/lib.rs" = Location.library := by decide
  have hkeyed : Location.target "/p" "/p/tests/a.rs" = "tests/a" := by decide
  rcases List.mem_pair.mp hf with rfl | rfl
  · rw [hlibrary (hlib.symm.trans hkey)]
    rfl
  · rw [htest (hkeyed.symm.trans hkey)]
    rfl

theorem findings_library :
    smallPlan.findingsFrom (smallReadings orderText "struct S;") Location.library =
      [orderFamily.diagnostic smallPlan.rule] := by
  have hread : smallReadings orderText "struct S;" =
      ⟨Location.library, .ok ⟨[order], []⟩⟩ ::
        smallPlan.read (smallPackage orderText "struct S;") ["/p/tests/a.rs"] := by
    rw [smallReadings, read, List.map_cons, Reading.ofFile_of_ofText Location.library (by rfl)
      (by decide) (by decide) (by decide) ofText_order]
    rfl
  have hsites : Target.sites (smallReadings orderText "struct S;") Location.library =
      [orderFamily.site] := by
    rw [hread]
    decide +kernel
  have hchecks : smallPlan.checks (smallReadings orderText "struct S;") orderFamily.site = true :=
    checks_of_chain (by decide +kernel) (List.mem_singleton_self "Entity") List.mem_cons_self
      (List.isChain_singleton "Entity") (by decide)
  rw [findingsFrom_eq, familiesIn, hsites,
    familiesAt_first hchecks (by decide +kernel) (by simp), List.mergeSort_singleton]
  rfl

theorem findings_test :
    smallPlan.findingsFrom (smallReadings "trait Tagged: Entity {}" taggedText) "tests/a" =
      [taggedFamily.diagnostic smallPlan.rule] := by
  have hread : smallReadings "trait Tagged: Entity {}" taggedText =
      [⟨Location.library, .ok ⟨[], [taggedDecl]⟩⟩,
        ⟨"tests/a", .ok ⟨[taggedFamily.site.unit], []⟩⟩] := by
    rw [smallReadings, read, List.map_cons, List.map_singleton,
      Reading.ofFile_of_ofText Location.library (by rfl) (by decide) (by decide) (by decide)
        ofText_taggedDecl,
      Reading.ofFile_of_ofText "tests/a" (by rfl) (by decide) (by decide) (by decide)
        ofText_tagged]
  have hsites : Target.sites (smallReadings "trait Tagged: Entity {}" taggedText) "tests/a" =
      [taggedFamily.site] := by
    rw [hread]
    decide +kernel
  have hseen : Target.traitsSeen (smallReadings "trait Tagged: Entity {}" taggedText) "tests/a" =
      [taggedDecl] := by
    rw [hread]
    decide +kernel
  have hchain : ["Tagged", "Entity"].IsChain (Hierarchy.Lists
      (Target.traitsSeen (smallReadings "trait Tagged: Entity {}" taggedText) "tests/a")) := by
    rw [hseen, List.isChain_pair]
    exact ⟨_, List.mem_cons_self, by decide, List.mem_cons_self⟩
  have hchecks : smallPlan.checks (smallReadings "trait Tagged: Entity {}" taggedText)
      taggedFamily.site = true :=
    checks_of_chain (by decide +kernel) (List.mem_singleton_self "Entity") List.mem_cons_self
      hchain (by decide)
  rw [findingsFrom_eq, familiesIn, hsites,
    familiesAt_first hchecks (by decide +kernel) (by simp), List.mergeSort_singleton]
  rfl

/-- First the test is rewritten: it declares a trait and a constant under the names of
the library's. Then the library is, and keeps the declaration by which the type of the
test has its parent. -/
theorem smallPackage_isolated :
    smallPlan.findingsFrom (smallReadings orderText "struct S;") Location.library =
        [orderFamily.diagnostic smallPlan.rule] ∧
      smallPlan.findingsFrom (smallReadings orderText
          "trait Entity: U {} impl Order { const STATE_OLD: u8 = 2; }") Location.library =
        [orderFamily.diagnostic smallPlan.rule] ∧
      smallPlan.findingsFrom (smallReadings "trait Tagged: Entity {}" taggedText) "tests/a" =
        [taggedFamily.diagnostic smallPlan.rule] ∧
      smallPlan.findingsFrom (smallReadings "struct R; trait Tagged: Entity {}" taggedText)
          "tests/a" =
        [taggedFamily.diagnostic smallPlan.rule] := by
  have hisolated := fun library library' test test' =>
    findings_isolated smallPlan (gather_smallPackage library test)
      (gather_smallPackage library' test')
  refine ⟨findings_library, ?_, findings_test, ?_⟩
  · rw [← findings_library]
    refine ((hisolated orderText orderText "struct S;" _).2.2.1 ?_).symm
    exact agreeOn_smallPackage (fun _ => rfl) (fun h => absurd h (by decide))
  · have htraits : Target.traitsRead (smallReadings "trait Tagged: Entity {}" taggedText)
          Location.library =
        Target.traitsRead (smallReadings "struct R; trait Tagged: Entity {}" taggedText)
          Location.library := by decide +kernel
    rw [← findings_test]
    refine ((hisolated _ _ taggedText taggedText).2.2.2.1 "tests/a" (by decide) ?_ fun d => ?_).symm
    · exact agreeOn_smallPackage (fun h => absurd h (by decide)) (fun _ => rfl)
    · exact iff_of_eq (congrArg (d ∈ ·) htraits)

end Plan

end EnumFamily
