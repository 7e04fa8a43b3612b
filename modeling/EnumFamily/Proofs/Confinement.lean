import EnumFamily.CommandLine
import EnumFamily.Proofs.Canonical
import EnumFamily.Proofs.RelativePaths

/-!
# Reports stay below the working directory

`OutputPath.check` looks at the text of a path. What it promises is about the way that
the path takes: `FileTree.lexical` follows steps as far as their names can tell, with no
link in sight. From any directory, the steps of an accepted path go down or stay, at
every point of the way.

Results:
* `lexical_of_no_up`: steps that do not climb append their names.
* `steps_join`: the way of a joined path is the way of the directory, then that of the
  path.
* `check_eq_ok_iff`: which paths are accepted, said on the parts between slashes.
* `emit_cases`, `runOptions_cases`: all that handing out a report, and a whole run, can
  do to the disk.
* `accepted_stay_below`: accepted paths stay below the working directory, refused ones
  are not written.
-/
namespace EnumFamily

namespace FilePath

theorem innerComponent_eq_up_iff {text : String} :
    innerComponent text = some .up ↔ text = ".." := by
  unfold innerComponent
  constructor
  · intro h
    split at h
    · cases h
    · split at h
      · assumption
      · cases h
  · rintro rfl
    rfl

theorem firstComponent_eq_up_iff {text : String} {more : Bool} :
    firstComponent text more = some .up ↔ text = ".." := by
  unfold firstComponent
  constructor
  · intro h
    split at h
    · split at h <;> cases h
    · split at h
      · cases h
      · exact innerComponent_eq_up_iff.mp h
  · rintro rfl
    rfl

/-- A path climbs where two dots stand between slashes. -/
theorem up_mem_components_iff {path : String} :
    Component.up ∈ components path ↔ "..".toList ∈ splitAt '/' path.toList := by
  obtain ⟨t, ts, h⟩ := List.exists_cons_of_ne_nil (splitAt_ne_nil '/' path.toList)
  have hdots : ∀ u : List Char, String.ofList u = ".." ↔ u = "..".toList := fun u => by
    rw [← String.toList_inj, String.toList_ofList]
  rw [components, pieces_of_splitAt h, h]
  simp only [List.mem_filterMap, List.mem_cons, List.mem_map, exists_eq_or_imp,
    firstComponent_eq_up_iff, hdots, @eq_comm _ t]
  refine or_congr_right ?_
  constructor
  · rintro ⟨_, ⟨_, ⟨u, hu, rfl⟩, rfl⟩, hup⟩
    rwa [← (hdots u).mp (innerComponent_eq_up_iff.mp hup)]
  · intro hu
    exact ⟨_, ⟨_, ⟨_, hu, rfl⟩, rfl⟩, rfl⟩

end FilePath

/-! ## Where steps lead as far as names can tell -/

namespace FileTree

/-- The place after a step: dots stay, two dots drop the last name. -/
def Step.move (pos : List String) : Step → List String
  | .stay => pos
  | .up => pos.dropLast
  | .name n => pos ++ [n]

def Step.name? : Step → Option String
  | .name n => some n
  | _ => none

/-- The place after some steps, no link being looked at. -/
def lexical (pos : List String) (ss : List Step) : List String := ss.foldl Step.move pos

@[simp] theorem lexical_nil (pos : List String) : lexical pos [] = pos := rfl

@[simp] theorem lexical_cons (pos : List String) (step : Step) (ss : List Step) :
    lexical pos (step :: ss) = lexical (step.move pos) ss := rfl

theorem lexical_append (pos : List String) (ss ts : List Step) :
    lexical pos (ss ++ ts) = lexical (lexical pos ss) ts := List.foldl_append

/-- Steps that do not climb append their names. -/
theorem lexical_of_no_up {ss : List Step} (h : Step.up ∉ ss) (pos : List String) :
    lexical pos ss = pos ++ ss.filterMap Step.name? := by
  induction ss generalizing pos with
  | nil => simp
  | cons step ss ih =>
    obtain ⟨hstep, hss⟩ := not_or.mp fun hin => h (List.mem_cons.mpr hin)
    rw [lexical_cons, ih hss]
    cases step with
    | stay => rfl
    | up => exact absurd rfl hstep
    | name n => simp [Step.move, Step.name?]

theorem stepOf_eq_up_iff {piece : String} : stepOf piece = .up ↔ piece = ".." := by
  unfold stepOf
  constructor
  · intro h
    split at h
    · cases h
    · split at h
      · assumption
      · cases h
  · rintro rfl
    rfl

theorem up_mem_steps_iff {path : String} :
    Step.up ∈ steps path ↔ "..".toList ∈ FilePath.splitAt '/' path.toList := by
  simp only [steps, List.mem_map, stepOf_eq_up_iff]
  constructor
  · rintro ⟨p, hp, hdots⟩
    rwa [← hdots, String.toList_ofList]
  · intro h
    exact ⟨_, h, String.ofList_toList⟩

/-- The names among the steps of a path can be names of entries. -/
theorem isEntryName_of_mem_steps {path n : String} (h : Step.name n ∈ steps path) :
    IsEntryName n := by
  obtain ⟨p, hp, hstep⟩ := List.mem_map.mp h
  unfold stepOf at hstep
  split at hstep
  · cases hstep
  · rename_i hstay
    split at hstep
    · cases hstep
    · rename_i hup
      obtain rfl := Step.name.inj hstep
      exact ⟨fun he => hstay (Or.inl he), fun hd => hstay (Or.inr hd), hup,
        by simpa using FilePath.not_mem_of_mem_splitAt hp⟩

/-- The way of a joined path is the way of the directory, then that of the path. -/
theorem steps_join {root p : String} (hroot : root ≠ "") (hp : FilePath.isAbsolute p = false) :
    ∃ front, steps (FilePath.join root p) = front ++ steps p ∧
      ∀ pos, lexical pos front = lexical pos (steps root) := by
  obtain ⟨s, hs, hjoin⟩ := FilePath.toList_join_relative hroot hp
  refine ⟨(FilePath.splitAt '/' s).map fun p => stepOf (String.ofList p), ?_, fun pos => ?_⟩
  · rw [steps, hjoin, FilePath.splitAt_append_sep, List.map_append]
    rfl
  · rcases hs with hs | hs
    · rw [steps, hs]
    · -- a slash at the end of the root is a step that stays
      rw [steps, hs, FilePath.splitAt_append_sep, List.map_append, lexical_append]
      rfl

/-- A path without dots leads where it says. -/
theorem lexical_absolute {ns : List String} (hns : ∀ n ∈ ns, IsEntryName n) :
    lexical [] (steps (absolute ns)) = ns := by
  cases ns with
  | nil => decide
  | cons n ns =>
    rw [← FilePath.descend_slash hns]
    have hne : "/" ≠ "" := by decide
    obtain ⟨ss, hss, hsteps⟩ := steps_descend hne hns (List.cons_ne_nil n ns)
    have hfront : lexical [] ss = [] := by
      rcases hss with rfl | h
      · decide
      · have hslash : steps "/" = [.stay] ++ [.stay] := by decide
        rw [← (List.append_inj' (hslash.symm.trans h) rfl).1]
        rfl
    have hup : Step.up ∉ (n :: ns).map Step.name := by simp
    rw [hsteps, lexical_append, hfront, lexical_of_no_up hup, List.filterMap_map]
    exact List.filterMap_some

end FileTree

/-! ## Accepted paths -/

namespace OutputPath

open FileTree (steps lexical)

/-- The paths that a report may be written to, by their text. -/
structure Accepted (path : String) : Prop where
  no_nul : '\x00' ∉ path.toList
  relative : path.toList.head? ≠ some '/'
  /-- two dots never stand alone between slashes -/
  no_climb : "..".toList ∉ FilePath.splitAt '/' path.toList

theorem Accepted.isAbsolute_eq_false {path : String} (h : Accepted path) :
    FilePath.isAbsolute path = false := by
  simpa [FilePath.isAbsolute] using h.relative

theorem any_nul_iff {cs : List Char} : (cs.any (·.toNat = 0)) = true ↔ '\x00' ∈ cs := by
  simp only [List.any_eq_true, decide_eq_true_eq]
  constructor
  · rintro ⟨c, hc, hnul⟩
    have : c = '\x00' := Char.toNat_inj.mp hnul
    exact this ▸ hc
  · intro h
    exact ⟨_, h, rfl⟩

theorem check_eq_ok_iff {path p : String} : check path = .ok p ↔ p = path ∧ Accepted path := by
  unfold check
  constructor
  · intro h
    split at h
    · cases h
    rename_i hnul
    split at h
    · cases h
    rename_i habs
    split at h
    · cases h
    rename_i hup
    refine ⟨(Except.ok.inj h).symm, fun hin => hnul (any_nul_iff.mpr hin), ?_, fun hin => hup ?_⟩
    · simpa [FilePath.isAbsolute] using habs
    · exact List.contains_iff_mem.mpr (FilePath.up_mem_components_iff.mpr hin)
  · rintro ⟨rfl, hp⟩
    rw [if_neg fun h => hp.no_nul (any_nul_iff.mp h), if_neg (by simp [hp.isAbsolute_eq_false]),
      if_neg fun h => hp.no_climb (FilePath.up_mem_components_iff.mp (List.contains_iff_mem.mp h))]

/-- The way of `path`, taken at the directory `cwd`: it starts there, goes through places at
or below it only, and ends below it at the names `ns`. -/
structure StaysBelow (cwd path : String) (ns : List String) : Prop where
  way : ∃ front, steps (FilePath.join cwd path) = front ++ steps path ∧
    lexical [] front = lexical [] (steps cwd) ∧
    ∀ before, before <+: steps path →
      ∃ ms, ms <+: ns ∧ lexical [] (front ++ before) = lexical [] (steps cwd) ++ ms
  place : lexical [] (steps (FilePath.join cwd path)) = lexical [] (steps cwd) ++ ns
  names : ∀ n ∈ ns, IsEntryName n

theorem Accepted.staysBelow {path : String} (h : Accepted path) {cwd : String}
    (hcwd : FilePath.isAbsolute cwd = true) :
    StaysBelow cwd path ((steps path).filterMap FileTree.Step.name?) := by
  have hup : FileTree.Step.up ∉ steps path := fun hin =>
    h.no_climb (FileTree.up_mem_steps_iff.mp hin)
  obtain ⟨front, hsteps, hfront⟩ :=
    FileTree.steps_join (FilePath.ne_empty_of_isAbsolute hcwd) h.isAbsolute_eq_false
  refine ⟨⟨front, hsteps, hfront [], fun before hbefore => ?_⟩, ?_, fun n hn => ?_⟩
  · have hup' : FileTree.Step.up ∉ before := fun hin => hup (hbefore.subset hin)
    refine ⟨before.filterMap FileTree.Step.name?, hbefore.filterMap _, ?_⟩
    rw [FileTree.lexical_append, hfront, FileTree.lexical_of_no_up hup']
  · rw [hsteps, FileTree.lexical_append, hfront, FileTree.lexical_of_no_up hup]
  · obtain ⟨step, hstep, hname⟩ := List.mem_filterMap.mp hn
    cases step with
    | stay => cases hname
    | up => cases hname
    | name m =>
      obtain rfl := Option.some.inj hname
      exact FileTree.isEntryName_of_mem_steps hstep

end OutputPath

/-! ## What is written -/

namespace CommandLine

/-- The disk after a run is the disk before it, or what writing a report to an accepted path
makes of it. -/
def WritesAccepted (o : Options) (before after : FileTree) : Prop :=
  after = before ∨ ∃ path text, o.output = some path ∧ OutputPath.Accepted path ∧
    before.write path text = .ok after

theorem emit_of_refused {o : Options} {path : String} {refusal : OutputPath.Refusal}
    (houtput : o.output = some path) (hcheck : OutputPath.check path = .error refusal)
    (text : String) (r : Outcome) : emit o text r = fail (.ofWords refusal.message) r := by
  simp only [emit, houtput, hcheck]

theorem emit_cases (o : Options) (text : String) (r : Outcome) :
    WritesAccepted o r.tree (emit o text r).tree := by
  cases houtput : o.output with
  | none =>
    simp only [emit, houtput]
    exact Or.inl rfl
  | some path =>
    cases hcheck : OutputPath.check path with
    | error refusal =>
      rw [emit_of_refused houtput hcheck]
      exact Or.inl rfl
    | ok p =>
      obtain ⟨rfl, haccepted⟩ := OutputPath.check_eq_ok_iff.mp hcheck
      simp only [emit, houtput, hcheck]
      cases hwrite : r.tree.write p text.toUTF8 with
      | error e => exact Or.inl rfl
      | ok tree => exact Or.inr ⟨p, text.toUTF8, houtput, haccepted, hwrite⟩

theorem runWorkspace_cases (t : FileTree) (listing : Option MemberListing) (o : Options) :
    WritesAccepted o t (runWorkspace t listing o).tree := by
  unfold runWorkspace
  split
  · exact Or.inl rfl
  · dsimp only
    split
    · exact Or.inl rfl
    · exact emit_cases o _ _

theorem runPackage_cases (t : FileTree) (o : Options) (root : String) :
    WritesAccepted o t (runPackage t o root).tree := by
  unfold runPackage
  dsimp only
  split
  · exact Or.inl rfl
  · split
    · exact emit_cases o _ _
    · unfold runPlan
      dsimp only
      split
      · exact Or.inl rfl
      · exact emit_cases o _ _

/-- A run changes nothing on disk but the report. -/
theorem runOptions_cases (t : FileTree) (listing : Option MemberListing) (o : Options) :
    WritesAccepted o t (runOptions t listing o).tree := by
  unfold runOptions
  split
  · exact runWorkspace_cases t listing o
  · split
    · exact runPackage_cases t o _
    · split
      · exact runPackage_cases t o _
      · exact Or.inl rfl

theorem WritesAccepted.eq_of_refused {o : Options} {before after : FileTree} {path : String}
    (h : WritesAccepted o before after) (houtput : o.output = some path)
    (hrefused : ¬ OutputPath.Accepted path) : after = before := by
  rcases h with h | ⟨path', -, houtput', haccepted, -⟩
  · exact h
  · rw [houtput, Option.some.injEq] at houtput'
    exact absurd (houtput' ▸ haccepted) hrefused

/-- **Confinement of reports.** A path is accepted exactly if it has no NUL, does not begin
with a slash and has no part that is two dots. An accepted path, joined to any absolute
directory, leads to names below that directory without ever leaving it; if the directory is
spelled without dots, these follow its own names. With a refused path, neither handing out
the report nor the run around it changes anything on disk. -/
theorem accepted_stay_below (path : String) :
    ((∃ p, OutputPath.check path = .ok p) ↔ OutputPath.Accepted path) ∧
    (∀ p, OutputPath.check path = .ok p → ∃ ns,
      (∀ cwd, FilePath.isAbsolute cwd = true → OutputPath.StaysBelow cwd p ns) ∧
      ∀ ms, (∀ m ∈ ms, IsEntryName m) →
        FileTree.lexical [] (FileTree.steps (FilePath.join (FileTree.absolute ms) p)) = ms ++ ns) ∧
    ∀ refusal, OutputPath.check path = .error refusal → ∀ o : Options, o.output = some path →
      (∀ text r, (emit o text r).tree = r.tree ∧ (emit o text r).status = 1) ∧
      ∀ t listing, (runOptions t listing o).tree = t := by
  refine ⟨?_, fun p hp => ?_, fun refusal hrefusal o houtput => ?_⟩
  · constructor
    · rintro ⟨p, hp⟩
      exact (OutputPath.check_eq_ok_iff.mp hp).2
    · intro h
      exact ⟨path, OutputPath.check_eq_ok_iff.mpr ⟨rfl, h⟩⟩
  · obtain ⟨rfl, haccepted⟩ := OutputPath.check_eq_ok_iff.mp hp
    refine ⟨_, fun cwd hcwd => haccepted.staysBelow hcwd, fun ms hms => ?_⟩
    have habs : FilePath.isAbsolute (FileTree.absolute ms) = true := by
      simp [FilePath.isAbsolute, FileTree.absolute]
    rw [(haccepted.staysBelow habs).place, FileTree.lexical_absolute hms]
  · have hrefused : ¬ OutputPath.Accepted path := fun h => by
      rw [OutputPath.check_eq_ok_iff.mpr ⟨rfl, h⟩] at hrefusal
      cases hrefusal
    refine ⟨fun text r => ?_, fun t listing =>
      (runOptions_cases t listing o).eq_of_refused houtput hrefused⟩
    rw [emit_of_refused houtput hrefusal]
    exact ⟨rfl, rfl⟩

/-- A name may begin with dots, and a slash or a dot more does not matter; two dots do. -/
theorem dotted_stays_below :
    OutputPath.check "./out//..a/..." = .ok "./out//..a/..." ∧
      OutputPath.check "out/../../x" = .error (.climbs "out/../../x") ∧
      (∃ ns, OutputPath.StaysBelow "/work/" "./out//..a/..." ns) ∧
      ∀ r, (emit { output := some "out/../../x" } "text" r).tree = r.tree := by
  have hcheck : OutputPath.check "./out//..a/..." = .ok "./out//..a/..." := rfl
  have hrefused : OutputPath.check "out/../../x" = .error (.climbs "out/../../x") := rfl
  obtain ⟨ns, hstays, -⟩ := (accepted_stay_below _).2.1 _ hcheck
  exact ⟨hcheck, hrefused, ⟨ns, hstays "/work/" (by decide)⟩, fun r =>
    (((accepted_stay_below _).2.2 _ hrefused _ rfl).1 "text" r).1⟩

end CommandLine

end EnumFamily
