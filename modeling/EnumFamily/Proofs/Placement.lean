import EnumFamily.Location
import EnumFamily.Proofs.RelativePaths

/-!
# Module paths and targets, from where a file stands

What counts for a file is the names that lead to it from the root of its package
(`FilePath.LiesAt`), however its path is spelled. Its target is read off these names
as they are. Its module path is made of the names behind `src` after the stem of the
last one has been looked at; only then a target's directory and name are dropped.

Results:
* `modulePath_of_src`, `modulePath_of_ne`, `exists_targetOf`: both functions in
  terms of the names.
* `library_modules`: the files of the library have the module path that their
  place says, with one exception, `src/bin.rs`, whose module is lost.
* `target_modules`: in every other target the module path is that of the names
  behind the target's own.
-/
namespace EnumFamily

namespace Location

open FilePath (LiesAt)

/-! ## Both functions on names -/

section
variable {root file : String} {ns : List String}

theorem modulePath_of_src (h : LiesAt root ("src" :: ns) file) :
    modulePath root file = dropTarget true (moduleSegments ns) := by
  obtain ⟨rel, hrel, hnames⟩ := ((FilePath.liesAt_join_iff (by decide)).mpr h).exists_relativeTo
  simp only [modulePath, hrel, hnames]

theorem modulePath_of_ne (h : LiesAt root ns file) (hsrc : ns.head? ≠ some "src") :
    modulePath root file = dropTarget false (moduleSegments ns) := by
  obtain ⟨rel, hrel, hnames⟩ := h.exists_relativeTo
  simp only [modulePath, h.relativeTo_join_eq_none (by decide) hsrc, hrel, hnames]

theorem exists_targetOf (h : LiesAt root ns file) :
    ∃ rel, FilePath.names rel = ns ∧ target root file = targetOf rel := by
  obtain ⟨rel, hrel, hnames⟩ := h.exists_relativeTo
  exact ⟨rel, hnames, by rw [target, hrel]⟩

end

/-! ## Stems and segments -/

theorem endsInRs_iff {n : String} :
    ".rs".toList.isSuffixOf n.toList = true ↔ ∃ r, n = r ++ ".rs" := by
  rw [List.isSuffixOf_iff_suffix]
  constructor
  · rintro ⟨r, hr⟩
    exact ⟨String.ofList r, String.toList_inj.mp (by simp [← hr])⟩
  · rintro ⟨r, rfl⟩
    rw [String.toList_append]
    exact List.suffix_append _ _

/-- A stem is a name that lost one `.rs` at its end, or never had one. -/
theorem stem_eq_iff {n s : String} :
    stem n = s ↔ n = s ++ ".rs" ∨ n = s ∧ ∀ r, n ≠ r ++ ".rs" := by
  unfold stem
  split
  · rename_i hends
    obtain ⟨r, rfl⟩ := endsInRs_iff.mp hends
    have hlength : (r ++ ".rs").length - 3 = r.toList.length := by
      rw [String.length_append]
      exact Nat.add_sub_cancel ..
    have htake : String.ofList ((r ++ ".rs").toList.take ((r ++ ".rs").length - 3)) = r := by
      rw [hlength, String.toList_append, List.take_left, String.ofList_toList]
    rw [htake]
    constructor
    · rintro rfl
      exact Or.inl rfl
    · rintro (heq | ⟨-, hno⟩)
      · exact (String.append_left_inj ".rs").mp heq
      · exact absurd rfl (hno r)
  · rename_i hends
    constructor
    · rintro rfl
      exact Or.inr ⟨rfl, fun r hr => hends (endsInRs_iff.mpr ⟨r, hr⟩)⟩
    · rintro (heq | ⟨heq, -⟩)
      · exact absurd (endsInRs_iff.mpr ⟨s, heq⟩) hends
      · exact heq

theorem stem_append (s : String) : stem (s ++ ".rs") = s := stem_eq_iff.mpr (Or.inl rfl)

theorem moduleSegments_concat (dirs : List String) (last : String) :
    moduleSegments (dirs ++ [last]) =
      dirs ++ if stem last ∈ moduleRootStems then [] else [stem last] := by
  unfold moduleSegments
  rw [List.getLast?_concat, List.dropLast_concat]
  by_cases h : stem last ∈ moduleRootStems <;> simp [h]

/-- Behind a name in front, segments are those of the rest. -/
theorem moduleSegments_cons {n m : String} {ns : List String} :
    moduleSegments (n :: m :: ns) = n :: moduleSegments (m :: ns) := by
  obtain ⟨dirs, last, hlast⟩ : ∃ dirs last, m :: ns = dirs ++ [last] :=
    ⟨_, _, (List.dropLast_concat_getLast (List.cons_ne_nil m ns)).symm⟩
  rw [hlast, ← List.cons_append, moduleSegments_concat, moduleSegments_concat]
  rfl

/-- Behind the first two names, segments are those of the rest. -/
theorem drop_moduleSegments (d t : String) (rest : List String) :
    (moduleSegments (d :: t :: rest)).drop 2 = moduleSegments rest := by
  cases rest with
  | nil =>
    rw [moduleSegments_cons, ← List.nil_append [t], moduleSegments_concat]
    split <;> rfl
  | cons r rest => rw [moduleSegments_cons, moduleSegments_cons]; rfl

/-! ## The library -/

theorem ne_library_of_slash {s : String} (h : '/' ∈ s.toList) : s ≠ library := by
  rintro rfl
  revert h
  decide

theorem ne_bin_of_library {root file n m : String} {ns : List String}
    (h : LiesAt root ("src" :: n :: m :: ns) file) (hlib : target root file = library) :
    n ≠ "bin" := by
  rintro rfl
  obtain ⟨rel, hnames, htarget⟩ := exists_targetOf h
  rw [htarget, targetOf, hnames] at hlib
  exact ne_library_of_slash (by simp) hlib

/-- Under `src` segments that do not start with `bin` are kept. -/
theorem dropTarget_true_of_ne {d : String} (hd : d ≠ "bin") (segments : List String) :
    dropTarget true (d :: segments) = d :: segments := by
  simp [dropTarget, hd]

/-- The module path of a file of the library. The one that loses its stem is a file
`bin.rs` right below `src`. -/
theorem modulePath_of_library {root file s : String} {dirs : List String}
    (hfile : LiesAt root ("src" :: (dirs ++ [s ++ ".rs"])) file)
    (hlib : target root file = library) :
    modulePath root file =
      if dirs = [] ∧ s = "bin" then [] else if s ∈ moduleRootStems then dirs else dirs ++ [s] := by
  rw [modulePath_of_src hfile, moduleSegments_concat, stem_append]
  cases dirs with
  | nil =>
    -- the stem alone stands where the name of a target directory would
    by_cases hbin : s = "bin"
    · subst hbin
      decide
    · by_cases hroot : s ∈ moduleRootStems
      · simp [hbin, hroot, dropTarget]
      · simp [hbin, hroot, dropTarget_true_of_ne hbin]
  | cons d dirs =>
    -- with `bin` as the first directory the file would not belong to the library
    obtain ⟨m, ms, hms⟩ := List.exists_cons_of_ne_nil (List.concat_ne_nil (s ++ ".rs") dirs)
    rw [List.cons_append, hms] at hfile
    rw [List.cons_append, dropTarget_true_of_ne (ne_bin_of_library hfile hlib)]
    by_cases hroot : s ∈ moduleRootStems <;> simp [hroot]

/-- No two files of the library share a module path, module roots apart: the path that
is lost is the only empty one. -/
theorem same_of_modulePath_eq {root file file' s s' : String} {dirs dirs' : List String}
    (hfile : LiesAt root ("src" :: (dirs ++ [s ++ ".rs"])) file)
    (hfile' : LiesAt root ("src" :: (dirs' ++ [s' ++ ".rs"])) file')
    (hlib : target root file = library) (hlib' : target root file' = library)
    (hs : s ∉ moduleRootStems) (hs' : s' ∉ moduleRootStems)
    (hsame : modulePath root file = modulePath root file') : FilePath.same file file' = true := by
  rw [modulePath_of_library hfile hlib, modulePath_of_library hfile' hlib', if_neg hs,
    if_neg hs'] at hsame
  have hplace : dirs ++ [s] = dirs' ++ [s'] := by
    by_cases hbin : dirs = [] ∧ s = "bin" <;> by_cases hbin' : dirs' = [] ∧ s' = "bin"
    · rw [hbin.1, hbin.2, hbin'.1, hbin'.2]
    · rw [if_pos hbin, if_neg hbin'] at hsame
      simp at hsame
    · rw [if_neg hbin, if_pos hbin'] at hsame
      simp at hsame
    · rwa [if_neg hbin, if_neg hbin'] at hsame
  obtain ⟨rfl, hlast⟩ := List.append_inj' hplace rfl
  obtain rfl : s = s' := List.singleton_inj.mp hlast
  rw [FilePath.same, hfile, hfile', beq_self_eq_true]

/-- **Modules of the library.** The file `s.rs` in the directory `dirs` of `src`, if it
belongs to the library, has the module path `dirs`, with `s` at its end unless that is
the stem of a module root. Only `src/bin.rs` has an empty module path in place of
`bin`. Still, no two files of the library that are not module roots have the same
module path. -/
theorem library_modules {root file s : String} {dirs : List String}
    (hfile : LiesAt root ("src" :: (dirs ++ [s ++ ".rs"])) file)
    (hlib : target root file = library) :
    (¬ (dirs = [] ∧ s = "bin") →
      modulePath root file = if s ∈ ["lib", "main", "mod"] then dirs else dirs ++ [s]) ∧
    (dirs = [] ∧ s = "bin" → modulePath root file = []) ∧
    ∀ file' s' dirs', LiesAt root ("src" :: (dirs' ++ [s' ++ ".rs"])) file' →
      target root file' = library → s ∉ ["lib", "main", "mod"] → s' ∉ ["lib", "main", "mod"] →
      modulePath root file = modulePath root file' → FilePath.same file file' = true := by
  have hpath := modulePath_of_library hfile hlib
  refine ⟨fun hbin => ?_, fun hbin => ?_, ?_⟩
  · rw [hpath, if_neg hbin]
    rfl
  · rw [hpath, if_pos hbin]
  · intro file' s' dirs' hfile' hlib' hs hs' hsame
    exact same_of_modulePath_eq hfile hfile' hlib hlib' hs hs' hsame

/-- Two files in a directory of `src` that is called like a target directory. -/
theorem library_modules_tests :
    modulePath "/shop" "/shop/src/./tests//it.rs" = ["tests", "it"] ∧
      modulePath "/shop" "/shop/src/tests/mod.rs" = ["tests"] := by
  have hit : LiesAt "/shop" ("src" :: (["tests"] ++ ["it" ++ ".rs"]))
      "/shop/src/./tests//it.rs" := by decide
  have hmod : LiesAt "/shop" ("src" :: (["tests"] ++ ["mod" ++ ".rs"]))
      "/shop/src/tests/mod.rs" := by decide
  exact ⟨(library_modules hit (by decide)).1 (by decide),
    (library_modules hmod (by decide)).1 (by decide)⟩

/-- The module of `src/bin.rs` is lost, though the file belongs to the library. -/
theorem bin_module_lost :
    LiesAt "/shop" ("src" :: ([] ++ ["bin" ++ ".rs"])) "/shop/src/bin.rs" ∧
      target "/shop" "/shop/src/bin.rs" = library ∧ "bin" ∉ ["lib", "main", "mod"] ∧
      modulePath "/shop" "/shop/src/bin.rs" = [] ∧
      modulePath "/shop" "/shop/src/bin.rs" ≠ [] ++ ["bin"] := by
  decide

/-! ## Targets of their own -/

theorem dropTarget_of_mem {underSource : Bool} {d : String} (hd : d ∈ targetDirs)
    (hsource : underSource = true → d = "bin") (segments : List String) :
    dropTarget underSource (d :: segments) = (d :: segments).drop 2 := by
  have hcond : (targetDirs.contains d && (!underSource || d == "bin")) = true := by
    cases underSource with
    | false => simpa using hd
    | true => simpa using ⟨hd, hsource rfl⟩
  rw [dropTarget, if_pos hcond]

/-- Where the entries of a target directory `d` are targets of their own: right below
the root, and for `bin` also below `src`. The names `front` lead to it. -/
inductive TargetDir : List String → String → Prop
  | inSource : TargetDir ["src"] "bin"
  | atRoot {d : String} : d ∈ ["bin", "tests", "benches", "examples"] → TargetDir [] d

theorem ne_src_of_mem {d : String} (hd : d ∈ ["bin", "tests", "benches", "examples"]) :
    d ≠ "src" := by
  rintro rfl
  revert hd
  decide

section
variable {root file d t : String} {front rest : List String} (hdir : TargetDir front d)
  (hfile : LiesAt root (front ++ d :: t :: rest) file)
include hdir hfile

theorem target_of_targetDir : target root file = d ++ "/" ++ stem t := by
  obtain ⟨rel, hnames, htarget⟩ := exists_targetOf hfile
  rw [htarget, targetOf, hnames]
  cases hdir with
  | inSource => rfl
  | atRoot hd =>
    have hmem : d ∈ targetDirs := hd
    simp [ne_src_of_mem hd, hmem]

/-- The target's directory and name are dropped, whatever was done with the stem before. -/
theorem modulePath_of_targetDir : modulePath root file = moduleSegments rest := by
  rw [← drop_moduleSegments d t rest, moduleSegments_cons]
  cases hdir with
  | inSource =>
    rw [List.singleton_append] at hfile
    rw [modulePath_of_src hfile, moduleSegments_cons]
    exact dropTarget_of_mem (by decide) (fun _ => rfl) _
  | atRoot hd =>
    rw [List.nil_append] at hfile
    rw [modulePath_of_ne hfile (by simpa using ne_src_of_mem hd), moduleSegments_cons]
    exact dropTarget_of_mem hd (by simp) _

end

/-- **Modules of other targets.** A file at `t/rest` in a target directory `d` belongs to
the target `d/t`, where `t` loses its `.rs`, and has the module path of `rest` alone:
none if that is empty, else its directories, with the stem of the file at the end unless
that is the stem of a module root. So the module paths of a target's files all start at
the target: a file that lies `dirs` deeper has `dirs` more in front. -/
theorem target_modules {root file d t : String} {front rest : List String}
    (hdir : TargetDir front d) (hfile : LiesAt root (front ++ d :: t :: rest) file) :
    target root file = d ++ "/" ++ stem t ∧
    (rest = [] → modulePath root file = []) ∧
    (∀ dirs last, rest = dirs ++ [last] → modulePath root file =
      dirs ++ if stem last ∈ ["lib", "main", "mod"] then [] else [stem last]) ∧
    ∀ file' t' dirs, rest ≠ [] → stem t' = stem t →
      LiesAt root (front ++ d :: t' :: (dirs ++ rest)) file' →
      target root file' = target root file ∧
        modulePath root file' = dirs ++ modulePath root file := by
  have htarget := target_of_targetDir hdir hfile
  have hpath := modulePath_of_targetDir hdir hfile
  refine ⟨htarget, ?_, ?_, ?_⟩
  · rintro rfl
    exact hpath
  · rintro dirs last rfl
    exact hpath.trans (moduleSegments_concat dirs last)
  · intro file' t' dirs hrest hstem hfile'
    rw [target_of_targetDir hdir hfile', modulePath_of_targetDir hdir hfile', htarget, hpath, hstem]
    obtain ⟨ms, last, rfl⟩ : ∃ ms last, rest = ms ++ [last] :=
      ⟨_, _, (List.dropLast_concat_getLast hrest).symm⟩
    refine ⟨rfl, ?_⟩
    rw [moduleSegments_concat, ← List.append_assoc, moduleSegments_concat, List.append_assoc]

/-- A tool in a directory of its own, and two files of it. -/
theorem target_modules_tool :
    target "/shop" "/shop/src/bin/./tool/util.rs" = "bin/tool" ∧
      modulePath "/shop" "/shop/src/bin/./tool/util.rs" = ["util"] ∧
      target "/shop" "/shop/src/bin/tool//model/util.rs" = "bin/tool" ∧
      modulePath "/shop" "/shop/src/bin/tool//model/util.rs" = ["model", "util"] := by
  have hutil : LiesAt "/shop" (["src"] ++ "bin" :: "tool" :: ["util.rs"])
      "/shop/src/bin/./tool/util.rs" := by decide
  have hmodel : LiesAt "/shop" (["src"] ++ "bin" :: "tool" :: (["model"] ++ ["util.rs"]))
      "/shop/src/bin/tool//model/util.rs" := by decide
  obtain ⟨htarget, -, hpath, hdeeper⟩ := target_modules .inSource hutil
  obtain ⟨htarget', hpath'⟩ := hdeeper _ "tool" ["model"] (by decide) rfl hmodel
  have hkey : "bin" ++ "/" ++ stem "tool" = "bin/tool" := by decide
  have hsegments : modulePath "/shop" "/shop/src/bin/./tool/util.rs" = ["util"] :=
    (hpath [] "util.rs" rfl).trans (by decide)
  exact ⟨htarget.trans hkey, hsegments, htarget'.trans (htarget.trans hkey),
    hpath'.trans (by rw [hsegments]; rfl)⟩

end Location

end EnumFamily
