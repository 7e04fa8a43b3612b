import EnumFamily.Editor.Session
import EnumFamily.Proofs.Adjusting
import Mathlib.Data.List.Nodup

/-!
# What a run changes for the editor

The editor shows for each file the markers that were published last. A run that
succeeds publishes the findings of one package by file, and an empty list for each
file of that package that has become clean; no file gets two lists, so it does not
matter in which order they are sent. A run that fails only leaves a line in the log.

Results:
* `grouped_byFile`: each file with findings is listed once, with all of them in
  their order; below an absolute root no finding is left out.
* `compute_of_analysed`, `compute_of_fails`: when a run has something to publish.
* `messages_effect`: what the messages of an update change for the editor.
* `run_effect`: the same for a run after any history of notifications.
-/
namespace EnumFamily

/-! ## The last entry that counts -/

section
variable {α β : Type} {f : α → Option β}

/-- What the last entry gives that gives anything. -/
def lastSome (f : α → Option β) (l : List α) : Option β := l.reverse.findSome? f

theorem lastSome_append (l r : List α) :
    lastSome f (l ++ r) = (lastSome f r).or (lastSome f l) := by
  simp [lastSome, List.findSome?_append]

theorem lastSome_eq_none_iff {l : List α} : lastSome f l = none ↔ ∀ a ∈ l, f a = none := by
  simp [lastSome]

theorem lastSome_append_of_none (l : List α) {r : List α} (h : ∀ a ∈ r, f a = none) :
    lastSome f (l ++ r) = lastSome f l := by
  rw [lastSome_append, lastSome_eq_none_iff.mpr h, Option.none_or]

/-- Where the entries that count agree, their order does not matter. -/
theorem lastSome_append_of_agree (l : List α) {r : List α} {a : α} {b : β} (ha : a ∈ r)
    (hb : f a = some b) (hagree : ∀ a ∈ r, ∀ b', f a = some b' → b' = b) :
    lastSome f (l ++ r) = some b := by
  rw [lastSome_append]
  cases hlast : lastSome f r with
  | none =>
    rw [lastSome_eq_none_iff.mp hlast a ha] at hb
    cases hb
  | some b' =>
    obtain ⟨a', ha', hb'⟩ := List.exists_of_findSome?_eq_some hlast
    rw [Option.some_or, hagree a' (List.mem_reverse.mp ha') b' hb']

end

/-- The markers that a message puts on a file. -/
def ClientMessage.markersFor? (uri : String) : ClientMessage → Option (List Marker)
  | .publish u markers => if u = uri then some markers else none
  | .log _ _ => none

theorem ClientMessage.markersFor?_eq_some_iff {uri : String} {m : ClientMessage}
    {markers : List Marker} : m.markersFor? uri = some markers ↔ m = .publish uri markers := by
  cases m <;> simp [markersFor?]

/-- The markers that the editor shows for a file: those that were published last. -/
def shown (sent : List ClientMessage) (uri : String) : Option (List Marker) :=
  lastSome (ClientMessage.markersFor? uri) sent

/-! ## Identifiers below an absolute root -/

namespace FilePath

theorem isAbsolute_join_of_root {root : String} (hroot : isAbsolute root = true) (p : String) :
    isAbsolute (join root p) = true := by
  obtain ⟨s, hs⟩ := isAbsolute_iff.mp hroot
  unfold join
  split
  · assumption
  split
  · exact isAbsolute_iff.mpr ⟨s ++ p.toList, by simp [hs]⟩
  · exact isAbsolute_iff.mpr ⟨s ++ '/' :: p.toList, by simp [hs]⟩

end FilePath

namespace Update

/-- The identifier of the file of a finding, spelled below `root`. -/
def uriOf? (root : String) (d : Diagnostic) : Option String :=
  Uri.ofFilePath? (FilePath.join root d.file)

theorem uriOf?_isSome {root : String} (hroot : FilePath.isAbsolute root = true) (d : Diagnostic) :
    (uriOf? root d).isSome = true := by
  obtain ⟨rest, hrest⟩ :=
    FilePath.components_of_isAbsolute (FilePath.isAbsolute_join_of_root hroot d.file)
  unfold uriOf? Uri.ofFilePath?
  rw [hrest]
  cases rest <;> rfl

/-! ## Findings by file -/

/-- The markers of the findings in one file, in the order of the findings. -/
def markersOf (root : String) (ds : List Diagnostic) (uri : String) : List Marker :=
  (ds.filter fun d => uriOf? root d = some uri).map Marker.ofDiagnostic

/-- The findings in files that have an identifier. -/
def placed (root : String) (ds : List Diagnostic) : List Diagnostic :=
  ds.filter fun d => (uriOf? root d).isSome

/-- The findings by file: each file with findings is listed once, with all of
them in their order. -/
structure Grouped (root : String) (ds : List Diagnostic) (files : List (String × List Marker)) :
    Prop where
  nodup : (files.map (·.1)).Nodup
  mem_iff : ∀ uri markers,
    (uri, markers) ∈ files ↔ markers ≠ [] ∧ markers = markersOf root ds uri
  perm : (files.flatMap (·.2)).Perm ((placed root ds).map Marker.ofDiagnostic)

section
variable {root uri : String} {d : Diagnostic} {ds : List Diagnostic}
  {files l₁ l₂ : List (String × List Marker)} {ms : List Marker}

theorem markersOf_concat (hd : uriOf? root d = some uri) (u : String) :
    markersOf root (ds ++ [d]) u =
      markersOf root ds u ++ if u = uri then [Marker.ofDiagnostic d] else [] := by
  rw [markersOf, List.filter_append, List.map_append]
  congr 1
  by_cases hu : u = uri
  · simp [hd, hu]
  · simp [hd, hu, Ne.symm hu]

theorem placed_concat (hd : uriOf? root d = some uri) :
    placed root (ds ++ [d]) = placed root ds ++ [d] := by
  simp [placed, hd]

namespace Grouped

theorem markersOf_eq_nil (h : Grouped root ds files) (hu : uri ∉ files.map (·.1)) :
    markersOf root ds uri = [] := by
  cases hm : markersOf root ds uri with
  | nil => rfl
  | cons m ms =>
    have : (uri, m :: ms) ∈ files := (h.mem_iff _ _).mpr ⟨by simp, hm.symm⟩
    exact absurd (List.mem_map_of_mem this) hu

/-- No file has two lists. -/
theorem eq_of_mem {α : Type} {files : List (String × α)} (hnodup : (files.map (·.1)).Nodup)
    {a b : α} (ha : (uri, a) ∈ files) (hb : (uri, b) ∈ files) : a = b :=
  (Prod.mk.inj (List.inj_on_of_nodup_map hnodup ha hb rfl)).2

/-- A finding in a file without an identifier is left out. -/
theorem skip (h : Grouped root ds files) (hd : uriOf? root d = none) :
    Grouped root (ds ++ [d]) files where
  nodup := h.nodup
  mem_iff u ms := by
    rw [h.mem_iff]
    simp [markersOf, hd]
  perm := by simpa [placed, hd] using h.perm

/-- The first finding of a file opens a list. -/
theorem openList (h : Grouped root ds files) (hd : uriOf? root d = some uri)
    (hnew : uri ∉ files.map (·.1)) :
    Grouped root (ds ++ [d]) (files ++ [(uri, [Marker.ofDiagnostic d])]) where
  nodup := ((List.perm_append_singleton _ files).map _).nodup_iff.mpr
    (List.nodup_cons.mpr ⟨hnew, h.nodup⟩)
  mem_iff u markers := by
    rw [List.mem_append, List.mem_singleton, h.mem_iff, markersOf_concat hd]
    by_cases hu : u = uri
    · subst hu
      rw [h.markersOf_eq_nil hnew, if_pos rfl, List.nil_append]
      constructor
      · rintro (⟨hne, hnil⟩ | heq)
        · exact absurd hnil hne
        · obtain ⟨-, rfl⟩ := Prod.mk.inj heq
          exact ⟨by simp, rfl⟩
      · rintro ⟨-, rfl⟩
        exact Or.inr rfl
    · simp [hu]
  perm := by
    rw [List.flatMap_append, placed_concat hd, List.map_append]
    exact h.perm.append (by simp)

/-- A further finding of a file goes to the end of its list. -/
theorem extendList (h : Grouped root ds (l₁ ++ (uri, ms) :: l₂)) (hd : uriOf? root d = some uri) :
    Grouped root (ds ++ [d]) (l₁ ++ (uri, ms ++ [Marker.ofDiagnostic d]) :: l₂) := by
  have hms : ms = markersOf root ds uri := ((h.mem_iff uri ms).mp List.mem_append_cons_self).2
  have hnodup : ((l₁ ++ (uri, ms ++ [Marker.ofDiagnostic d]) :: l₂).map (·.1)).Nodup := by
    simpa using h.nodup
  refine ⟨hnodup, fun u markers => ?_, ?_⟩
  · rw [markersOf_concat hd]
    by_cases hu : u = uri
    · subst hu
      rw [if_pos rfl, ← hms]
      constructor
      · intro hmem
        rw [eq_of_mem hnodup hmem List.mem_append_cons_self]
        exact ⟨by simp, rfl⟩
      · rintro ⟨-, rfl⟩
        exact List.mem_append_cons_self
    · rw [if_neg hu, List.append_nil, ← h.mem_iff]
      simp [hu]
  · rw [placed_concat hd, List.map_append]
    refine List.Perm.trans ?_ (h.perm.append_right _)
    simp only [List.flatMap_append, List.flatMap_cons, List.append_assoc]
    exact (List.perm_append_comm.append_left ms).append_left _

end Grouped

/-- A marker goes to the end of the markers of its file, or opens a new list. -/
theorem addMarker_cases (uri : String) (m : Marker) (files : List (String × List Marker)) :
    (uri ∉ files.map (·.1) ∧ addMarker uri m files = files ++ [(uri, [m])]) ∨
    ∃ l₁ ms l₂, files = l₁ ++ (uri, ms) :: l₂ ∧
      addMarker uri m files = l₁ ++ (uri, ms ++ [m]) :: l₂ := by
  induction files with
  | nil => exact Or.inl ⟨List.not_mem_nil, rfl⟩
  | cons e rest ih =>
    obtain ⟨u, ms⟩ := e
    by_cases hu : u = uri
    · subst hu
      exact Or.inr ⟨[], ms, rest, rfl, by simp [addMarker]⟩
    · rw [addMarker, if_neg hu]
      rcases ih with ⟨hnew, hadd⟩ | ⟨l₁, ms', l₂, rfl, hadd⟩
      · exact Or.inl ⟨by simpa [Ne.symm hu] using hnew, by rw [hadd, List.cons_append]⟩
      · exact Or.inr ⟨(u, ms) :: l₁, ms', l₂, rfl, by rw [hadd, List.cons_append]⟩

/-- One finding more. -/
def addFinding (root : String) (files : List (String × List Marker)) (d : Diagnostic) :
    List (String × List Marker) :=
  match uriOf? root d with
  | some uri => addMarker uri (Marker.ofDiagnostic d) files
  | none => files

theorem byFile_eq (root : String) (ds : List Diagnostic) :
    byFile root ds = ds.foldl (addFinding root) [] := rfl

theorem Grouped.add (h : Grouped root ds files) (d : Diagnostic) :
    Grouped root (ds ++ [d]) (addFinding root files d) := by
  unfold addFinding
  cases hd : uriOf? root d with
  | none => exact h.skip hd
  | some uri =>
    show Grouped _ _ (addMarker uri _ files)
    rcases addMarker_cases uri (Marker.ofDiagnostic d) files with
      ⟨hnew, hadd⟩ | ⟨l₁, ms, l₂, rfl, hadd⟩
    · rw [hadd]
      exact h.openList hd hnew
    · rw [hadd]
      exact h.extendList hd

theorem Grouped.addAll (h : Grouped root ds files) (more : List Diagnostic) :
    Grouped root (ds ++ more) (more.foldl (addFinding root) files) := by
  induction more generalizing ds files with
  | nil => simpa using h
  | cons d more ih =>
    rw [List.foldl_cons, List.append_cons]
    exact ih (h.add d)

theorem grouped_byFile (root : String) (ds : List Diagnostic) :
    Grouped root ds (byFile root ds) := by
  have hstart : Grouped root [] [] := ⟨by simp, by simp [markersOf], by simp [placed]⟩
  rw [byFile_eq]
  exact hstart.addAll ds

/-- Below an absolute root every finding is in one of the lists. -/
theorem Grouped.perm_of_isAbsolute (h : Grouped root ds files)
    (hroot : FilePath.isAbsolute root = true) :
    (files.flatMap (·.2)).Perm (ds.map Marker.ofDiagnostic) := by
  have hall : placed root ds = ds := List.filter_eq_self.mpr fun d _ => uriOf?_isSome hroot d
  simpa [hall] using h.perm

end

/-! ## What the messages of an update change -/

section
variable {u : Update} {stale : List String} {order sent : List ClientMessage} {uri : String}
  {markers : List Marker}

theorem mem_messages_iff {m : ClientMessage} :
    m ∈ u.messages stale ↔ (∃ uri ∈ stale, m = .publish uri []) ∨
      (∃ uri markers, (uri, markers) ∈ u.files ∧ m = .publish uri markers) ∨
      m = .log .info u.summary := by
  simp [messages, eq_comm]

/-- An update publishes empty lists for stale files, and the lists of its files. -/
theorem of_publish_mem (h : .publish uri markers ∈ u.messages stale) :
    (uri ∈ stale ∧ markers = []) ∨ (uri, markers) ∈ u.files := by
  rcases mem_messages_iff.mp h with ⟨v, hv, heq⟩ | ⟨v, ms, hv, heq⟩ | heq
  · obtain ⟨rfl, rfl⟩ := ClientMessage.publish.inj heq
    exact Or.inl ⟨hv, rfl⟩
  · obtain ⟨rfl, rfl⟩ := ClientMessage.publish.inj heq
    exact Or.inr hv
  · cases heq

theorem shown_of_mem_files (hnodup : u.flagged.Nodup) (hstale : ∀ v ∈ stale, v ∉ u.flagged)
    (horder : order.Perm (u.messages stale)) (h : (uri, markers) ∈ u.files) :
    shown (sent ++ order) uri = some markers := by
  have hmem : .publish uri markers ∈ order :=
    horder.mem_iff.mpr (mem_messages_iff.mpr (Or.inr (Or.inl ⟨uri, markers, h, rfl⟩)))
  refine lastSome_append_of_agree sent hmem (if_pos rfl) fun m hm ms hms => ?_
  obtain rfl := ClientMessage.markersFor?_eq_some_iff.mp hms
  rcases of_publish_mem (horder.mem_iff.mp hm) with ⟨hmem, -⟩ | hmem
  · exact absurd (List.mem_map_of_mem h) (hstale uri hmem)
  · exact Grouped.eq_of_mem hnodup hmem h

theorem shown_of_stale (hstale : ∀ v ∈ stale, v ∉ u.flagged)
    (horder : order.Perm (u.messages stale)) (h : uri ∈ stale) :
    shown (sent ++ order) uri = some [] := by
  have hmem : .publish uri [] ∈ order :=
    horder.mem_iff.mpr (mem_messages_iff.mpr (Or.inl ⟨uri, h, rfl⟩))
  refine lastSome_append_of_agree sent hmem (if_pos rfl) fun m hm ms hms => ?_
  obtain rfl := ClientMessage.markersFor?_eq_some_iff.mp hms
  rcases of_publish_mem (horder.mem_iff.mp hm) with ⟨-, hnil⟩ | hmem
  · exact hnil
  · exact absurd (List.mem_map_of_mem hmem) (hstale uri h)

theorem shown_of_other (horder : order.Perm (u.messages stale)) (hfiles : uri ∉ u.flagged)
    (hstale : uri ∉ stale) : shown (sent ++ order) uri = shown sent uri := by
  refine lastSome_append_of_none sent fun m hm => ?_
  cases hm' : m.markersFor? uri with
  | none => rfl
  | some ms =>
    obtain rfl := ClientMessage.markersFor?_eq_some_iff.mp hm'
    rcases of_publish_mem (horder.mem_iff.mp hm) with ⟨hmem, -⟩ | hmem
    · exact absurd hmem hstale
    · exact absurd (List.mem_map_of_mem hmem) hfiles

end

end Update

/-! ## One run -/

namespace Session

/-- A run finds a package and analyses it. -/
structure Analysed (t : FileTree) (options : ClientOptions) (uri : Uri) (path root : String)
    (a : Analysis) : Prop where
  hpath : uri.filePath? = some path
  hroot : Package.root? t path = some root
  hanalysis : ∃ plan, Plan.load t root = .ok plan ∧ (options.adjust plan).analyze t = .ok a

/-- What can keep a run from publishing anything. -/
inductive Fails (t : FileTree) (options : ClientOptions) (uri : Uri) : Prop
  | notFile (hpath : uri.filePath? = none)
  | noPackage {path : String} (hpath : uri.filePath? = some path)
      (hroot : Package.root? t path = none)
  | badSettings {path root : String} {e : Failure} (hpath : uri.filePath? = some path)
      (hroot : Package.root? t path = some root) (hplan : Plan.load t root = .error e)
  | badAnalysis {path root : String} {plan : Plan} {e : Failure}
      (hpath : uri.filePath? = some path) (hroot : Package.root? t path = some root)
      (hplan : Plan.load t root = .ok plan) (hanalysis : (options.adjust plan).analyze t = .error e)

section
variable {t : FileTree} {options : ClientOptions} {uri : Uri} {path root : String} {a : Analysis}

/-- What a run that succeeds has to publish. -/
def updateOf (t : FileTree) (path root : String) (a : Analysis) : Update :=
  { root, files := Update.byFile (clientRoot t path root) a.diagnostics,
    analyzedFiles := a.files, units := a.units, findings := a.diagnostics.length }

theorem compute_of_analysed (h : Analysed t options uri path root a) :
    compute t options uri = .ok (updateOf t path root a) := by
  obtain ⟨plan, hplan, hanalysis⟩ := h.hanalysis
  simp [compute, h.hpath, h.hroot, hplan, hanalysis, Except.bind, updateOf]

theorem compute_of_fails (h : Fails t options uri) :
    ∃ kind text, compute t options uri = .error (kind, text) := by
  unfold compute
  cases h with
  | notFile hpath =>
    rw [hpath]
    exact ⟨_, _, rfl⟩
  | noPackage hpath hroot =>
    simp only [hpath, hroot]
    exact ⟨_, _, rfl⟩
  | badSettings hpath hroot hplan =>
    simp only [hpath, hroot, hplan, Except.bind]
    exact ⟨_, _, rfl⟩
  | badAnalysis hpath hroot hplan hanalysis =>
    simp only [hpath, hroot, hplan, Except.bind, hanalysis]
    exact ⟨_, _, rfl⟩

/-- A run succeeds or fails. -/
theorem analysed_or_fails (t : FileTree) (options : ClientOptions) (uri : Uri) :
    (∃ path root a, Analysed t options uri path root a) ∨ Fails t options uri := by
  cases hpath : uri.filePath? with
  | none => exact Or.inr (.notFile hpath)
  | some path =>
    cases hroot : Package.root? t path with
    | none => exact Or.inr (.noPackage hpath hroot)
    | some root =>
      cases hplan : Plan.load t root with
      | error e => exact Or.inr (.badSettings hpath hroot hplan)
      | ok plan =>
        cases hanalysis : (options.adjust plan).analyze t with
        | error e => exact Or.inr (.badAnalysis hpath hroot hplan hanalysis)
        | ok a => exact Or.inl ⟨path, root, a, hpath, hroot, plan, hplan, hanalysis⟩

end

/-! ## The files that got markers -/

section
variable {s : Session} {u : Update}

theorem lookup_replace_root (s : Session) (u : Update) :
    (s.replace u).1.published.lookup u.root = some u.flagged := by
  simp [replace]

theorem lookup_replace_of_ne (s : Session) {u : Update} {root : String} (h : root ≠ u.root) :
    (s.replace u).1.published.lookup root = s.published.lookup root := by
  unfold replace
  rw [lookup_cons_of_ne h]
  induction s.published with
  | nil => rfl
  | cons e rest ih =>
    obtain ⟨r, files⟩ := e
    rw [List.filter_cons]
    by_cases hr : r = u.root
    · simpa [hr, lookup_cons_of_ne h] using ih
    · by_cases hroot : root = r
      · simp [hr, hroot]
      · simpa [hr, lookup_cons_of_ne hroot] using ih

theorem publishedFor_replace (s : Session) (u : Update) :
    (s.replace u).1.publishedFor u.root = u.flagged := by
  rw [publishedFor, lookup_replace_root, Option.getD_some]

theorem publishedFor_replace_of_ne (s : Session) {u : Update} {root : String}
    (h : root ≠ u.root) : (s.replace u).1.publishedFor root = s.publishedFor root := by
  rw [publishedFor, lookup_replace_of_ne s h, publishedFor]

theorem mem_stale_iff {uri : String} :
    uri ∈ (s.replace u).2 ↔ uri ∈ s.publishedFor u.root ∧ uri ∉ u.flagged := by
  simp [replace]

end

/-! ## The effect of a run -/

/-- What a run on a package changes: for the editor, and in the session. -/
structure RunEffect (root : String) (files : List (String × List Marker)) (before after : Session)
    (sent sent' : List ClientMessage) : Prop where
  /-- a file with findings shows all of them -/
  flagged : ∀ uri markers, (uri, markers) ∈ files → shown sent' uri = some markers
  /-- a file that had findings in the last run and has none now is cleared -/
  cleared : ∀ uri ∈ before.publishedFor root, uri ∉ files.map (·.1) → shown sent' uri = some []
  /-- all other files show what they did -/
  others : ∀ uri, uri ∉ files.map (·.1) → uri ∉ before.publishedFor root →
    shown sent' uri = shown sent uri
  published : after.published.lookup root = some (files.map (·.1))
  otherRoots : ∀ root', root' ≠ root →
    after.published.lookup root' = before.published.lookup root'

theorem messages_effect {s : Session} {u : Update} (hnodup : u.flagged.Nodup)
    {order : List ClientMessage} (horder : order.Perm (u.messages (s.replace u).2))
    (sent : List ClientMessage) :
    RunEffect u.root u.files s (s.replace u).1 sent (sent ++ order) where
  flagged _ _ h :=
    Update.shown_of_mem_files hnodup (fun _ hv => (mem_stale_iff.mp hv).2) horder h
  cleared _ h hclean :=
    Update.shown_of_stale (fun _ hv => (mem_stale_iff.mp hv).2) horder
      (mem_stale_iff.mpr ⟨h, hclean⟩)
  others _ hclean hnew :=
    Update.shown_of_other horder hclean fun hstale => hnew (mem_stale_iff.mp hstale).1
  published := lookup_replace_root s u
  otherRoots _ h := lookup_replace_of_ne s h

/-! ## Histories -/

/-- Handles notifications one at a time, each one with the files as they are then. -/
def serve (s : Session) : List (FileTree × Notification) → Session × List ClientMessage
  | [] => (s, [])
  | (t, n) :: rest =>
    let (s, out) := s.handle t n
    let (s, later) := s.serve rest
    (s, out ++ later)

theorem serve_singleton (s : Session) (t : FileTree) (n : Notification) :
    s.serve [(t, n)] = s.handle t n := by
  simp [serve]

theorem runOn_frame (s : Session) (t : FileTree) (uri : Uri) :
    (s.runOn t uri).1.phase = s.phase ∧ (s.runOn t uri).1.options = s.options := by
  unfold runOn
  split <;> exact ⟨rfl, rfl⟩

/-- Notifications neither end a session nor change its options. -/
theorem handle_frame (s : Session) (t : FileTree) (n : Notification) :
    (s.handle t n).1.phase = s.phase ∧ (s.handle t n).1.options = s.options := by
  unfold handle
  split
  · unfold react
    cases n with
    | opened uri | saved uri =>
      dsimp only
      split
      · exact runOn_frame s t uri
      · exact ⟨rfl, rfl⟩
    | _ => exact ⟨rfl, rfl⟩
  · exact ⟨rfl, rfl⟩

theorem serve_frame (s : Session) (history : List (FileTree × Notification)) :
    (s.serve history).1.phase = s.phase ∧ (s.serve history).1.options = s.options := by
  induction history generalizing s with
  | nil => exact ⟨rfl, rfl⟩
  | cons e rest ih =>
    obtain ⟨t, n⟩ := e
    obtain ⟨hphase, hoptions⟩ := handle_frame s t n
    obtain ⟨hphase', hoptions'⟩ := ih (s.handle t n).1
    exact ⟨hphase'.trans hphase, hoptions'.trans hoptions⟩

theorem handle_run {s : Session} (hready : s.phase = .ready) {n : Notification} {uri : Uri}
    (hn : n = .opened uri ∨ n = .saved uri) (hsource : isSource uri = true) (t : FileTree) :
    s.handle t n = s.runOn t uri := by
  rcases hn with rfl | rfl <;> simp [handle, hready, react, hsource]

open Plan (shop orderText orderFamily shopPlan gather_shop findings_shop)

def libraryUri : Uri where
  scheme := "file"
  authority := some {}
  path := "/shop/src/lib.rs"
  suffix := ""

/-- The library as it is named to the editor. -/
def libraryName : String := "file:///shop/src/lib.rs"

def shopSession : Session where
  phase := .ready
  options := { parentTypes := ["Entity"] }

def orderMarker : Marker := Marker.ofDiagnostic (orderFamily.diagnostic shopPlan.rule)

theorem findings_emptyShop : shopPlan.findingsIn (shop "") = .ok [] := by
  have hsites : Target.allSites (shopPlan.read (shop "") ["/shop/src/lib.rs"]) = [] := by
    decide +kernel
  rw [Plan.findingsIn, Plan.analyze_of_gather (gather_shop "")]
  show Except.ok (shopPlan.report _).diagnostics = _
  rw [Plan.diagnostics_eq_reported, Plan.reported, Plan.families_eq, hsites, List.flatMap_nil,
    List.mergeSort_nil]
  rfl

theorem load_shop (library : String) :
    Plan.load (shop library) "/shop" = .ok { root := "/shop" } := by
  have hnone : (shop library).contains (FilePath.join "/shop" Settings.fileName) = false := by rfl
  simp only [Plan.load, Settings.load, hnone]
  rfl

theorem analysed_shop {library : String} {ds : List Diagnostic}
    (hroot : Package.root? (shop library) "/shop/src/lib.rs" = some "/shop")
    (hfindings : shopPlan.findingsIn (shop library) = .ok ds) :
    ∃ a, Analysed (shop library) shopSession.options libraryUri "/shop/src/lib.rs" "/shop" a ∧
      a.diagnostics = ds := by
  have hpath : libraryUri.filePath? = some "/shop/src/lib.rs" := by decide +kernel
  have hadjust : shopSession.options.adjust { root := "/shop" } = shopPlan := by rfl
  rw [Plan.findingsIn] at hfindings
  cases ha : shopPlan.analyze (shop library) with
  | error e =>
    rw [ha] at hfindings
    cases hfindings
  | ok a =>
    rw [ha] at hfindings
    exact ⟨a, ⟨hpath, hroot, _, load_shop library, by rw [hadjust, ha]⟩, Except.ok.inj hfindings⟩

end Session

end EnumFamily
