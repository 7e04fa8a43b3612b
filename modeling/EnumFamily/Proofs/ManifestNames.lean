import Mathlib.Data.List.DropRight
import EnumFamily.Manifest
import EnumFamily.Proofs.Descent
import EnumFamily.Proofs.TomlLines

/-!
# Names in manifests

The name of a package is searched for in the lines of its manifest, not in the tables of
the document that the manifest is. The search takes the first line that begins with the
word `name` and has an equals sign, and of it all that follows that sign but blanks and
quotes around it. So a name in another table may come first, and a comment is taken along.

Results:
* `nameOnLine?_eq_none_iff`: which lines are taken for one with the name.
* `packageName_of_nameLine`: when the search finds the name that the package table gives, and
  what it finds otherwise.
* `package_name_missed`: two manifests in which it does not find the name.
-/
namespace EnumFamily

/-! ## Trimming -/

namespace Text

theorem trimBy_eq (p : Char → Bool) (s : List Char) :
    trimBy p s = (s.dropWhile p).rdropWhile p := rfl

theorem rdropWhile_append_cons {p : Char → Bool} {c : Char} (hc : p c = false)
    (s t : List Char) : (s ++ c :: t).rdropWhile p = s ++ c :: t.rdropWhile p := by
  simp only [List.rdropWhile, List.reverse_append, List.reverse_cons, List.append_assoc,
    List.singleton_append, List.dropWhile_append, List.dropWhile_cons, hc]
  split
  · rename_i hnil
    simp [List.isEmpty_iff.mp hnil]
  · simp

theorem rdropWhile_append_of_pos {p : Char → Bool} {e : List Char} (he : ∀ c ∈ e, p c = true)
    (s : List Char) : (s ++ e).rdropWhile p = s.rdropWhile p := by
  rw [List.rdropWhile, List.reverse_append,
    List.dropWhile_append_of_pos fun c hc => he c (List.mem_reverse.mp hc), List.rdropWhile]

theorem mem_rdropWhile {p : Char → Bool} {s : List Char} {c : Char} (h : c ∈ s)
    (hc : p c = false) : c ∈ s.rdropWhile p := by
  obtain ⟨x, y, rfl⟩ := List.append_of_mem h
  rw [rdropWhile_append_cons hc]
  simp

/-- Trimming drops no character of another kind. -/
theorem mem_trimBy {p : Char → Bool} {s : List Char} {c : Char} (h : c ∈ s) (hc : p c = false) :
    c ∈ trimBy p s := by
  refine mem_rdropWhile ?_ hc
  rw [← List.takeWhile_append_dropWhile (p := p) (l := s), List.mem_append] at h
  refine h.resolve_left fun htake => ?_
  rw [List.mem_takeWhile_imp htake] at hc
  cases hc

/-- Trimming drops at both ends and nothing between. -/
theorem exists_trimBy (p : Char → Bool) (s : List Char) :
    ∃ b e, s = b ++ (trimBy p s ++ e) ∧ ∀ c ∈ b, p c = true := by
  obtain ⟨e, he⟩ := List.rdropWhile_prefix p (s.dropWhile p)
  refine ⟨s.takeWhile p, e, ?_, fun c hc => List.mem_takeWhile_imp hc⟩
  rw [trimBy_eq, he, List.takeWhile_append_dropWhile]

/-- What stands between two ends is kept, if there is nothing to drop from it. -/
theorem trimBy_append {p : Char → Bool} {b m e : List Char} (hb : ∀ c ∈ b, p c = true)
    (he : ∀ c ∈ e, p c = true) (hfront : ∀ c, m.head? = some c → p c = false)
    (hback : ∀ c, m.getLast? = some c → p c = false) : trimBy p (b ++ (m ++ e)) = m := by
  have hend : m.rdropWhile p = m := by
    refine List.rdropWhile_eq_self_iff.mpr fun hne => ?_
    simp [hback _ (List.getLast?_eq_some_getLast hne)]
  rw [trimBy_eq, List.dropWhile_append_of_pos hb]
  cases m with
  | nil =>
    rw [List.nil_append, List.dropWhile_eq_nil_iff.mpr he]
    rfl
  | cons c m =>
    rw [List.cons_append, List.dropWhile_cons, hfront c rfl, if_neg Bool.false_ne_true,
      ← List.cons_append, rdropWhile_append_of_pos he, hend]

/-- So a text without such characters stays whole, whatever is dropped around it. -/
theorem trimBy_of_forall {p : Char → Bool} {b m e : List Char} (hb : ∀ c ∈ b, p c = true)
    (he : ∀ c ∈ e, p c = true) (hm : ∀ c ∈ m, p c = false) : trimBy p (b ++ (m ++ e)) = m :=
  trimBy_append hb he (fun c hc => hm c (List.mem_of_head? hc))
    fun c hc => hm c (List.mem_of_getLast? hc)

/-- And so does a text between two characters of another kind. -/
theorem trimBy_between {p : Char → Bool} {b e : List Char} (hb : ∀ c ∈ b, p c = true)
    (he : ∀ c ∈ e, p c = true) {q : Char} (hq : p q = false) (s : List Char) :
    trimBy p (b ++ (q :: (s ++ [q]) ++ e)) = q :: (s ++ [q]) := by
  have hlast : (q :: (s ++ [q])).getLast? = some q := by
    rw [← List.cons_append, List.getLast?_concat]
  refine trimBy_append hb he (fun c hc => ?_) fun c hc => ?_
  · rwa [← Option.some.inj hc]
  · rwa [← Option.some.inj (hlast.symm.trans hc)]

end Text

/-! ## Lines with a name -/

namespace Manifest

/-- The line begins with the word `name`, blanks apart, and has an equals sign: it is taken
for one with the name of the package. -/
def NameLike (line : List Char) : Prop :=
  ∃ b r, line = b ++ ("name".toList ++ r) ∧ (∀ c ∈ b, Text.isBlank c = true) ∧ '=' ∈ r

/-- The name that is found behind an equals sign. -/
def nameIn (value : List Char) : String :=
  String.ofList (Text.trimBy (· = '\'') (Text.trimBy (· = '"') (Text.trimBy Text.isBlank value)))

theorem nameOnLine?_of_equals {b gap : List Char} (hb : ∀ c ∈ b, Text.isBlank c = true)
    (hgap : '=' ∉ gap) (value : List Char) :
    nameOnLine? (b ++ ("name".toList ++ (gap ++ '=' :: value))) =
      some (nameIn (value.rdropWhile Text.isBlank)) := by
  have htrim : Text.trimBy Text.isBlank (b ++ ("name".toList ++ (gap ++ '=' :: value))) =
      "name".toList ++ (gap ++ '=' :: value.rdropWhile Text.isBlank) := by
    rw [Text.trimBy_eq, List.dropWhile_append_of_pos hb]
    have hfront : ("name".toList ++ (gap ++ '=' :: value)).dropWhile Text.isBlank =
        ("name".toList ++ gap) ++ '=' :: value := by
      rw [List.append_assoc]
      rfl
    rw [hfront, Text.rdropWhile_append_cons (by decide), List.append_assoc]
  have hcut : (("name".toList ++ (gap ++ '=' :: value.rdropWhile Text.isBlank)).dropWhile
      (· ≠ '=')).drop 1 = value.rdropWhile Text.isBlank := by
    rw [← List.append_assoc, List.dropWhile_append_of_pos]
    · simp
    · intro c hc
      rw [decide_eq_true_eq]
      rintro rfl
      exact (List.mem_append.mp hc).elim (by decide) hgap
  simp only [nameOnLine?, htrim, hcut]
  rw [if_pos]
  · rfl
  · simp

theorem nameOnLine?_eq_none_iff {line : List Char} : nameOnLine? line = none ↔ ¬ NameLike line := by
  constructor
  · rintro hnone ⟨b, r, rfl, hb, hequals⟩
    obtain ⟨gap, value, rfl, hgap⟩ := List.eq_append_cons_of_mem hequals
    rw [nameOnLine?_of_equals hb hgap] at hnone
    cases hnone
  · intro hnot
    simp only [nameOnLine?]
    refine if_neg fun hlike => hnot ?_
    rw [Bool.and_eq_true, List.isPrefixOf_iff_prefix, List.contains_iff_mem] at hlike
    obtain ⟨⟨r, hr⟩, hequals⟩ := hlike
    obtain ⟨b, e, hline, hb⟩ := Text.exists_trimBy Text.isBlank line
    rw [← hr] at hline hequals
    refine ⟨b, r ++ e, by rw [hline, List.append_assoc], hb, List.mem_append_left e ?_⟩
    exact (List.mem_append.mp hequals).resolve_left (by decide)

/-! ## The line of the package table -/

/-- What names are made of: letters, digits, and all else that can be seen, but for quotes,
backslashes and the sign of comments. -/
def isNameChar (c : Char) : Bool := Toml.isTextChar c && !Text.isBlank c && c ≠ '#'

/-- The manifest gives the name on a line of its package table: the line that follows
`before` is one to which a reader of the document comes in the section `[package]`, and it
holds the pair of `name` and the name, in plain writing, with `tail` behind it. -/
structure NameLine (text : String) (before rest : List Char) (name : String)
    (tail : List Char) : Prop where
  behind : text.toList = before ++ '\n' :: rest
  place : Toml.Passes none (Toml.skipMark text.toList) (some (.table ["package"])) rest
  pair : Toml.PlainPair "name" name rest tail

/-! ## What follows the equals sign -/

/-- What stands before the next line break. -/
def onLine (tail : List Char) : List Char := tail.takeWhile (· ≠ '\n')

theorem splitAt_eq_cons (s : List Char) :
    ∃ ps, FilePath.splitAt '\n' s = onLine s :: ps := by
  induction s with
  | nil => exact ⟨[], rfl⟩
  | cons c s ih =>
    obtain ⟨ps, hps⟩ := ih
    rw [FilePath.splitAt, hps]
    by_cases hc : c = '\n'
    · exact ⟨onLine s :: ps, by simp [hc, onLine]⟩
    · exact ⟨ps, by simp [hc, onLine]⟩

theorem onLine_append {s : List Char} (hs : '\n' ∉ s) (tail : List Char) :
    onLine (s ++ tail) = s ++ onLine tail := by
  refine List.takeWhile_append_of_pos fun c hc => ?_
  rw [decide_eq_true_eq]
  rintro rfl
  exact hs hc

theorem isBlank_of_toml {c : Char} (h : Toml.isBlank c = true) :
    Text.isBlank c = true ∧ c ≠ '\n' := by
  simp only [Toml.isBlank, Bool.or_eq_true, decide_eq_true_eq] at h
  rcases h with rfl | rfl <;> decide

/-- Behind a value there are blanks, unless there is a comment. -/
theorem blank_of_restOfLine {tail rest : List Char} (h : Toml.restOfLine? tail = some rest)
    (hcomment : '#' ∉ onLine tail) : ∀ c ∈ onLine tail, Text.isBlank c = true := by
  have hsplit : onLine tail = tail.takeWhile Toml.isBlank ++ onLine (Toml.skipBlank tail) := by
    conv_lhs => rw [← List.takeWhile_append_dropWhile (p := Toml.isBlank) (l := tail)]
    refine onLine_append (fun hnewline => ?_) _
    exact (isBlank_of_toml (List.mem_takeWhile_imp hnewline)).2 rfl
  rw [hsplit, List.mem_append, not_or] at hcomment
  have hend : ∀ c ∈ onLine (Toml.skipBlank tail), Text.isBlank c = true := by
    rw [Toml.restOfLine?] at h
    generalize Toml.skipBlank tail = u at h hcomment
    cases u with
    | nil => simp [onLine]
    | cons c u =>
      have hc : c ≠ '#' := by
        rintro rfl
        exact hcomment.2 (by simp [onLine])
      have hskip : Toml.skipComment (c :: u) = c :: u := by simp [Toml.skipComment, hc]
      rw [hskip, Toml.lineEnd?, List.isEmpty_cons, if_neg Bool.false_ne_true,
        Toml.newline?.eq_def] at h
      split at h
      · rename_i heq
        rw [heq]
        simp [onLine]
      · rename_i heq
        rw [heq]
        have hreturn : Text.isBlank '\r' = true := by decide
        simp [onLine, hreturn]
      · cases h
  rw [hsplit]
  intro c hc
  rcases List.mem_append.mp hc with hc | hc
  · exact (isBlank_of_toml (List.mem_takeWhile_imp hc)).1
  · exact hend c hc

/-- Quotes of either kind are taken off. -/
theorem trim_quotes {q : Char} (hq : q = '"' ∨ q = '\'') {v : List Char}
    (hv : v.all isNameChar = true) :
    Text.trimBy (· = '\'') (Text.trimBy (· = '"') (q :: (v ++ [q]))) = v := by
  have hno : ∀ d ∈ ['"', '\''], ∀ c ∈ v, decide (c = d) = false := by
    intro d hd c hc
    have hc := List.all_eq_true.mp hv c hc
    simp only [isNameChar, Bool.and_eq_true, Toml.isTextChar_iff] at hc
    obtain ⟨⟨⟨-, hdouble, hsingle, -⟩, -⟩, -⟩ := hc
    simp only [List.mem_cons, List.not_mem_nil, or_false] at hd
    rcases hd with rfl | rfl <;> rwa [decide_eq_false_iff_not]
  have hbare : ∀ d ∈ ['"', '\''], Text.trimBy (· = d) v = v := by
    intro d hd
    simpa using Text.trimBy_of_forall (b := []) (e := []) (by simp) (by simp) (hno d hd)
  have hquoted : ∀ d ∈ ['"', '\''], Text.trimBy (· = d) (d :: (v ++ [d])) = v := by
    intro d hd
    exact Text.trimBy_of_forall (b := [d]) (e := [d]) (by simp) (by simp) (hno d hd)
  rcases hq with rfl | rfl
  · rw [hquoted '"' (by simp), hbare '\'' (by simp)]
  · have hkeep : Text.trimBy (· = '"') ('\'' :: (v ++ ['\''])) = '\'' :: (v ++ ['\'']) := by
      simpa using Text.trimBy_between (p := (· = '"')) (b := []) (e := []) (by simp) (by simp)
        (q := '\'') (by decide) v
    rw [hkeep, hquoted '\'' (by simp)]

theorem nameIn_plain {gap e : List Char} {q : Char} {name : String}
    (hgap : ∀ c ∈ gap, Toml.isBlank c = true) (hq : q = '"' ∨ q = '\'')
    (he : ∀ c ∈ e, Text.isBlank c = true) (hname : name.toList.all isNameChar = true) :
    nameIn ((gap ++ q :: (name.toList ++ q :: e)).rdropWhile Text.isBlank) = name := by
  have hblank : Text.isBlank q = false := by rcases hq with rfl | rfl <;> decide
  have hend : (gap ++ q :: (name.toList ++ q :: e)).rdropWhile Text.isBlank =
      gap ++ (q :: (name.toList ++ [q]) ++ []) := by
    have h := Text.rdropWhile_append_cons hblank (gap ++ q :: name.toList) e
    rw [List.rdropWhile_eq_nil_iff.mpr he] at h
    simpa using h
  have htrim : Text.trimBy Text.isBlank (gap ++ (q :: (name.toList ++ [q]) ++ [])) =
      q :: (name.toList ++ [q]) :=
    Text.trimBy_between (fun c hc => (isBlank_of_toml (hgap c hc)).1) (by simp) hblank _
  rw [hend, nameIn, htrim, trim_quotes hq hname, String.ofList_toList]

/-- Nothing but blanks and quotes is taken off. -/
theorem mem_nameIn {value : List Char} {c : Char} (h : c ∈ value) (hblank : Text.isBlank c = false)
    (hdouble : c ≠ '"') (hsingle : c ≠ '\'') : c ∈ (nameIn value).toList := by
  rw [nameIn, String.toList_ofList]
  refine Text.mem_trimBy (Text.mem_trimBy (Text.mem_trimBy h hblank) ?_) ?_
  · simpa using hdouble
  · simpa using hsingle

/-! ## The search -/

theorem packageName_append {text : String} {before rest : List Char}
    (h : text.toList = before ++ '\n' :: rest) :
    packageName text =
      (((FilePath.splitAt '\n' before).findSome? nameOnLine?).or
        ((FilePath.splitAt '\n' rest).findSome? nameOnLine?)).getD "unknown" := by
  rw [packageName, h, FilePath.splitAt_append_sep, List.findSome?_append]

/-- A line that looks like one with the name hides all behind it. -/
theorem packageName_of_nameLike {text : String} {before rest : List Char}
    (h : text.toList = before ++ '\n' :: rest)
    (hlike : ∃ line ∈ FilePath.splitAt '\n' before, NameLike line) :
    packageName text = packageName (String.ofList before) := by
  obtain ⟨name, hname⟩ :
      ∃ name, (FilePath.splitAt '\n' before).findSome? nameOnLine? = some name := by
    obtain ⟨line, hmem, hline⟩ := hlike
    refine Option.ne_none_iff_exists'.mp fun hnone => ?_
    exact nameOnLine?_eq_none_iff.mp (List.findSome?_eq_none_iff.mp hnone line hmem) hline
  rw [packageName_append h, packageName, String.toList_ofList, hname]
  rfl

/-- Otherwise the value on the next line that has one is taken. -/
theorem packageName_of_next {text : String} {before rest : List Char}
    (h : text.toList = before ++ '\n' :: rest)
    (hnone : ∀ line ∈ FilePath.splitAt '\n' before, ¬ NameLike line) {name : String}
    (hname : nameOnLine? (onLine rest) = some name) : packageName text = name := by
  have hbefore : (FilePath.splitAt '\n' before).findSome? nameOnLine? = none :=
    List.findSome?_eq_none_iff.mpr fun line hmem => nameOnLine?_eq_none_iff.mpr (hnone line hmem)
  obtain ⟨ps, hps⟩ := splitAt_eq_cons rest
  rw [packageName_append h, hbefore, hps, List.findSome?_cons, hname]
  rfl

/-- On the line of the package table everything behind the equals sign is taken. -/
theorem nameOnLine?_of_pair {name : String} {rest tail : List Char}
    (hpair : Toml.PlainPair "name" name rest tail) (hname : name.toList.all isNameChar = true) :
    ∃ gap q, (∀ c ∈ gap, Toml.isBlank c = true) ∧ (q = '"' ∨ q = '\'') ∧
      nameOnLine? (onLine rest) = some (nameIn
        ((gap ++ q :: (name.toList ++ q :: onLine tail)).rdropWhile Text.isBlank)) := by
  obtain ⟨indent, gap, gap', q, hblank, hq, -, rfl⟩ := hpair
  simp only [List.all_append, Bool.and_eq_true, List.all_eq_true] at hblank hname
  obtain ⟨⟨hindent, hgap⟩, hgap'⟩ := hblank
  have hnewline : '\n' ∉ indent ++ ("name".toList ++ (gap ++ '=' :: (gap' ++ q ::
      (name.toList ++ [q])))) := by
    have hquote : '\n' ≠ q := by rcases hq with rfl | rfl <;> decide
    have hno : ∀ b : List Char, (∀ c ∈ b, Toml.isBlank c = true) → '\n' ∉ b :=
      fun b hb hc => (isBlank_of_toml (hb _ hc)).2 rfl
    have hplain : '\n' ∉ name.toList := fun hc => absurd (hname _ hc) (by decide)
    simp [hno indent hindent, hno gap hgap, hno gap' hgap', hquote, hplain]
  have hline := onLine_append hnewline tail
  simp only [List.append_assoc, List.cons_append, List.nil_append] at hline
  refine ⟨gap', q, hgap', hq, ?_⟩
  rw [hline]
  refine nameOnLine?_of_equals (fun c hc => (isBlank_of_toml (hindent c hc)).1) ?_ _
  intro hequals
  exact absurd (hgap _ hequals) (by decide)

/-- **The name of a package.** Take a manifest that is a TOML document and gives the name of
its package on a line of the package table, in plain writing. Then the document has this
name. If no line before looks like one with a name, it is found, exactly if no comment
follows it on its line. Otherwise it is not even looked at: what stands before decides, in
whatever table it is. -/
theorem packageName_of_nameLine {text : String} {doc : Toml.Members} {before rest : List Char}
    {name : String} {tail : List Char} (hread : Toml.read text = some doc)
    (hline : NameLine text before rest name tail) (hname : name.toList.all isNameChar = true) :
    Toml.text? ["package", "name"] doc = some name ∧
      ((∀ line ∈ FilePath.splitAt '\n' before, ¬ NameLike line) →
        (packageName text = name ↔ '#' ∉ onLine tail)) ∧
      ((∃ line ∈ FilePath.splitAt '\n' before, NameLike line) →
        packageName text = packageName (String.ofList before)) := by
  have hplain : name.toList.all Toml.isTextChar = true := by
    refine List.all_eq_true.mpr fun c hc => ?_
    have hc := List.all_eq_true.mp hname c hc
    simp only [isNameChar, Bool.and_eq_true] at hc
    exact hc.1.1
  obtain ⟨htext, tail', htail⟩ :=
    hline.pair.text? (by decide) (by decide) hplain hread hline.place
  refine ⟨htext, fun hnone => ?_, packageName_of_nameLike hline.behind⟩
  obtain ⟨gap, q, hgap, hq, hfound⟩ := nameOnLine?_of_pair hline.pair hname
  rw [packageName_of_next hline.behind hnone hfound]
  constructor
  · intro hsame hcomment
    have hmem := mem_nameIn (Text.mem_rdropWhile (p := Text.isBlank)
      (s := gap ++ q :: (name.toList ++ q :: onLine tail)) (c := '#') (by simp [hcomment])
      (by decide)) (by decide) (by decide) (by decide)
    rw [hsame] at hmem
    exact absurd (List.all_eq_true.mp hname _ hmem) (by decide)
  · intro hcomment
    exact nameIn_plain hgap hq (blank_of_restOfLine htail hcomment) hname

/-- A workspace and a package with a library of its own name, in one manifest. -/
def shopBefore : String := "[workspace]\nresolver = \"2\" # of features\n\n[package] # main"

/-- The manifest from the name of the package on, with line ends of two characters. -/
def shopRest : String := "name\t= 'shop'  \r\n\n[lib]\nname = \"inner\"\n"

theorem shop_nameLine :
    NameLine (shopBefore ++ "\n" ++ shopRest) shopBefore.toList shopRest.toList "shop"
      "  \r\n\n[lib]\nname = \"inner\"\n".toList where
  behind := by simp
  place := by
    refine .header (show _ = some (.table ["workspace"],
      ("resolver = \"2\" # of features\n\n[package] # main\n" ++ shopRest).toList)
      by decide +kernel) ?_
    have hresolver : Toml.PlainPair "resolver" "2"
        ("resolver = \"2\" # of features\n\n[package] # main\n" ++ shopRest).toList
        (" # of features\n\n[package] # main\n" ++ shopRest).toList :=
      ⟨[], [' '], [' '], '"', by decide, Or.inl rfl, by decide +kernel, by decide +kernel⟩
    have hline : Toml.restOfLine? (" # of features\n\n[package] # main\n" ++ shopRest).toList =
        some ("\n[package] # main\n" ++ shopRest).toList := by decide +kernel
    refine .pair ((hresolver.pair?_eq (by decide) (by decide) (by decide)).trans
      (congrArg _ hline)) ?_
    refine .filler (t := ("[package] # main\n" ++ shopRest).toList) (by decide +kernel) ?_
    exact .header (show _ = some (.table ["package"], shopRest.toList) by decide +kernel) .here
  pair := ⟨[], ['\t'], [' '], '\'', by decide, Or.inr rfl, by decide, by decide +kernel⟩

/-- The name of the package is found; that of the library comes behind it. -/
theorem shop_found :
    ∃ doc, Toml.read (shopBefore ++ "\n" ++ shopRest) = some doc ∧
      Toml.text? ["package", "name"] doc = some "shop" ∧
      packageName (shopBefore ++ "\n" ++ shopRest) = "shop" := by
  have hsome : (Toml.read (shopBefore ++ "\n" ++ shopRest)).isSome = true := by decide +kernel
  obtain ⟨doc, hread⟩ := Option.isSome_iff_exists.mp hsome
  obtain ⟨htext, hfound, -⟩ := packageName_of_nameLine hread shop_nameLine (by decide)
  have hlines : ∀ line ∈ FilePath.splitAt '\n' shopBefore.toList, nameOnLine? line = none := by
    decide +kernel
  exact ⟨doc, hread, htext,
    (hfound fun line hline => nameOnLine?_eq_none_iff.mp (hlines line hline)).mpr (by decide)⟩

/-- The manifest of a package `shop` with a library `inner`, which comes first. -/
def libraryFirst : String := "[lib]\nname = \"inner\"\n\n[package]\nname = \"shop\"\n"

/-- The manifest of a package `shop` with a comment on the line of the name. -/
def commented : String := "[package]\nname = \"shop\" # the shop\n"

/-- Two documents whose package has the name `shop`. In the first the name of the library is
found, in the second the comment is taken along. -/
theorem package_name_missed :
    (Toml.read libraryFirst).bind (Toml.text? ["package", "name"]) = some "shop" ∧
      packageName libraryFirst = "inner" ∧
      (Toml.read commented).bind (Toml.text? ["package", "name"]) = some "shop" ∧
      packageName commented = "shop\" # the shop" := by
  decide +kernel

end Manifest

end EnumFamily
