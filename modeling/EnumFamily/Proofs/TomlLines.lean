import Mathlib.Data.List.DropRight
import EnumFamily.Toml.Reader
import EnumFamily.Proofs.TomlTables

/-!
# The lines of TOML documents

A document is read from line to line: a line with nothing to read, a pair, a header. A
pair may go on over several lines, so not every line of the text is one that the reader
comes to. `Passes` says to which it comes, and in which section it is there.

Results:
* `pairs_of_pair`, `pairs_of_filler`, `pairs_of_header`, `sections_of_header`: what one step
  leaves to be read.
* `Passes.reads`: what is read from a place on belongs to the section of that place.
* `PlainPair.pair?_eq`: what is read where a pair is written in the plainest way.
* `PlainPair.text?`: a text that is written so in the section of a table is in the document.
-/
namespace EnumFamily.Toml

/-! ## What a line begins with -/

theorem skipBlank_skipBlank (s : List Char) : skipBlank (skipBlank s) = skipBlank s :=
  List.dropWhile_idempotent isBlank s

theorem skipBlank_append {b : List Char} (hb : ∀ c ∈ b, isBlank c = true) (s : List Char) :
    skipBlank (b ++ s) = skipBlank s := List.dropWhile_append_of_pos hb

theorem skipBlank_cons {c : Char} (hc : isBlank c = false) (s : List Char) :
    skipBlank (c :: s) = c :: s := by simp [skipBlank, hc]

/-- Blanks before a pair are no part of it. -/
theorem pair?_skipBlank (s : List Char) : pair? (skipBlank s) = pair? s := by
  have hkey : key? (skipBlank s) = key? s := by
    unfold key? depthLimit
    rw [keyParts, keyParts, skipBlank_skipBlank]
  rw [pair?, pair?, hkey]

/-- A pair begins with a key, so with none of the characters that begin other lines. -/
theorem head_of_pair? {s : List Char} {x : (List String × Toml) × List Char}
    (h : pair? s = some x) : ∃ c r, skipBlank s = c :: r ∧ c ∉ ['[', '#', '\n', '\r'] := by
  obtain ⟨k, hk, -⟩ := Option.bind_eq_some_iff.mp (show (key? s).bind _ = _ from h)
  unfold key? depthLimit at hk
  obtain ⟨k, hsimple, -⟩ :=
    Option.bind_eq_some_iff.mp (show (simpleKey? (skipBlank s)).bind _ = _ from hk)
  cases hs : skipBlank s with
  | nil =>
    rw [hs] at hsimple
    cases hsimple
  | cons c r =>
    refine ⟨c, r, rfl, fun hc => ?_⟩
    rw [hs] at hsimple
    simp only [List.mem_cons, List.not_mem_nil, or_false] at hc
    rcases hc with rfl | rfl | rfl | rfl <;> cases hsimple

/-! ## One step -/

/-- Where a line begins with none of these characters, there must be a pair. -/
theorem pairs_of_head {c : Char} {s u : List Char} (hs : skipBlank s = c :: u)
    (hc : c ∉ ['[', '#', '\n', '\r']) {fuel : Nat} {ps : List (List String × Toml)}
    {t : List Char} (hread : pairs fuel s = some (ps, t)) :
    ∃ n p r ps', pair? s = some (p, r) ∧ pairs n r = some (ps', t) ∧ ps = p :: ps' := by
  rw [List.mem_cons, not_or] at hc
  obtain ⟨hopen, hother⟩ := hc
  cases fuel with
  | zero => cases hread
  | succ fuel =>
    rw [pairs, hs] at hread
    split at hread
    · rename_i heq
      cases heq
    · rename_i heq
      exact absurd (List.cons.inj heq).1 hopen
    · rename_i heq
      obtain ⟨rfl, rfl⟩ := List.cons.inj heq
      rw [if_neg (by simpa using hother)] at hread
      simp only [Option.bind_eq_bind, Option.bind_eq_some_iff] at hread
      obtain ⟨⟨p, r⟩, hpair, ⟨ps', t'⟩, hrest, heq⟩ := hread
      obtain ⟨rfl, rfl⟩ := Prod.mk.inj (Option.some.inj heq)
      rw [← hs, pair?_skipBlank] at hpair
      exact ⟨fuel, p, r, ps', hpair, hrest, rfl⟩

theorem pairs_of_pair {s r : List Char} {p : List String × Toml} (h : pair? s = some (p, r))
    {fuel : Nat} {ps : List (List String × Toml)} {t : List Char}
    (hread : pairs fuel s = some (ps, t)) :
    ∃ n ps', pairs n r = some (ps', t) ∧ ps = p :: ps' := by
  obtain ⟨c, u, hs, hc⟩ := head_of_pair? h
  obtain ⟨n, p', r', ps', hpair, hrest, rfl⟩ := pairs_of_head hs hc hread
  obtain ⟨rfl, rfl⟩ := Prod.mk.inj (Option.some.inj (h.symm.trans hpair))
  exact ⟨n, ps', hrest, rfl⟩

/-- Nothing is to be read on a line without content. -/
theorem pairs_of_filler {s r : List Char} (h : restOfLine? s = some r) {fuel : Nat}
    {x : List (List String × Toml) × List Char} (hread : pairs fuel s = some x) :
    ∃ n, pairs n r = some x := by
  cases fuel with
  | zero => cases hread
  | succ fuel =>
    rw [restOfLine?] at h
    rw [pairs] at hread
    split at hread
    · rename_i heq
      rw [heq] at h
      obtain rfl : [] = r := Option.some.inj h
      exact ⟨1, hread⟩
    · rename_i heq
      rw [heq] at h
      cases h
    · rename_i c t hopen heq
      have hline : restOfLine? (c :: t) = some r := by
        rw [restOfLine?, ← heq, skipBlank_skipBlank, h]
      have hfirst : c = '#' ∨ c = '\n' ∨ c = '\r' := by
        by_contra hnone
        simp only [not_or] at hnone
        simp [heq, skipComment, lineEnd?, newline?, hnone] at h
      rw [if_pos hfirst, hline, Option.bind_some] at hread
      exact ⟨fuel, hread⟩

/-- A header ends the pairs. -/
theorem pairs_of_header {s r : List Char} {hd : Header} (h : header? (skipBlank s) = some (hd, r))
    {fuel : Nat} {ps : List (List String × Toml)} {t : List Char}
    (hread : pairs fuel s = some (ps, t)) : ps = [] ∧ t = skipBlank s := by
  obtain ⟨u, hs⟩ : ∃ u, skipBlank s = '[' :: u := by
    unfold header? at h
    split at h
    · exact ⟨_, ‹_›⟩
    · exact ⟨_, ‹_›⟩
    · cases h
  cases fuel with
  | zero => cases hread
  | succ fuel =>
    rw [pairs, hs] at hread
    rw [hs]
    exact (Prod.mk.inj (Option.some.inj hread)).imp Eq.symm Eq.symm

theorem sections_of_header {s r : List Char} {hd : Header} (h : header? s = some (hd, r))
    {fuel : Nat} {ss : List Section} (hread : sections fuel s = some ss) :
    ∃ n n' ps t ss', pairs n r = some (ps, t) ∧ sections n' t = some ss' ∧
      ss = { header := hd, pairs := ps } :: ss' := by
  cases s with
  | nil => cases h
  | cons c s =>
    cases fuel with
    | zero => cases hread
    | succ fuel =>
      simp only [sections, h, Option.bind_eq_bind, Option.bind_some, Option.bind_eq_some_iff]
        at hread
      obtain ⟨⟨ps, t⟩, hpairs, ss', hss', heq⟩ := hread
      exact ⟨_, _, ps, t, ss', hpairs, hss', (Option.some.inj heq).symm⟩

/-! ## The places that the reader passes -/

/-- Reading from `s` on, in the section of a header, one comes to `r` in the section of
another. Before the first header there is none. -/
inductive Passes : Option Header → List Char → Option Header → List Char → Prop
  | here {h : Option Header} {s : List Char} : Passes h s h s
  | filler {h h' : Option Header} {s t r : List Char} :
      restOfLine? s = some t → Passes h t h' r → Passes h s h' r
  | pair {h h' : Option Header} {s t r : List Char} {p : List String × Toml} :
      pair? s = some (p, t) → Passes h t h' r → Passes h s h' r
  | header {h h' : Option Header} {hd : Header} {s t r : List Char} :
      header? (skipBlank s) = some (hd, t) → Passes (some hd) t h' r → Passes h s h' r

/-- If a document is read, then also from each place that the reader passes on; and the
pairs there are the last ones of the section of that place. -/
theorem Passes.reads {h h' : Option Header} {s r : List Char} (hpass : Passes h s h' r)
    {fuel fuel' : Nat} {ps : List (List String × Toml)} {t : List Char} {ss : List Section}
    (hpairs : pairs fuel s = some (ps, t)) (hsections : sections fuel' t = some ss) :
    ∃ n ps' t', pairs n r = some (ps', t') ∧
      ((h' = h ∧ ps' <:+ ps) ∨ ∃ sec ∈ ss, h' = some sec.header ∧ ps' <:+ sec.pairs) := by
  induction hpass generalizing fuel fuel' ps t ss with
  | here => exact ⟨fuel, ps, t, hpairs, Or.inl ⟨rfl, List.suffix_refl ps⟩⟩
  | filler hline _ ih =>
    obtain ⟨n, hn⟩ := pairs_of_filler hline hpairs
    exact ih hn hsections
  | pair hpair _ ih =>
    obtain ⟨n, ps', hrest, rfl⟩ := pairs_of_pair hpair hpairs
    obtain ⟨n', ps'', t', hread, hwhere⟩ := ih hrest hsections
    refine ⟨n', ps'', t', hread, hwhere.imp_left fun ⟨hh, hsuffix⟩ => ⟨hh, ?_⟩⟩
    exact hsuffix.trans (List.suffix_cons _ _)
  | header hhead _ ih =>
    obtain ⟨rfl, rfl⟩ := pairs_of_header hhead hpairs
    obtain ⟨n, n', ps', t', ss', hpairs', hsections', rfl⟩ := sections_of_header hhead hsections
    obtain ⟨m, ps'', t'', hread, hwhere⟩ := ih hpairs' hsections'
    refine ⟨m, ps'', t'', hread, Or.inr ?_⟩
    rcases hwhere with ⟨hh, hsuffix⟩ | ⟨sec, hsec, hh, hsuffix⟩
    · exact ⟨_, List.mem_cons_self, hh, hsuffix⟩
    · exact ⟨sec, List.mem_cons_of_mem _ hsec, hh, hsuffix⟩

/-! ## Pairs in plain writing -/

/-- Neither a quote nor a backslash nor a control character: it stands for itself between
quotes of both kinds. -/
def isTextChar (c : Char) : Bool := isPlain c && !(['"', '\'', '\\'].contains c)

theorem isTextChar_iff {c : Char} :
    isTextChar c = true ↔ isPlain c = true ∧ c ≠ '"' ∧ c ≠ '\'' ∧ c ≠ '\\' := by
  simp [isTextChar]

/-- The text `s` begins with a bare key, an equals sign and a text in quotes of one kind or
the other, with blanks before and between them; `tail` is what follows. -/
def PlainPair (key value : String) (s tail : List Char) : Prop :=
  ∃ (indent gap gap' : List Char) (q : Char), (indent ++ gap ++ gap').all isBlank = true ∧
    (q = '"' ∨ q = '\'') ∧ tail.head? ≠ some q ∧
    s = indent ++ (key.toList ++ (gap ++ '=' :: (gap' ++ q :: (value.toList ++ q :: tail))))

theorem lineString_of_plain {q : Char} (hq : q = '"' ∨ q = '\'') {v : List Char}
    (hv : v.all isTextChar = true) (tail : List Char) (fuel : Nat) (hfuel : v.length < fuel)
    (acc : List Char) :
    lineString q fuel acc (v ++ q :: tail) = some (String.ofList (acc.reverse ++ v), tail) := by
  induction v generalizing fuel acc with
  | nil =>
    cases fuel with
    | zero => cases hfuel
    | succ fuel => simp [lineString]
  | cons c v ih =>
    rw [List.all_cons, Bool.and_eq_true, isTextChar_iff] at hv
    obtain ⟨⟨hplain, hdouble, hsingle, hslash⟩, hv⟩ := hv
    have hc : c ≠ q := by rcases hq with rfl | rfl <;> assumption
    cases fuel with
    | zero => cases hfuel
    | succ fuel =>
      have hrest := ih hv fuel (Nat.lt_of_succ_lt_succ hfuel) (c :: acc)
      simpa [lineString, hc, hslash, hplain] using hrest

theorem string?_of_plain {q : Char} (hq : q = '"' ∨ q = '\'') {v tail : List Char}
    (hv : v.all isTextChar = true) (htail : tail.head? ≠ some q) :
    string? (q :: (v ++ q :: tail)) = some (String.ofList v, tail) := by
  have hline : quoted? (q :: (v ++ q :: tail)) = some (String.ofList v, tail) := by
    have h := lineString_of_plain hq hv tail (v ++ q :: tail).length (by simp) []
    rcases hq with rfl | rfl <;> simpa [quoted?] using h
  -- three quotes in a row would be an empty text and a third quote behind it
  have hthree : ∀ r, v ++ q :: tail ≠ q :: q :: r := by
    intro r h
    cases v with
    | nil => exact htail (by simp [(List.cons.inj h).2])
    | cons c v =>
      rw [List.all_cons, Bool.and_eq_true, isTextChar_iff] at hv
      obtain ⟨⟨-, hdouble, hsingle, -⟩, -⟩ := hv
      obtain ⟨rfl, -⟩ := List.cons.inj h
      rcases hq with rfl | rfl <;> contradiction
  unfold string?
  split
  · rename_i r heq
    obtain ⟨rfl, heq⟩ := List.cons.inj heq
    exact absurd heq (hthree r)
  · rename_i r heq
    obtain ⟨rfl, heq⟩ := List.cons.inj heq
    exact absurd heq (hthree r)
  · exact hline

theorem value?_of_plain {q : Char} (hq : q = '"' ∨ q = '\'') {v tail : List Char}
    (hv : v.all isTextChar = true) (htail : tail.head? ≠ some q) :
    value? (q :: (v ++ q :: tail)) = some (.string (String.ofList v), tail) := by
  have hscalar : scalar? (q :: (v ++ q :: tail)) = some (.string (String.ofList v), tail) := by
    rw [scalar?, string?_of_plain hq hv htail]
    rfl
  rw [value?]
  rcases hq with rfl | rfl <;> exact hscalar

theorem isKeyChar_of_isBlank {c : Char} (h : isBlank c = true) : isKeyChar c = false := by
  simp only [isBlank, Bool.or_eq_true, decide_eq_true_eq] at h
  rcases h with rfl | rfl <;> decide

section
variable {key indent : List Char} (hkey : ∀ c ∈ key, isKeyChar c = true) (hne : key ≠ [])
  (hindent : ∀ c ∈ indent, isBlank c = true)
include hkey hne hindent

theorem skipBlank_indent (rest : List Char) :
    skipBlank (indent ++ (key ++ rest)) = key ++ rest := by
  obtain ⟨c, key, rfl⟩ := List.exists_cons_of_ne_nil hne
  have hc : isBlank c = false := by
    by_contra hblank
    rw [Bool.not_eq_false] at hblank
    simpa [isKeyChar_of_isBlank hblank] using hkey c List.mem_cons_self
  rw [skipBlank_append hindent, List.cons_append, skipBlank_cons hc]

theorem key?_of_bare {gap : List Char} (hgap : ∀ c ∈ gap, isBlank c = true) (rest : List Char) :
    key? (indent ++ (key ++ (gap ++ '=' :: rest))) =
      some ([String.ofList key], '=' :: rest) := by
  have hbreak : ∃ c t, gap ++ '=' :: rest = c :: t ∧ isKeyChar c = false := by
    cases gap with
    | nil => exact ⟨'=', rest, rfl, by decide⟩
    | cons c gap => exact ⟨c, _, rfl, isKeyChar_of_isBlank (hgap c List.mem_cons_self)⟩
  have hsimple : simpleKey? (key ++ (gap ++ '=' :: rest)) =
      some (String.ofList key, gap ++ '=' :: rest) := by
    obtain ⟨c, t, hct, hc⟩ := hbreak
    rw [simpleKey?, List.takeWhile_append_of_pos hkey, List.dropWhile_append_of_pos hkey, hct]
    simp [hc]
  have hequals : skipBlank (gap ++ '=' :: rest) = '=' :: rest := by
    rw [skipBlank_append hgap, skipBlank_cons (by decide)]
  unfold key? depthLimit
  rw [keyParts, skipBlank_indent hkey hne hindent, hsimple]
  simp only [hequals, Option.bind_eq_bind, Option.bind_some]
  rfl

end

section
variable {key value : String} {s tail : List Char} (h : PlainPair key value s tail)
  (hkey : key.toList.all isKeyChar = true) (hne : key.toList ≠ [])
  (hvalue : value.toList.all isTextChar = true)
include h hkey hne

theorem PlainPair.head : ∃ c r, skipBlank s = c :: r ∧ isKeyChar c = true := by
  obtain ⟨indent, gap, gap', q, hblank, -, -, rfl⟩ := h
  obtain ⟨c, rest, hc⟩ := List.exists_cons_of_ne_nil hne
  simp only [List.all_append, Bool.and_eq_true, List.all_eq_true] at hblank hkey
  rw [skipBlank_indent hkey hne hblank.1.1, hc]
  exact ⟨c, _, rfl, hkey c (by simp [hc])⟩

include hvalue

/-- What is read of a pair in plain writing, if nothing else is on its line. -/
theorem PlainPair.pair?_eq :
    pair? s = (restOfLine? tail).map fun r => (([key], .string value), r) := by
  obtain ⟨indent, gap, gap', q, hblank, hq, htail, rfl⟩ := h
  simp only [List.all_append, Bool.and_eq_true, List.all_eq_true] at hblank hkey
  obtain ⟨⟨hindent, hgap⟩, hgap'⟩ := hblank
  have hskip : skipBlank (gap' ++ q :: (value.toList ++ q :: tail)) =
      q :: (value.toList ++ q :: tail) := by
    rw [skipBlank_append hgap', skipBlank_cons]
    rcases hq with rfl | rfl <;> decide
  simp only [pair?, key?_of_bare hkey hne hindent hgap, char?, hskip,
    value?_of_plain hq hvalue htail, Option.bind_eq_bind, Option.bind_some, if_true,
    String.ofList_toList]
  cases restOfLine? tail <;> rfl

/-- A text in plain writing in the section of a table is in the document, and nothing but
blanks or a comment follows it on its line. -/
theorem PlainPair.text? {text : String} {doc : Members} {table : String}
    (hread : read text = some doc)
    (hpass : Passes none (skipMark text.toList) (some (.table [table])) s) :
    Toml.text? [table, key] doc = some value ∧ ∃ rest, restOfLine? tail = some rest := by
  simp only [read, Option.bind_eq_bind, Option.bind_eq_some_iff] at hread
  obtain ⟨⟨ps, t⟩, hpairs, ss, hsections, hdoc⟩ := hread
  obtain ⟨n, ps', t', hrest, hwhere⟩ := hpass.reads hpairs hsections
  obtain ⟨c, u, hs, hc⟩ := h.head hkey hne
  have hother : c ∉ ['[', '#', '\n', '\r'] := by
    intro hmem
    simp only [List.mem_cons, List.not_mem_nil, or_false] at hmem
    rcases hmem with rfl | rfl | rfl | rfl <;> exact absurd hc (by decide)
  obtain ⟨n', p, r, ps'', hpair, -, rfl⟩ := pairs_of_head hs hother hrest
  rw [h.pair?_eq hkey hne hvalue] at hpair
  obtain ⟨rest, hline, heq⟩ := Option.map_eq_some_iff.mp hpair
  obtain ⟨rfl, rfl⟩ := Prod.mk.inj heq
  rcases hwhere with ⟨hh, -⟩ | ⟨sec, hsec, hh, hsuffix⟩
  · cases hh
  · exact ⟨text?_of_mem hdoc hsec (Option.some.inj hh).symm
      (hsuffix.subset List.mem_cons_self), rest, hline⟩

end

end EnumFamily.Toml
