import EnumFamily.Json.Reader

/-!
# The grammar of JSON texts

`Writes` says which texts write which phrase: a value, an element (a value with white
space around it), the elements of an array, the members of an object. It has one rule for
each form that a phrase can take, and knows nothing of the reader: no fuel, no rest of
the input. Strings (`WritesText`) and numerals (`IsNumeral`) have grammars of their own.

Results:
* `stringRest?_of_writesText`, `numeral?_of_isNumeral`: strings and numerals are read as
  the grammar says, whatever follows them.
* `Writes.read`: so is every phrase, by induction on its derivation; `Phrase.IsRead` says
  for each kind of phrase what the reader makes of it, and with how much fuel.
* `read_of_isDocument`: the reader accepts every document.
* `IsDocument.unique`: so a text is a document in one way only.
-/
namespace EnumFamily.Json

/-! ## The grammar -/

/-- White space. -/
def Blank (s : List Char) : Prop := ∀ c ∈ s, isBlank c = true

/-- The character is the hexadecimal digit of a number, in either case. -/
def IsHexDigit (c : Char) (n : Nat) : Prop :=
  "0123456789abcdef".toList[n]? = some c ∨ "0123456789ABCDEF".toList[n]? = some c

/-- Four hexadecimal digits and the number that they write. -/
inductive IsHex4 : List Char → Nat → Prop
  | mk {a b c d : Char} {i j k l : Nat} :
      IsHexDigit a i → IsHexDigit b j → IsHexDigit c k → IsHexDigit d l →
      IsHex4 [a, b, c, d] (i * 4096 + j * 256 + k * 16 + l)

/-- The letters that stand for a character behind a backslash. -/
def letterEscapes : List (Char × Char) :=
  [('"', '"'), ('\\', '\\'), ('/', '/'), ('b', '\x08'), ('f', '\x0c'), ('n', '\n'), ('r', '\r'),
    ('t', '\t')]

/-- How a character may be written within a string. -/
inductive WritesChar : List Char → Char → Prop
  | plain {c : Char} : c ≠ '"' → c ≠ '\\' → 32 ≤ c.toNat → WritesChar [c] c
  | letter {l c : Char} : (l, c) ∈ letterEscapes → WritesChar ['\\', l] c
  | unit {ds : List Char} {u : Nat} : IsHex4 ds u → u < 0xD800 ∨ 0xE000 ≤ u →
      WritesChar ('\\' :: 'u' :: ds) (Char.ofNat u)
  /-- two halves of a surrogate pair -/
  | pair {ds es : List Char} {hi lo : Nat} : IsHex4 ds hi → IsHex4 es lo →
      0xD800 ≤ hi → hi < 0xDC00 → 0xDC00 ≤ lo → lo < 0xE000 →
      WritesChar ('\\' :: 'u' :: (ds ++ '\\' :: 'u' :: es))
        (Char.ofNat (0x10000 + (hi - 0xD800) * 0x400 + (lo - 0xDC00)))

/-- What stands between the quotes of a string, and its characters. -/
inductive WritesText : List Char → List Char → Prop
  | nil : WritesText [] []
  | cons {s r cs : List Char} {c : Char} : WritesChar s c → WritesText r cs →
      WritesText (s ++ r) (c :: cs)

/-- One or more digits. -/
structure AreDigits (s : List Char) : Prop where
  ne_nil : s ≠ []
  digit : ∀ c ∈ s, c.isDigit = true

/-- The fraction of a numeral, if it has one. -/
inductive IsFraction : List Char → Prop
  | none : IsFraction []
  | some {ds : List Char} : AreDigits ds → IsFraction ('.' :: ds)

/-- The exponent of a numeral, if it has one. -/
inductive IsExponent : List Char → Prop
  | none : IsExponent []
  | some {e : Char} {sign ds : List Char} : e = 'e' ∨ e = 'E' →
      sign = [] ∨ sign = ['+'] ∨ sign = ['-'] → AreDigits ds → IsExponent (e :: (sign ++ ds))

/-- A numeral: no digit stands behind a leading zero. -/
inductive IsNumeral : List Char → Prop
  | mk {sign ds frac exp : List Char} : sign = [] ∨ sign = ['-'] → AreDigits ds →
      (ds.head? = some '0' → ds = ['0']) → IsFraction frac → IsExponent exp →
      IsNumeral (sign ++ (ds ++ (frac ++ exp)))

/-- The parts of a document that have rules of their own. -/
inductive Phrase where
  | value (j : Json)
  /-- a value with white space around it -/
  | element (j : Json)
  /-- one or more, between the brackets of an array -/
  | elements (xs : List Json)
  /-- one or more, between the braces of an object -/
  | members (ms : List (String × Json))

/-- The text writes the phrase. -/
inductive Writes : Phrase → List Char → Prop
  | null : Writes (.value .null) "null".toList
  | boolTrue : Writes (.value (.bool true)) "true".toList
  | boolFalse : Writes (.value (.bool false)) "false".toList
  | number {n : List Char} : IsNumeral n → Writes (.value (.number (String.ofList n))) n
  | string {s cs : List Char} : WritesText s cs →
      Writes (.value (.string (String.ofList cs))) ('"' :: (s ++ ['"']))
  | emptyArray {w : List Char} : Blank w → Writes (.value (.array [])) ('[' :: (w ++ [']']))
  | array {s : List Char} {xs : List Json} : Writes (.elements xs) s →
      Writes (.value (.array xs)) ('[' :: (s ++ [']']))
  | emptyObject {w : List Char} : Blank w →
      Writes (.value (.object [])) ('\x7b' :: (w ++ ['\x7d']))
  | object {s : List Char} {ms : List (String × Json)} : Writes (.members ms) s →
      Writes (.value (.object ms)) ('\x7b' :: (s ++ ['\x7d']))
  | element {w s w' : List Char} {j : Json} : Blank w → Writes (.value j) s → Blank w' →
      Writes (.element j) (w ++ (s ++ w'))
  | lastElement {s : List Char} {j : Json} : Writes (.element j) s → Writes (.elements [j]) s
  | moreElements {s r : List Char} {j : Json} {xs : List Json} : Writes (.element j) s →
      Writes (.elements xs) r → Writes (.elements (j :: xs)) (s ++ ',' :: r)
  | lastMember {w k w' s cs : List Char} {j : Json} : Blank w → WritesText k cs → Blank w' →
      Writes (.element j) s →
      Writes (.members [(String.ofList cs, j)]) (w ++ '"' :: (k ++ '"' :: (w' ++ ':' :: s)))
  | moreMembers {w k w' s r cs : List Char} {j : Json} {ms : List (String × Json)} : Blank w →
      WritesText k cs → Blank w' → Writes (.element j) s → Writes (.members ms) r →
      Writes (.members ((String.ofList cs, j) :: ms))
        (w ++ '"' :: (k ++ '"' :: (w' ++ ':' :: (s ++ ',' :: r))))

/-- The text is a JSON document with the given value. -/
def IsDocument (text : String) (j : Json) : Prop := Writes (.element j) text.toList

/-! ## White space -/

theorem skipBlank_append {w s : List Char} (hw : Blank w) : skipBlank (w ++ s) = skipBlank s :=
  List.dropWhile_append_of_pos hw

theorem skipBlank_cons {c : Char} {s : List Char} (hc : isBlank c = false) :
    skipBlank (c :: s) = c :: s :=
  List.dropWhile_cons_of_neg (by simp [hc])

theorem skipBlank_append_cons {w s : List Char} {c : Char} (hw : Blank w)
    (hc : isBlank c = false) : skipBlank (w ++ c :: s) = c :: s := by
  rw [skipBlank_append hw, skipBlank_cons hc]

theorem skipBlank_skipBlank (s : List Char) : skipBlank (skipBlank s) = skipBlank s := by
  induction s with
  | nil => rfl
  | cons c s ih =>
    cases hc : isBlank c with
    | true =>
      have hskip : skipBlank (c :: s) = skipBlank s := List.dropWhile_cons_of_pos hc
      rw [hskip, ih]
    | false => rw [skipBlank_cons hc, skipBlank_cons hc]

/-! ## Strings -/

theorem hexValue?_of_isHexDigit {c : Char} {n : Nat} (h : IsHexDigit c n) :
    hexValue? c = some n := by
  have hlower : ∀ i : Fin 16, hexValue? ("0123456789abcdef".toList.get i) = some i.val := by decide
  have hupper : ∀ i : Fin 16, hexValue? ("0123456789ABCDEF".toList.get i) = some i.val := by decide
  rcases h with h | h
  · obtain ⟨hn, rfl⟩ := List.getElem?_eq_some_iff.mp h
    exact hlower ⟨n, hn⟩
  · obtain ⟨hn, rfl⟩ := List.getElem?_eq_some_iff.mp h
    exact hupper ⟨n, hn⟩

theorem hex4?_of_isHex4 {ds : List Char} {u : Nat} (h : IsHex4 ds u) (r : List Char) :
    hex4? (ds ++ r) = some (u, r) := by
  cases h with
  | @mk a b c d i j k l ha hb hc hd =>
    have hvalue : ((i * 16 + j) * 16 + k) * 16 + l = i * 4096 + j * 256 + k * 16 + l := by omega
    simp [hex4?, hexValue?_of_isHexDigit ha, hexValue?_of_isHexDigit hb,
      hexValue?_of_isHexDigit hc, hexValue?_of_isHexDigit hd, hvalue]

theorem letter?_of_mem {l c : Char} (h : (l, c) ∈ letterEscapes) :
    letter? l = some c ∧ l ≠ 'u' := by
  have hall : ∀ e ∈ letterEscapes, letter? e.1 = some e.2 ∧ e.1 ≠ 'u' := by decide
  exact hall _ h

/-- A step of the reader takes one character of the string. -/
theorem stringBody_of_writesChar {s : List Char} {c : Char} (h : WritesChar s c) (fuel : Nat)
    (acc r : List Char) :
    stringBody (fuel + 1) (some acc) (s ++ r) = stringBody fuel (some (c :: acc)) r := by
  cases h with
  | plain hquote hslash hcontrol =>
    have hkeep : ¬ (c = '\\' ∨ c.toNat < 32) := by
      rintro (rfl | hlt)
      · exact hslash rfl
      · omega
    rw [List.singleton_append, stringBody]
    · rw [if_neg hkeep]
      rfl
    · exact hquote
    · exact fun _ h _ => hslash h
    · exact fun _ _ h _ => hslash h
  | @letter l _ hl =>
    obtain ⟨hletter, hu⟩ := letter?_of_mem hl
    rw [List.cons_append, List.singleton_append, stringBody]
    · simp [hletter]
    · exact hu
  | unit hds hu =>
    simp [stringBody, unicode?, hex4?_of_isHex4 hds, hu]
  | @pair ds es hi lo hds hes h₁ h₂ h₃ h₄ =>
    have hhalf : ¬ (hi < 0xD800 ∨ 0xE000 ≤ hi) := by omega
    simp [stringBody, unicode?, hex4?_of_isHex4 hds, hex4?_of_isHex4 hes, pair?, h₂, h₃, h₄, hhalf]

theorem stringBody_of_writesText {s cs : List Char} (h : WritesText s cs) {fuel : Nat}
    (hfuel : s.length ≤ fuel) (acc r : List Char) :
    stringBody fuel (some acc) (s ++ '"' :: r) =
      some (some (String.ofList (acc.reverse ++ cs)), r) := by
  induction h generalizing fuel acc with
  | nil => simp [stringBody]
  | @cons s _ cs c hc _ ih =>
    have hpos : 0 < s.length := by cases hc <;> simp
    rw [List.length_append] at hfuel
    obtain ⟨fuel, rfl⟩ : ∃ k, fuel = k + 1 := ⟨fuel - 1, by omega⟩
    rw [List.append_assoc, stringBody_of_writesChar hc, ih (by omega)]
    simp

theorem stringRest?_of_writesText {s cs : List Char} (h : WritesText s cs) (r : List Char) :
    stringRest? (s ++ '"' :: r) = some (some (String.ofList cs), r) :=
  stringBody_of_writesText h (by simp) [] r

/-! ## Numerals -/

/-- What may follow a numeral without becoming a part of it. -/
def Follows (rest : List Char) : Prop :=
  ∀ c, rest.head? = some c → c.isDigit = false ∧ c ≠ '.' ∧ c ≠ 'e' ∧ c ≠ 'E'

/-- What may follow digits. -/
def NoDigit (rest : List Char) : Prop := ∀ c, rest.head? = some c → c.isDigit = false

theorem digits_append {ds rest : List Char} (hds : AreDigits ds) (hrest : NoDigit rest) :
    digits (ds ++ rest) = (ds, rest) := by
  unfold digits
  rw [List.takeWhile_append_of_pos hds.digit, List.dropWhile_append_of_pos hds.digit]
  cases rest with
  | nil => simp
  | cons c rest =>
    have hc := hrest c rfl
    simp [hc]

theorem IsExponent.noDigit {exp rest : List Char} (h : IsExponent exp) (hrest : Follows rest) :
    NoDigit (exp ++ rest) := by
  cases h with
  | none => exact fun c hc => (hrest c hc).1
  | @some e sign ds he _ _ =>
    intro c hc
    obtain rfl := Option.some.inj hc
    rcases he with rfl | rfl <;> rfl

theorem ne_of_isDigit {c d : Char} (hc : c.isDigit = true) (hd : d.isDigit = false) : c ≠ d := by
  rintro rfl
  rw [hc] at hd
  cases hd

theorem exponent?_of_isExponent {exp rest : List Char} (h : IsExponent exp)
    (hrest : Follows rest) : exponent? (exp ++ rest) = some (exp, rest) := by
  cases h with
  | none =>
    cases rest with
    | nil => rfl
    | cons c rest =>
      obtain ⟨-, -, he, hE⟩ := hrest c rfl
      simp [exponent?, he, hE]
  | @some e sign ds he hsign hds =>
    have hread := digits_append hds fun c hc => (hrest c hc).1
    obtain ⟨d, ds, rfl⟩ := List.exists_cons_of_ne_nil hds.ne_nil
    have hd := hds.digit d List.mem_cons_self
    have hplus : d ≠ '+' := ne_of_isDigit hd (by decide)
    have hminus : d ≠ '-' := ne_of_isDigit hd (by decide)
    rw [List.cons_append] at hread
    rcases hsign with rfl | rfl | rfl
    · simp [exponent?, he, hplus, hminus, hread]
    · simp [exponent?, he, hread]
    · simp [exponent?, he, hread]

/-- The rest of a numeral behind its integer part. -/
theorem IsFraction.noDigit {frac exp rest : List Char} (hfrac : IsFraction frac)
    (hexp : IsExponent exp) (hrest : Follows rest) : NoDigit (frac ++ (exp ++ rest)) := by
  cases hfrac with
  | none => exact hexp.noDigit hrest
  | some _ =>
    intro c hc
    obtain rfl := Option.some.inj hc
    rfl

theorem fraction?_of_isFraction {frac exp rest : List Char} (hfrac : IsFraction frac)
    (hexp : IsExponent exp) (hrest : Follows rest) :
    fraction? (frac ++ (exp ++ rest)) = some (frac, exp ++ rest) := by
  cases hfrac with
  | none =>
    have hpoint : ∀ r, exp ++ rest ≠ '.' :: r := by
      intro r hr
      cases hexp with
      | none => exact (hrest '.' (congrArg List.head? hr)).2.1 rfl
      | some he _ _ =>
        obtain ⟨rfl, -⟩ := List.cons.inj hr
        exact absurd he (by decide)
    rw [List.nil_append, fraction?]
    exact hpoint
  | some hds =>
    have hread := digits_append hds (hexp.noDigit hrest)
    obtain ⟨d, ds, rfl⟩ := List.exists_cons_of_ne_nil hds.ne_nil
    rw [List.cons_append] at hread
    simp [fraction?, hread]

theorem integer?_of_areDigits {ds rest : List Char} (hds : AreDigits ds)
    (hzero : ds.head? = some '0' → ds = ['0']) (hrest : NoDigit rest) :
    integer? (ds ++ rest) = some (ds, rest) := by
  unfold integer?
  rw [digits_append hds hrest]
  obtain ⟨d, ds, rfl⟩ := List.exists_cons_of_ne_nil hds.ne_nil
  by_cases hd : d = '0'
  · subst hd
    obtain ⟨-, rfl⟩ := List.cons.inj (hzero rfl)
    rfl
  · split
    · rename_i h
      cases h
    · rename_i h
      cases h
      exact absurd rfl hd
    · rename_i h
      cases h
      exact absurd rfl hd
    · rename_i h
      cases h
      rfl

theorem numeral?_of_isNumeral {n rest : List Char} (h : IsNumeral n) (hrest : Follows rest) :
    numeral? (n ++ rest) = some (String.ofList n, rest) := by
  cases h with
  | @mk sign ds frac exp hsign hds hzero hfrac hexp =>
    have hi := integer?_of_areDigits hds hzero (hfrac.noDigit hexp hrest)
    have hf := fraction?_of_isFraction hfrac hexp hrest
    have he := exponent?_of_isExponent hexp hrest
    obtain ⟨d, ds, rfl⟩ := List.exists_cons_of_ne_nil hds.ne_nil
    have hminus : d ≠ '-' := ne_of_isDigit (hds.digit d List.mem_cons_self) (by decide)
    rw [List.cons_append] at hi
    rcases hsign with rfl | rfl
    · simp [numeral?, hminus, hi, hf, he, String.append_assoc]
    · simp [numeral?, hi, hf, he, String.append_assoc]

theorem IsNumeral.exists_cons {n : List Char} (h : IsNumeral n) :
    ∃ c r, n = c :: r ∧ (c.isDigit = true ∨ c = '-') := by
  cases h with
  | @mk sign ds frac exp hsign hds _ _ _ =>
    obtain ⟨d, ds, rfl⟩ := List.exists_cons_of_ne_nil hds.ne_nil
    rcases hsign with rfl | rfl
    · exact ⟨_, _, rfl, Or.inl (hds.digit d List.mem_cons_self)⟩
    · exact ⟨_, _, rfl, Or.inr rfl⟩

/-! ## One step of the reader -/

theorem value_skipBlank (fuel : Nat) (s : List Char) : value fuel (skipBlank s) = value fuel s := by
  cases fuel with
  | zero => simp [value]
  | succ fuel => simp only [value, skipBlank_skipBlank]

theorem value_append_of_blank (fuel : Nat) {w : List Char} (hw : Blank w) (s : List Char) :
    value fuel (w ++ s) = value fuel s := by
  rw [← value_skipBlank, skipBlank_append hw, value_skipBlank]

theorem items_skipBlank (fuel : Nat) (s : List Char) : items fuel (skipBlank s) = items fuel s := by
  cases fuel with
  | zero => simp [items]
  | succ fuel => simp only [items, value_skipBlank]

theorem members_skipBlank (fuel : Nat) (s : List Char) :
    members fuel (skipBlank s) = members fuel s := by
  cases fuel with
  | zero => simp [members]
  | succ fuel => simp only [members, skipBlank_skipBlank]

theorem word?_append (w : String) (rest : List Char) :
    word? w (w.toList ++ rest) = some rest := by
  have hpre : w.toList.isPrefixOf (w.toList ++ rest) = true :=
    List.isPrefixOf_iff_prefix.mpr (List.prefix_append _ _)
  rw [word?, if_pos hpre, ← String.length_toList, List.drop_left]

theorem isBlank_eq_false {c : Char} (hc : c.isDigit = true ∨ c = '-') : isBlank c = false := by
  rw [← Bool.not_eq_true]
  intro hblank
  simp only [isBlank, Bool.or_eq_true, decide_eq_true_eq] at hblank
  rcases hblank with ((rfl | rfl) | rfl) | rfl <;> exact absurd hc (by decide)

theorem value_number (fuel : Nat) {c : Char} {r : List Char} (hc : c.isDigit = true ∨ c = '-') :
    value (fuel + 1) (c :: r) = (numeral? (c :: r)).map fun (n, r) => (.number n, r) := by
  rw [value, skipBlank_cons (isBlank_eq_false hc)]
  split
  case h_7 => rfl
  all_goals
    rename_i heq
    obtain ⟨rfl, -⟩ := List.cons.inj heq
    exact absurd hc (by decide)

theorem value_emptyArray (fuel : Nat) {r r' : List Char} (h : skipBlank r = ']' :: r') :
    value (fuel + 1) ('[' :: r) = some (.array [], r') := by
  simp [value, skipBlank_cons (c := '[') rfl, h]

theorem value_array (fuel : Nat) {r : List Char} (h : (skipBlank r).head? ≠ some ']') :
    value (fuel + 1) ('[' :: r) = (items fuel r).map fun (xs, r) => (.array xs, r) := by
  simp only [value, skipBlank_cons (c := '[') rfl]
  rw [← items_skipBlank]
  split
  · rename_i heq
    exact absurd (congrArg List.head? heq) h
  · rfl

theorem value_emptyObject (fuel : Nat) {r r' : List Char} (h : skipBlank r = '\x7d' :: r') :
    value (fuel + 1) ('\x7b' :: r) = some (.object [], r') := by
  simp [value, skipBlank_cons (c := '\x7b') rfl, h]

theorem value_object (fuel : Nat) {r : List Char} (h : (skipBlank r).head? ≠ some '\x7d') :
    value (fuel + 1) ('\x7b' :: r) = (members fuel r).map fun (ms, r) => (ofMembers ms, r) := by
  simp only [value, skipBlank_cons (c := '\x7b') rfl]
  rw [← members_skipBlank]
  split
  · rename_i heq
    exact absurd (congrArg List.head? heq) h
  · rfl

/-- Members whose names are texts. -/
def named (ms : List (String × Json)) : List (Option String × Json) :=
  ms.map fun m => (some m.1, m.2)

theorem ofMembers_named (ms : List (String × Json)) : ofMembers (named ms) = .object ms := by
  have hall : ms.mapM some = some ms := by
    induction ms with
    | nil => rfl
    | cons m ms ih =>
      rw [List.mapM_cons, ih]
      rfl
  unfold ofMembers named
  rw [List.mapM_map]
  simp [hall, Function.comp_def]

theorem items_last {fuel : Nat} {s w rest : List Char} {j : Json} (hw : Blank w)
    (h : value fuel s = some (j, w ++ ']' :: rest)) : items (fuel + 1) s = some ([j], rest) := by
  simp [items, h, skipBlank_append_cons hw (c := ']') rfl]

theorem items_more {fuel : Nat} {s w r rest : List Char} {j : Json} {xs : List Json}
    (hw : Blank w) (h : value fuel s = some (j, w ++ ',' :: r))
    (hr : items fuel r = some (xs, rest)) : items (fuel + 1) s = some (j :: xs, rest) := by
  simp [items, h, hr, skipBlank_append_cons hw (c := ',') rfl]

section
variable {fuel : Nat} {w k w' s w'' cs rest : List Char} {j : Json} (hw : Blank w)
  (hk : WritesText k cs) (hw' : Blank w') (hw'' : Blank w'')
include hw hk hw' hw''

theorem members_last (h : value fuel s = some (j, w'' ++ '\x7d' :: rest)) :
    members (fuel + 1) (w ++ '"' :: (k ++ '"' :: (w' ++ ':' :: s))) =
      some ([(some (String.ofList cs), j)], rest) := by
  simp [members, skipBlank_append_cons hw (c := '"') rfl, stringRest?_of_writesText hk,
    skipBlank_append_cons hw' (c := ':') rfl, h, skipBlank_append_cons hw'' (c := '\x7d') rfl]

theorem members_more {r : List Char} {ms : List (Option String × Json)}
    (h : value fuel s = some (j, w'' ++ ',' :: r)) (hr : members fuel r = some (ms, rest)) :
    members (fuel + 1) (w ++ '"' :: (k ++ '"' :: (w' ++ ':' :: s))) =
      some ((some (String.ofList cs), j) :: ms, rest) := by
  simp [members, skipBlank_append_cons hw (c := '"') rfl, stringRest?_of_writesText hk,
    skipBlank_append_cons hw' (c := ':') rfl, h, skipBlank_append_cons hw'' (c := ',') rfl, hr]

end

/-! ## Reading phrases -/

/-- What may follow an element: a comma, a closing bracket or brace, or nothing. -/
def Closes (rest : List Char) : Prop :=
  ∀ c, rest.head? = some c → c = ',' ∨ c = ']' ∨ c = '\x7d'

theorem Closes.follows {w rest : List Char} (h : Closes rest) (hw : Blank w) :
    Follows (w ++ rest) := by
  intro c hc
  cases w with
  | nil =>
    rcases h c hc with rfl | rfl | rfl <;> decide
  | cons d w =>
    obtain rfl := Option.some.inj hc
    have hblank := hw d List.mem_cons_self
    simp only [isBlank, Bool.or_eq_true, decide_eq_true_eq] at hblank
    rcases hblank with ((rfl | rfl) | rfl) | rfl <;> decide

/-- The reader takes the text for the phrase. It needs no more fuel than the text has
characters, and one more for those phrases that it reads item by item. -/
def Phrase.IsRead : Phrase → List Char → Prop
  | .value j, s => ∀ fuel rest, s.length ≤ fuel → Follows rest →
      Json.value fuel (s ++ rest) = some (j, rest)
  | .element j, s => ∀ fuel rest, s.length ≤ fuel → Closes rest →
      ∃ w, Blank w ∧ Json.value fuel (s ++ rest) = some (j, w ++ rest)
  | .elements xs, s => ∀ fuel rest, s.length + 1 ≤ fuel →
      items fuel (s ++ ']' :: rest) = some (xs, rest)
  | .members ms, s => ∀ fuel rest, s.length + 1 ≤ fuel →
      Json.members fuel (s ++ '\x7d' :: rest) = some (named ms, rest)

/-- A value begins with a character of its own. -/
theorem Writes.exists_cons {j : Json} {s : List Char} (h : Writes (.value j) s) :
    ∃ c r, s = c :: r ∧ isBlank c = false ∧ c ≠ ']' := by
  cases h with
  | number hn =>
    obtain ⟨c, r, rfl, hc⟩ := hn.exists_cons
    refine ⟨c, r, rfl, isBlank_eq_false hc, ?_⟩
    rintro rfl
    exact absurd hc (by decide)
  | null => exact ⟨_, _, rfl, by decide⟩
  | boolTrue => exact ⟨_, _, rfl, by decide⟩
  | boolFalse => exact ⟨_, _, rfl, by decide⟩
  | string _ => exact ⟨_, _, rfl, by decide⟩
  | emptyArray _ => exact ⟨_, _, rfl, by decide⟩
  | array _ => exact ⟨_, _, rfl, by decide⟩
  | emptyObject _ => exact ⟨_, _, rfl, by decide⟩
  | object _ => exact ⟨_, _, rfl, by decide⟩

/-- Elements do not begin like the end of an array. -/
theorem Writes.head?_skipBlank_element {j : Json} {s : List Char} (h : Writes (.element j) s)
    (rest : List Char) : (skipBlank (s ++ rest)).head? ≠ some ']' := by
  cases h with
  | element hw hs _ =>
    obtain ⟨c, r, rfl, hblank, hc⟩ := hs.exists_cons
    rw [List.append_assoc, List.append_assoc, List.cons_append, skipBlank_append_cons hw hblank]
    simpa using hc

theorem Writes.head?_skipBlank_elements {xs : List Json} {s : List Char}
    (h : Writes (.elements xs) s) (rest : List Char) :
    (skipBlank (s ++ rest)).head? ≠ some ']' := by
  cases h with
  | lastElement hs => exact hs.head?_skipBlank_element rest
  | moreElements hs _ =>
    rw [List.append_assoc]
    exact hs.head?_skipBlank_element _

theorem Writes.head?_skipBlank_members {ms : List (String × Json)} {s : List Char}
    (h : Writes (.members ms) s) (rest : List Char) :
    (skipBlank (s ++ rest)).head? ≠ some '\x7d' := by
  cases h with
  | lastMember hw _ _ _ =>
    rw [List.append_assoc, List.cons_append, skipBlank_append_cons hw rfl]
    simp
  | moreMembers hw _ _ _ _ =>
    rw [List.append_assoc, List.cons_append, skipBlank_append_cons hw rfl]
    simp

theorem closes_cons {c : Char} {rest : List Char} (hc : c = ',' ∨ c = ']' ∨ c = '\x7d') :
    Closes (c :: rest) := by
  intro d hd
  obtain rfl := Option.some.inj hd
  exact hc

/-- Fuel for a text is fuel for a step of the reader and for what is left. -/
theorem exists_fuel {n fuel : Nat} (h : n + 1 ≤ fuel) : ∃ k, fuel = k + 1 ∧ n ≤ k :=
  ⟨fuel - 1, by omega, by omega⟩

/-- The reader takes every text for the phrase that it writes. -/
theorem Writes.read {p : Phrase} {s : List Char} (h : Writes p s) : p.IsRead s := by
  induction h with
  | null =>
    intro fuel rest hfuel _
    obtain ⟨fuel, rfl, -⟩ := exists_fuel hfuel
    exact congrArg (Option.map _) (word?_append "ull" rest)
  | boolTrue =>
    intro fuel rest hfuel _
    obtain ⟨fuel, rfl, -⟩ := exists_fuel hfuel
    exact congrArg (Option.map _) (word?_append "rue" rest)
  | boolFalse =>
    intro fuel rest hfuel _
    obtain ⟨fuel, rfl, -⟩ := exists_fuel hfuel
    exact congrArg (Option.map _) (word?_append "alse" rest)
  | number hn =>
    intro fuel rest hfuel hrest
    have hread := numeral?_of_isNumeral hn hrest
    obtain ⟨c, r, rfl, hc⟩ := hn.exists_cons
    obtain ⟨fuel, rfl, -⟩ := exists_fuel hfuel
    rw [List.cons_append] at hread ⊢
    rw [value_number fuel hc, hread]
    rfl
  | string hs =>
    intro fuel rest hfuel _
    obtain ⟨fuel, rfl, -⟩ := exists_fuel hfuel
    simp [value, skipBlank_cons (c := '"') rfl, stringRest?_of_writesText hs, string?]
  | emptyArray hw =>
    intro fuel rest hfuel _
    obtain ⟨fuel, rfl, -⟩ := exists_fuel hfuel
    rw [List.cons_append, List.append_assoc]
    exact value_emptyArray fuel (skipBlank_append_cons hw rfl)
  | array hs ih =>
    intro fuel rest hfuel _
    obtain ⟨fuel, rfl, hle⟩ := exists_fuel hfuel
    rw [List.length_append, List.length_singleton] at hle
    rw [List.cons_append, value_array fuel (by simpa using hs.head?_skipBlank_elements _),
      List.append_assoc, List.singleton_append, ih fuel rest hle]
    rfl
  | emptyObject hw =>
    intro fuel rest hfuel _
    obtain ⟨fuel, rfl, -⟩ := exists_fuel hfuel
    rw [List.cons_append, List.append_assoc]
    exact value_emptyObject fuel (skipBlank_append_cons hw rfl)
  | object hs ih =>
    intro fuel rest hfuel _
    obtain ⟨fuel, rfl, hle⟩ := exists_fuel hfuel
    rw [List.length_append, List.length_singleton] at hle
    rw [List.cons_append, value_object fuel (by simpa using hs.head?_skipBlank_members _),
      List.append_assoc, List.singleton_append, ih fuel rest hle, ← ofMembers_named]
    rfl
  | @element w s w' j hw hs hw' ih =>
    intro fuel rest hfuel hrest
    simp only [List.length_append] at hfuel
    refine ⟨w', hw', ?_⟩
    rw [List.append_assoc, List.append_assoc, value_append_of_blank fuel hw]
    exact ih fuel (w' ++ rest) (by omega) (hrest.follows hw')
  | lastElement hs ih =>
    intro fuel rest hfuel
    obtain ⟨fuel, rfl, hle⟩ := exists_fuel hfuel
    obtain ⟨w, hw, hread⟩ := ih fuel (']' :: rest) hle (closes_cons (by simp))
    exact items_last hw hread
  | @moreElements s r j xs hs hr ihs ihr =>
    intro fuel rest hfuel
    obtain ⟨fuel, rfl, hle⟩ := exists_fuel hfuel
    simp only [List.length_append, List.length_cons] at hle
    rw [List.append_assoc, List.cons_append]
    obtain ⟨w, hw, hread⟩ :=
      ihs fuel (',' :: (r ++ ']' :: rest)) (by omega) (closes_cons (by simp))
    exact items_more hw hread (ihr fuel rest (by omega))
  | @lastMember w k w' s cs j hw hk hw' hs ih =>
    intro fuel rest hfuel
    obtain ⟨fuel, rfl, hle⟩ := exists_fuel hfuel
    simp only [List.length_append, List.length_cons] at hle
    obtain ⟨w'', hw'', hread⟩ := ih fuel ('\x7d' :: rest) (by omega) (closes_cons (by simp))
    simp only [List.append_assoc, List.cons_append]
    exact members_last hw hk hw' hw'' hread
  | @moreMembers w k w' s r cs j ms hw hk hw' hs hr ihs ihr =>
    intro fuel rest hfuel
    obtain ⟨fuel, rfl, hle⟩ := exists_fuel hfuel
    simp only [List.length_append, List.length_cons] at hle
    obtain ⟨w'', hw'', hread⟩ :=
      ihs fuel (',' :: (r ++ '\x7d' :: rest)) (by omega) (closes_cons (by simp))
    simp only [List.append_assoc, List.cons_append]
    exact members_more hw hk hw' hw'' hread (ihr fuel rest (by omega))

/-! ## Documents -/

theorem read_of_isDocument {text : String} {j : Json} (h : IsDocument text j) :
    read text = some j := by
  have hlength : text.toList.length ≤ text.length + 1 := by
    rw [String.length_toList]
    omega
  obtain ⟨w, hw, hread⟩ := Writes.read h (text.length + 1) [] hlength (by simp [Closes])
  rw [List.append_nil, List.append_nil] at hread
  have hskip : skipBlank w = [] := by
    rw [← List.append_nil w, skipBlank_append hw]
    rfl
  simp [read, hread, hskip]

theorem IsDocument.unique {text : String} {j j' : Json} (h : IsDocument text j)
    (h' : IsDocument text j') : j = j' :=
  Option.some.inj ((read_of_isDocument h).symm.trans (read_of_isDocument h'))

end EnumFamily.Json
