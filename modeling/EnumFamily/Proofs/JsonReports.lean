import EnumFamily.Diagnostic
import EnumFamily.Proofs.JsonGrammar
import Mathlib.Data.List.Forall2

/-!
# Reports as JSON documents

`Json.render` writes a value with one item on a line. What it writes is a document of the
grammar, whatever characters the strings hold, provided that its numbers are numerals
(`Proper`); so it is read back as the value it was.

Results:
* `writesChar_escape`: each way to write a character is one of the grammar's.
* `isNumeral_toString`: so is the decimal form of a number, however large.
* `writes_chars`, `isDocument_render`: the indented text is a document with its value.
* `Report.json_read_back`: nothing is lost in a report: it shows its findings with all
  their fields, in order, and no others.
-/
namespace EnumFamily

namespace Json

/-! ## Strings -/

theorem isHexDigit_hexDigit {n : Nat} (hn : n < 16) : IsHexDigit (hexDigit n) n := by
  have hall : ∀ i : Fin 16, "0123456789abcdef".toList[i.val]? = some (hexDigit i.val) := by decide
  exact Or.inl (hall ⟨n, hn⟩)

/-- A control character by its number. -/
theorem writesChar_control {c : Char} (hc : c.toNat < 32) :
    WritesChar ['\\', 'u', '0', '0', hexDigit (c.toNat / 16), hexDigit (c.toNat % 16)] c := by
  have hzero : IsHexDigit '0' 0 := Or.inl rfl
  have hhex := IsHex4.mk hzero hzero (isHexDigit_hexDigit (n := c.toNat / 16) (by omega))
    (isHexDigit_hexDigit (n := c.toNat % 16) (by omega))
  have hvalue : 0 * 4096 + 0 * 256 + c.toNat / 16 * 16 + c.toNat % 16 = c.toNat := by omega
  rw [hvalue] at hhex
  have hunit := WritesChar.unit hhex (Or.inl (by omega))
  rwa [Char.ofNat_toNat] at hunit

theorem writesChar_escape (c : Char) : WritesChar (escape c) c := by
  unfold escape
  -- the seven characters that have a letter of their own
  iterate 7
    split
    · rename_i h
      subst h
      exact .letter (by decide)
  split
  · rename_i hcontrol
    exact writesChar_control hcontrol
  · rename_i hquote hslash _ _ _ _ _ hcontrol
    exact .plain hquote hslash (Nat.not_lt.mp hcontrol)

theorem writesText_escape (cs : List Char) : WritesText (cs.flatMap escape) cs := by
  induction cs with
  | nil => exact .nil
  | cons c cs ih => exact .cons (writesChar_escape c) ih

/-! ## Numerals -/

theorem areDigits_toDigits (n : Nat) : AreDigits (Nat.toDigits 10 n) where
  ne_nil := Nat.toDigits_ne_nil
  digit _ hc := Nat.isDigit_of_mem_toDigits (by decide) (by decide) hc

/-- Only zero begins with a zero. -/
theorem head?_toDigits {n : Nat} (hn : 0 < n) : (Nat.toDigits 10 n).head? ≠ some '0' := by
  induction n using Nat.strongRecOn with
  | ind n ih =>
    by_cases hlt : n < 10
    · have hall : ∀ i : Fin 10, 0 < i.val → i.val.digitChar ≠ '0' := by decide
      rw [Nat.toDigits_of_lt_base hlt]
      simpa using hall ⟨n, hlt⟩ hn
    · rw [Nat.toDigits_of_base_le (by decide) (by omega), List.head?_append,
        List.head?_eq_some_head Nat.toDigits_ne_nil, Option.some_or,
        ← List.head?_eq_some_head Nat.toDigits_ne_nil]
      exact ih (n / 10) (by omega) (by omega)

theorem isNumeral_toString (n : Nat) : IsNumeral (toString n).toList := by
  have hlist : (toString n).toList = [] ++ (Nat.toDigits 10 n ++ ([] ++ [])) := by
    simp only [List.nil_append, List.append_nil]
    exact Nat.toList_repr
  rw [hlist]
  refine .mk (Or.inl rfl) (areDigits_toDigits n) (fun hzero => ?_) .none .none
  rcases Nat.eq_zero_or_pos n with rfl | hn
  · rfl
  · exact absurd hzero (head?_toDigits hn)

/-! ## Values -/

/-- Every number in the value is a numeral. -/
inductive Proper : Json → Prop
  | null : Proper .null
  | bool (b : Bool) : Proper (.bool b)
  | number {n : String} : IsNumeral n.toList → Proper (.number n)
  | string (s : String) : Proper (.string s)
  | array {xs : List Json} : (∀ x ∈ xs, Proper x) → Proper (.array xs)
  | object {ms : List (String × Json)} : (∀ m ∈ ms, Proper m.2) → Proper (.object ms)

theorem proper_ofNat (n : Nat) : Proper (.ofNat n) := .number (isNumeral_toString n)

theorem proper_strings (xs : List String) : Proper (.strings xs) := by
  refine .array fun x hx => ?_
  obtain ⟨s, -, rfl⟩ := List.mem_map.mp hx
  exact .string s

theorem blank_nil : Blank [] := by simp [Blank]

theorem blank_newline (level : Nat) : Blank (newline level) := by
  intro c hc
  rcases List.mem_cons.mp hc with rfl | hc
  · rfl
  · rw [List.eq_of_mem_replicate hc]
    rfl

/-- Items of an array, if each of them is written as the grammar says. -/
theorem writes_charsItems {level : Nat} {w : List Char} (hw : Blank w) {x : Json} {xs : List Json}
    (h : ∀ y ∈ x :: xs, Writes (.value y) (chars level y)) :
    Writes (.elements (x :: xs))
      (newline level ++ (chars level x ++ (charsItems level xs ++ w))) := by
  induction xs generalizing x with
  | nil =>
    rw [charsItems, List.nil_append]
    exact .lastElement (.element (blank_newline level) (h x List.mem_cons_self) hw)
  | cons y ys ih =>
    obtain ⟨hx, hys⟩ := List.forall_mem_cons.mp h
    have hfirst := Writes.element (blank_newline level) hx blank_nil
    have hmore := Writes.moreElements hfirst (ih hys)
    simpa [charsItems] using hmore

theorem writes_charsMembers {level : Nat} {w : List Char} (hw : Blank w) {k : String} {v : Json}
    {ms : List (String × Json)} (h : ∀ m ∈ (k, v) :: ms, Writes (.value m.2) (chars level m.2)) :
    Writes (.members ((k, v) :: ms))
      (newline level ++ (quote k ++ (':' :: ' ' :: (chars level v ++
        (charsMembers level ms ++ w))))) := by
  have hspace : Blank [' '] := by simp [Blank, isBlank]
  induction ms generalizing k v with
  | nil =>
    have hvalue := Writes.element hspace (h (k, v) List.mem_cons_self) hw
    have hlast :=
      Writes.lastMember (blank_newline level) (writesText_escape k.toList) blank_nil hvalue
    simpa [charsMembers, quote] using hlast
  | cons m ms ih =>
    obtain ⟨hv, hms⟩ := List.forall_mem_cons.mp h
    have hvalue := Writes.element hspace hv blank_nil
    have hmore := Writes.moreMembers (blank_newline level) (writesText_escape k.toList) blank_nil
      hvalue (ih hms)
    simpa [charsMembers, quote] using hmore

/-- The indented text writes the value, at any depth. -/
theorem writes_chars {j : Json} (h : Proper j) (level : Nat) :
    Writes (.value j) (chars level j) := by
  induction h generalizing level with
  | null => exact .null
  | bool b =>
    cases b with
    | true => exact .boolTrue
    | false => exact .boolFalse
  | @number n hn =>
    have := Writes.number hn
    rwa [String.ofList_toList] at this
  | string s =>
    have := Writes.string (writesText_escape s.toList)
    rwa [String.ofList_toList] at this
  | @array xs _ ih =>
    cases xs with
    | nil => exact .emptyArray blank_nil
    | cons x xs =>
      have hitems := writes_charsItems (blank_newline level) fun y hy => ih y hy (level + 1)
      simpa [chars] using Writes.array hitems
  | @object ms _ ih =>
    cases ms with
    | nil => exact .emptyObject blank_nil
    | cons m ms =>
      have hmembers := writes_charsMembers (blank_newline level) fun m hm => ih m hm (level + 1)
      simpa [chars] using Writes.object hmembers

theorem isDocument_render {j : Json} (h : Proper j) : IsDocument (render j) j := by
  have := Writes.element blank_nil (writes_chars h 0) blank_nil
  simpa [IsDocument, render] using this

/-! ## Objects by their members -/

/-- The number that a value writes in decimal digits. -/
def IsNat (j : Json) (n : Nat) : Prop :=
  ∃ ds, j = .number (String.ofList ds) ∧ AreDigits ds ∧ Nat.ofDigitChars 10 ds 0 = n

theorem isNat_ofNat (n : Nat) : IsNat (.ofNat n) n :=
  ⟨Nat.toDigits 10 n, rfl, areDigits_toDigits n, Nat.ofDigitChars_ten_toDigits⟩

theorem IsNat.unique {j : Json} {m n : Nat} (h : j.IsNat m) (h' : j.IsNat n) : m = n := by
  obtain ⟨ds, rfl, -, rfl⟩ := h
  obtain ⟨ds', hds, -, rfl⟩ := h'
  rw [String.ofList_injective (Json.number.inj hds)]

/-- An object with exactly the given names, each once and in any order, whose values are as
asked for. -/
def IsObject (j : Json) (fields : List (String × (Json → Prop))) : Prop :=
  ∃ ms, j = .object ms ∧ (ms.map (·.1)).Perm (fields.map (·.1)) ∧
    ∀ f ∈ fields, ∃ v, ms.lookup f.1 = some v ∧ f.2 v

/-- Two descriptions of one object speak of the same value, where their fields have the same
name. -/
theorem IsObject.value {j : Json} {fields fields' : List (String × (Json → Prop))}
    (h : j.IsObject fields) (h' : j.IsObject fields') (i : Nat) {k : String} {p p' : Json → Prop}
    (hk : fields[i]? = some (k, p)) (hk' : fields'[i]? = some (k, p')) : ∃ v, p v ∧ p' v := by
  obtain ⟨ms, rfl, -, hfields⟩ := h
  obtain ⟨_, hms, -, hfields'⟩ := h'
  cases hms
  obtain ⟨v, hv, hp⟩ := hfields _ (List.mem_of_getElem? hk)
  obtain ⟨v', hv', hp'⟩ := hfields' _ (List.mem_of_getElem? hk')
  obtain rfl := Option.some.inj (hv.symm.trans hv')
  exact ⟨v, hp, hp'⟩

end Json

/-! ## Reports -/

namespace Diagnostic

/-- The value shows the finding: an object with its six fields. -/
def ShownAs (d : Diagnostic) (j : Json) : Prop :=
  j.IsObject
    [("file", (· = .string d.file)), ("line", (·.IsNat d.line)), ("unit", (· = .string d.unit)),
      ("prefix", (· = .string d.stem)), ("constants", (· = .array (d.constants.map .string))),
      ("message", (· = .string d.message))]

theorem shownAs_toJson (d : Diagnostic) : d.ShownAs d.toJson := by
  have hnames : ["constants", "file", "line", "message", "prefix", "unit"].Perm
      ["file", "line", "unit", "prefix", "constants", "message"] := by decide
  refine ⟨_, rfl, hnames, ?_⟩
  simp only [List.forall_mem_cons, List.not_mem_nil, false_implies, implies_true, and_true]
  exact ⟨⟨_, rfl, rfl⟩, ⟨_, rfl, Json.isNat_ofNat d.line⟩, ⟨_, rfl, rfl⟩, ⟨_, rfl, rfl⟩,
    ⟨_, rfl, rfl⟩, ⟨_, rfl, rfl⟩⟩

theorem proper_toJson (d : Diagnostic) : d.toJson.Proper := by
  refine .object ?_
  simp [Json.proper_ofNat, Json.proper_strings, Json.Proper.string]

/-- A value shows one finding. -/
theorem ShownAs.unique {d d' : Diagnostic} {j : Json} (h : d.ShownAs j) (h' : d'.ShownAs j) :
    d = d' := by
  obtain ⟨_, rfl, hfile⟩ := h.value h' 0 rfl rfl
  obtain ⟨_, hline, hline'⟩ := h.value h' 1 rfl rfl
  obtain ⟨_, rfl, hunit⟩ := h.value h' 2 rfl rfl
  obtain ⟨_, rfl, hstem⟩ := h.value h' 3 rfl rfl
  obtain ⟨_, rfl, hconstants⟩ := h.value h' 4 rfl rfl
  obtain ⟨_, rfl, hmessage⟩ := h.value h' 5 rfl rfl
  have hstring : Function.Injective Json.string := fun _ _ => Json.string.inj
  have hlists := List.map_injective_iff.mpr hstring (Json.array.inj hconstants)
  cases d
  cases d'
  rw [Diagnostic.mk.injEq]
  exact ⟨hstring hfile, hline.unique hline', hstring hunit, hstring hstem, hlists,
    hstring hmessage⟩

end Diagnostic

namespace Report

/-- The value shows the findings in order: an object with their number and the findings. -/
def ShownAs (ds : List Diagnostic) (j : Json) : Prop :=
  j.IsObject
    [("count", (·.IsNat ds.length)),
      ("diagnostics", fun v =>
        ∃ items, v = .array items ∧ List.Forall₂ Diagnostic.ShownAs ds items)]

theorem shownAs_document (ds : List Diagnostic) : ShownAs ds (document ds) := by
  refine ⟨_, rfl, .refl _, ?_⟩
  simp only [List.forall_mem_cons, List.not_mem_nil, false_implies, implies_true, and_true]
  refine ⟨⟨_, rfl, Json.isNat_ofNat ds.length⟩, _, rfl, _, rfl, ?_⟩
  exact List.forall₂_map_right_iff.mpr (List.forall₂_same.mpr fun d _ => d.shownAs_toJson)

theorem proper_document (ds : List Diagnostic) : (document ds).Proper := by
  refine .object ?_
  simp only [List.forall_mem_cons, List.not_mem_nil, false_implies, implies_true, and_true]
  refine ⟨Json.proper_ofNat _, .array fun x hx => ?_⟩
  obtain ⟨d, -, rfl⟩ := List.mem_map.mp hx
  exact d.proper_toJson

/-- A value shows one list of findings. -/
theorem ShownAs.unique {ds ds' : List Diagnostic} {j : Json} (h : ShownAs ds j)
    (h' : ShownAs ds' j) : ds = ds' := by
  obtain ⟨_, ⟨items, rfl, hitems⟩, _, hsame, hitems'⟩ := h.value h' 1 rfl rfl
  cases hsame
  have hone : Relator.LeftUnique Diagnostic.ShownAs := fun _ _ _ => Diagnostic.ShownAs.unique
  exact hone.forall₂ hitems hitems'

/-- **Nothing is lost in a report.** It is a JSON document, in one way, and it is read as
what it is a document of: the number of the findings and the findings with their six
fields, in order. No other findings are shown by that value, and none have the same
report. -/
theorem json_read_back (ds : List Diagnostic) :
    ∃ j, Json.IsDocument (json ds) j ∧ (∀ j', Json.IsDocument (json ds) j' → j' = j) ∧
      Json.read (json ds) = some j ∧
      ShownAs ds j ∧ (∀ ds', ShownAs ds' j → ds' = ds) ∧
      ∀ ds', json ds' = json ds → ds' = ds := by
  have hdocument := Json.isDocument_render (proper_document ds)
  have hshown := shownAs_document ds
  refine ⟨document ds, hdocument, fun j' h => h.unique hdocument,
    Json.read_of_isDocument hdocument, hshown, fun ds' h => h.unique hshown, fun ds' h => ?_⟩
  have hdocument' : Json.IsDocument (json ds) (document ds') :=
    h ▸ Json.isDocument_render (proper_document ds')
  have hshown' : ShownAs ds' (document ds) := hdocument'.unique hdocument ▸ shownAs_document ds'
  exact hshown'.unique hshown

end Report

end EnumFamily
