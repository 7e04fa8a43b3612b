import EnumFamily.Proofs.PathSegments

/-!
# Paths that agree

`SymbolPath.agree` compares two paths as texts: it drops leading separators, takes the
text of fewer bytes for the shorter path and looks for it at the end of the other one,
right behind a separator. Here this is told apart from the bytes (`agree_iff`) and then
from the characters: on parts without colons, agreeing is being a tail of the other
list (`agree_join_iff`).

Results:
* `agree_iff`: the order of the two paths and their lengths do not matter.
* `isTailOf_join_iff`: behind a separator stands the path of a proper tail of the parts,
  and nothing else.
* `agree_tails`: the laws of agreement.
-/
namespace EnumFamily.SymbolPath

/-! ## Leading separators -/

@[simp] theorem dropRoot_separator (s : List Char) : dropRoot (':' :: ':' :: s) = dropRoot s := by
  rw [dropRoot]

theorem dropRoot_of_head? {s : List Char} (h : s.head? ≠ some ':') : dropRoot s = s := by
  unfold dropRoot
  split
  · exact absurd rfl h
  · rfl

/-- A text with separators in front of it. -/
def rooted (k : Nat) (path : String) : String := String.join (List.replicate k "::") ++ path

theorem dropRoot_rooted (k : Nat) (path : String) :
    dropRoot (rooted k path).toList = dropRoot path.toList := by
  induction k with
  | zero => simp [rooted]
  | succ k ih =>
    have hlist : (rooted (k + 1) path).toList = ':' :: ':' :: (rooted k path).toList := by
      simp [rooted, List.replicate_succ]
    rw [hlist, dropRoot_separator, ih]

theorem agree_rooted (j k : Nat) (a b : String) :
    agree (rooted j a) (rooted k b) = agree a b := by
  unfold agree
  rw [dropRoot_rooted, dropRoot_rooted]

/-! ## Tails of a text -/

theorem isTailOf_iff {short long : List Char} :
    isTailOf short long = true ↔ ':' :: ':' :: short <:+ long :=
  List.isSuffixOf_iff_suffix

theorem byteLength_append (s t : List Char) :
    byteLength (s ++ t) = byteLength s + byteLength t := by
  induction s with
  | nil => simp [byteLength]
  | cons c s ih =>
    simp only [List.cons_append, byteLength, ih]
    omega

/-- A tail has fewer bytes, since two colons stand in front of it. -/
theorem byteLength_lt_of_isTailOf {short long : List Char} (h : isTailOf short long = true) :
    byteLength short < byteLength long := by
  obtain ⟨front, rfl⟩ := isTailOf_iff.mp h
  have hcolon := Char.utf8Size_pos ':'
  simp only [byteLength_append, byteLength]
  omega

/-- Which path is the shorter one need not be known. -/
theorem agree_iff {a b : String} :
    agree a b = true ↔ dropRoot a.toList = dropRoot b.toList ∨
      isTailOf (dropRoot a.toList) (dropRoot b.toList) = true ∨
      isTailOf (dropRoot b.toList) (dropRoot a.toList) = true := by
  simp only [agree, Bool.or_eq_true, beq_iff_eq]
  refine or_congr_right ?_
  split
  · rename_i hlt
    refine (or_iff_left fun h => ?_).symm
    have := byteLength_lt_of_isTailOf h
    omega
  · rename_i hle
    refine (or_iff_right fun h => ?_).symm
    exact hle (byteLength_lt_of_isTailOf h)

theorem agree_self (a : String) : agree a a = true := agree_iff.mpr (Or.inl rfl)

theorem agree_comm (a b : String) : agree a b = agree b a := by
  rw [Bool.eq_iff_iff, agree_iff, agree_iff, eq_comm, or_comm (a := isTailOf _ _ = true)]

/-! ## Tails of a list of parts -/

/-- The parts that make up a path: none of them is empty or holds a colon. -/
structure ArePathParts (parts : List String) : Prop where
  ne_nil : parts ≠ []
  ne_empty : ∀ p ∈ parts, p ≠ ""
  no_colon : ∀ p ∈ parts, ':' ∉ p.toList

instance (parts : List String) : Decidable (ArePathParts parts) :=
  decidable_of_iff (parts ≠ [] ∧ (∀ p ∈ parts, p ≠ "") ∧ ∀ p ∈ parts, ':' ∉ p.toList)
    ⟨fun ⟨h₁, h₂, h₃⟩ => ⟨h₁, h₂, h₃⟩, fun ⟨h₁, h₂, h₃⟩ => ⟨h₁, h₂, h₃⟩⟩

theorem ArePathParts.tail {p q : String} {parts : List String}
    (h : ArePathParts (p :: q :: parts)) : ArePathParts (q :: parts) where
  ne_nil := List.cons_ne_nil q parts
  ne_empty r hr := h.ne_empty r (List.mem_cons_of_mem p hr)
  no_colon r hr := h.no_colon r (List.mem_cons_of_mem p hr)

/-- A path made of parts does not begin with a colon. -/
theorem ArePathParts.head?_join {parts : List String} (h : ArePathParts parts) :
    (join parts).toList.head? ≠ some ':' := by
  obtain ⟨p, rest, rfl⟩ := List.exists_cons_of_ne_nil h.ne_nil
  have hne : p.toList ≠ [] := fun hp =>
    h.ne_empty p List.mem_cons_self (String.toList_eq_nil_iff.mp hp)
  have hhead : (join (p :: rest)).toList.head? = p.toList.head? := by
    cases rest with
    | nil => rw [join, String.intercalate_singleton]
    | cons q rest =>
      rw [toList_join_cons, List.head?_append, List.head?_eq_some_head hne, Option.some_or]
  rw [hhead]
  intro hcolon
  exact h.no_colon p List.mem_cons_self (List.mem_of_head? hcolon)

theorem ArePathParts.join_inj {a b : List String} (ha : ArePathParts a) (hb : ArePathParts b)
    (h : (join a).toList = (join b).toList) : a = b := by
  have hcut := congrArg cut h
  rw [cut_join ha.no_colon ha.ne_nil, cut_join hb.no_colon hb.ne_nil] at hcut
  exact (List.map_inj_right fun _ _ => String.toList_inj.mp).mp hcut

/-- What stands behind a separator at the end of `p::rest` begins at the first separator or
later, since there is no colon before it. -/
theorem separator_suffix {p rest s : List Char} (hp : ':' ∉ p) (hrest : rest.head? ≠ some ':')
    (h : ':' :: ':' :: s <:+ p ++ ':' :: ':' :: rest) : s = rest ∨ ':' :: ':' :: s <:+ rest := by
  induction p with
  | nil =>
    rcases List.suffix_cons_iff.mp h with heq | h
    · simp only [List.cons.injEq, true_and] at heq
      exact Or.inl heq
    rcases List.suffix_cons_iff.mp h with heq | h
    · -- three colons in a row, the last of which would begin `rest`
      simp only [List.cons.injEq, true_and] at heq
      exact absurd (heq ▸ rfl) hrest
    · exact Or.inr h
  | cons c p ih =>
    obtain ⟨hc, hp⟩ := not_or.mp fun hin => hp (List.mem_cons.mpr hin)
    rcases List.suffix_cons_iff.mp h with heq | h
    · exact absurd (List.cons.inj heq).1 hc
    · exact ih hp h

theorem isTailOf_join_iff {a b : List String} (ha : ArePathParts a) (hb : ArePathParts b) :
    isTailOf (join a).toList (join b).toList = true ↔ ∃ front, front ≠ [] ∧ b = front ++ a := by
  rw [isTailOf_iff]
  constructor
  · intro h
    obtain ⟨p, rest, rfl⟩ := List.exists_cons_of_ne_nil hb.ne_nil
    induction rest generalizing p with
    | nil =>
      have hsingle : join [p] = p := String.intercalate_singleton
      rw [hsingle] at h
      exact absurd (h.subset List.mem_cons_self) (hb.no_colon p List.mem_cons_self)
    | cons q rest ih =>
      rw [toList_join_cons] at h
      rcases separator_suffix (hb.no_colon p List.mem_cons_self) hb.tail.head?_join h with heq | h
      · exact ⟨[p], List.cons_ne_nil p [], congrArg (p :: ·) (ha.join_inj hb.tail heq).symm⟩
      · obtain ⟨front, -, heq⟩ := ih q hb.tail h
        exact ⟨p :: front, List.cons_ne_nil p front, congrArg (p :: ·) heq⟩
  · rintro ⟨front, hfront, rfl⟩
    refine ⟨(join front).toList, ?_⟩
    unfold join
    rw [String.intercalate_append_of_ne_nil hfront ha.ne_nil]
    simp

theorem agree_join_iff {a b : List String} (ha : ArePathParts a) (hb : ArePathParts b) :
    agree (join a) (join b) = true ↔ a <:+ b ∨ b <:+ a := by
  rw [agree_iff, dropRoot_of_head? ha.head?_join, dropRoot_of_head? hb.head?_join,
    isTailOf_join_iff ha hb, isTailOf_join_iff hb ha]
  constructor
  · rintro (heq | ⟨front, -, rfl⟩ | ⟨front, -, rfl⟩)
    · exact Or.inl (ha.join_inj hb heq ▸ List.suffix_rfl)
    · exact Or.inl (List.suffix_append front a)
    · exact Or.inr (List.suffix_append front b)
  · rintro (⟨front, rfl⟩ | ⟨front, rfl⟩)
    · rcases List.eq_nil_or_concat front with rfl | ⟨init, last, rfl⟩
      · exact Or.inl rfl
      · exact Or.inr (Or.inl ⟨_, by simp, rfl⟩)
    · rcases List.eq_nil_or_concat front with rfl | ⟨init, last, rfl⟩
      · exact Or.inl rfl
      · exact Or.inr (Or.inr ⟨_, by simp, rfl⟩)

/-- Read from the end, a list and its tail have the same entries as long as both have some. -/
theorem getElem?_reverse_of_suffix {a b : List String} (h : a <:+ b) {i : Nat}
    (hi : i < a.length) : a.reverse[i]? = b.reverse[i]? := by
  have hi' : i < a.reverse.length := by simpa using hi
  rw [List.getElem?_eq_getElem hi']
  exact (List.prefix_iff_getElem?.mp (List.reverse_prefix.mpr h) i hi').symm

/-- **Agreement.** Every path agrees with itself, agreement is mutual, and separators in
front of a path do not matter. Paths of parts without colons agree exactly if the parts of
one are a tail of the parts of the other; so parts are compared whole, from the last one
on, and paths of equally many parts agree only if they are the same. -/
theorem agree_tails :
    (∀ a, agree a a = true) ∧ (∀ a b, agree a b = agree b a) ∧
    (∀ j k a b, agree (rooted j a) (rooted k b) = agree a b) ∧
    ∀ a b, ArePathParts a → ArePathParts b →
      (agree (join a) (join b) = true ↔ a <:+ b ∨ b <:+ a) ∧
      (agree (join a) (join b) = true →
        ∀ i, i < a.length → i < b.length → a.reverse[i]? = b.reverse[i]?) ∧
      (agree (join a) (join b) = true → a.length = b.length → a = b) := by
  refine ⟨agree_self, agree_comm, agree_rooted, fun a b ha hb => ?_⟩
  have hiff := agree_join_iff ha hb
  refine ⟨hiff, fun h i hia hib => ?_, fun h hlength => ?_⟩
  · rcases hiff.mp h with hs | hs
    · exact getElem?_reverse_of_suffix hs hia
    · exact (getElem?_reverse_of_suffix hs hib).symm
  · rcases hiff.mp h with hs | hs
    · exact hs.eq_of_length hlength
    · exact (hs.eq_of_length hlength.symm).symm

/-- `Entity` is a tail of `crate::model::Entity`, but not of `model::BaseEntity`, though it
ends the text. -/
theorem entity_tails :
    ArePathParts ["Entity"] ∧ ArePathParts ["crate", "model", "Entity"] ∧
      ArePathParts ["model", "BaseEntity"] ∧
      agree "Entity" "crate::model::Entity" = true ∧
      agree "Entity" "model::BaseEntity" = false := by
  have hentity : ArePathParts ["Entity"] := by decide
  have hmodel : ArePathParts ["crate", "model", "Entity"] := by decide
  have hbase : ArePathParts ["model", "BaseEntity"] := by decide
  refine ⟨hentity, hmodel, hbase, ?_, ?_⟩
  · exact ((agree_tails.2.2.2 _ _ hentity hmodel).1.mpr (Or.inl (by decide)))
  · rw [← Bool.not_eq_true]
    intro h
    exact absurd ((agree_tails.2.2.2 _ _ hentity hbase).1.mp h) (by decide)

end EnumFamily.SymbolPath
