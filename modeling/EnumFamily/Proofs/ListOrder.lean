import Mathlib.Data.List.Induction

/-!
# Order in lists

Reports are sorted by a key that several entries may share. `StableSort le l s`
says that `s` is `l` in the order of `le`, with tied entries as they stood in
`l`; it names no algorithm.

Results:
* `nodup_eraseDups`: a list of first appearances holds each entry once.
* `firstAppearances_eraseDups`: these are the entries of a list in the order in which
  they first appear.
* `filter_tag_flatMap`, `group_together`: groups written one after the other can
  be told apart by their tags.
* `groups_perm`: grouping a list by a key loses and repeats nothing.
* `upsert_eraseDups`: a table with one entry for each key, in order of first
  appearance, stays such a table when the entry of a key is changed or made.
* `lookup_enter`: what stands in a table under a key after one entry is changed or made.
* `StableSort.unique`: a list has only one stable sort.
* `stableSort_mergeSort`: `List.mergeSort` gives it.
* `mergeSort_filter`: leaving entries out before or after the sort is the same.
* `StableSort.block_together`: tied entries that stood together still do.
-/
namespace EnumFamily

variable {α : Type}

theorem nodup_eraseDups [BEq α] [LawfulBEq α] : ∀ l : List α, l.eraseDups.Nodup
  | [] => by simp
  | a :: l => by
    rw [List.eraseDups_cons, List.nodup_cons]
    refine ⟨?_, nodup_eraseDups _⟩
    simp [List.mem_eraseDups]
termination_by l => l.length
decreasing_by
  have := List.length_filter_le (fun b => !b == a) l
  simp only [List.length_cons]
  omega

theorem lookup_cons_of_ne {β : Type} [BEq α] [LawfulBEq α] {a k : α} (h : a ≠ k) (b : β)
    (l : List (α × β)) : ((k, b) :: l).lookup a = l.lookup a := by
  rw [List.lookup_cons, beq_eq_false_iff_ne.mpr h]

/-! ## First appearances -/

/-- `s` holds the entries of `l`, in the order in which they first appear there. -/
structure FirstAppearances [BEq α] (l s : List α) : Prop where
  mem_iff : ∀ a, a ∈ s ↔ a ∈ l
  order : s.Pairwise fun a b => l.idxOf a < l.idxOf b

section
variable [BEq α]

theorem FirstAppearances.nodup {l s : List α} (h : FirstAppearances l s) : s.Nodup := by
  refine h.order.imp ?_
  rintro a b hlt rfl
  exact Nat.lt_irrefl _ hlt

variable [LawfulBEq α]

theorem eraseDups_concat (l : List α) (a : α) :
    (l ++ [a]).eraseDups = if a ∈ l then l.eraseDups else l.eraseDups ++ [a] := by
  rw [List.eraseDups_append]
  by_cases h : a ∈ l
  · simp [List.removeAll, h]
  · simp [List.removeAll, h, List.eraseDups_cons]

theorem eraseDups_of_nodup {l : List α} (h : l.Nodup) : l.eraseDups = l := by
  induction l with
  | nil => rfl
  | cons a l ih =>
    obtain ⟨ha, hl⟩ := List.nodup_cons.mp h
    have hkeep : l.filter (fun b => !b == a) = l := by
      refine List.filter_eq_self.mpr fun b hb => ?_
      have hne : b ≠ a := fun heq => ha (heq ▸ hb)
      simp [hne]
    rw [List.eraseDups_cons, hkeep, ih hl]

/-- One entry more is new, and then it comes last, or changes nothing. -/
theorem FirstAppearances.concat {l s : List α} (h : FirstAppearances l s) (a : α) :
    FirstAppearances (l ++ [a]) (if a ∈ l then s else s ++ [a]) where
  mem_iff b := by
    split
    · rename_i ha
      simp only [h.mem_iff, List.mem_append, List.mem_singleton, iff_self_or]
      rintro rfl
      exact ha
    · simp [h.mem_iff]
  order := by
    have hold : s.Pairwise fun b c => (l ++ [a]).idxOf b < (l ++ [a]).idxOf c := by
      refine h.order.imp_of_mem fun {b c} hb hc hlt => ?_
      rw [List.idxOf_append, List.idxOf_append, if_pos ((h.mem_iff b).mp hb),
        if_pos ((h.mem_iff c).mp hc)]
      exact hlt
    split
    · exact hold
    · rename_i ha
      refine List.pairwise_append.mpr ⟨hold, List.pairwise_singleton _ _, fun b hb c hc => ?_⟩
      have hb := (h.mem_iff b).mp hb
      rw [List.mem_singleton.mp hc, List.idxOf_append, List.idxOf_append, if_pos hb, if_neg ha]
      have hlt := List.idxOf_lt_length_iff.mpr hb
      omega

theorem firstAppearances_eraseDups (l : List α) : FirstAppearances l l.eraseDups := by
  induction l using List.reverseRecOn with
  | nil => exact ⟨by simp, by simp⟩
  | append_singleton l a ih =>
    rw [eraseDups_concat]
    exact ih.concat a

end

/-! ## Groups one after the other -/

/-- Among groups with distinct tags, the entries of one tag are its group. -/
theorem filter_tag_flatMap {β : Type} [DecidableEq α] (tag : β → α) {group : α → List β}
    (hgroup : ∀ a, ∀ b ∈ group a, tag b = a) {l : List α} (hl : l.Nodup) (a : α) :
    (l.flatMap group).filter (tag · == a) = if a ∈ l then group a else [] := by
  induction l with
  | nil => rfl
  | cons x l ih =>
    obtain ⟨hx, hl⟩ := List.nodup_cons.mp hl
    rw [List.flatMap_cons, List.filter_append, ih hl]
    by_cases hxa : x = a
    · subst hxa
      have hall : (group x).filter (tag · == x) = group x :=
        List.filter_eq_self.mpr fun b hb => by simp [hgroup x b hb]
      rw [hall, if_neg hx, if_pos List.mem_cons_self, List.append_nil]
    · have hnone : (group x).filter (tag · == a) = [] :=
        List.filter_eq_nil_iff.mpr fun b hb => by simp [hgroup x b hb, hxa]
      have hmem : a ∈ x :: l ↔ a ∈ l := by simp [Ne.symm hxa]
      rw [hnone, List.nil_append]
      simp only [hmem]

/-- Groups by a key that takes no other value than those listed are the whole list. -/
theorem groups_perm {β : Type} [DecidableEq α] (key : β → α) {keys : List α} (hkeys : keys.Nodup)
    {l : List β} (hl : ∀ b ∈ l, key b ∈ keys) :
    (keys.flatMap fun k => l.filter (key · == k)).Perm l := by
  induction keys generalizing l with
  | nil =>
    have : l = [] := List.eq_nil_iff_forall_not_mem.mpr fun b hb => List.not_mem_nil (hl b hb)
    subst this
    exact .nil
  | cons k keys ih =>
    obtain ⟨hk, hkeys⟩ := List.nodup_cons.mp hkeys
    have hrest := ih hkeys (l := l.filter (!key · == k)) fun b hb => by
      obtain ⟨hb, hne⟩ := List.mem_filter.mp hb
      refine (List.mem_cons.mp (hl b hb)).resolve_left fun h => ?_
      simp [h] at hne
    -- the groups of the other keys do not notice that the first one is gone
    have hsame : (keys.flatMap fun k' => l.filter (key · == k')) =
        keys.flatMap fun k' => (l.filter (!key · == k)).filter (key · == k') := by
      refine congrArg List.flatten (List.map_congr_left fun k' hk' => ?_)
      rw [List.filter_filter]
      refine List.filter_congr fun b _ => ?_
      by_cases h : key b = k'
      · have : k' ≠ k := fun h' => hk (h' ▸ hk')
        simp [h, this]
      · simp [h]
    rw [List.flatMap_cons, hsame]
    exact (hrest.append_left _).trans (List.filter_append_perm (key · == k) l)

theorem group_together {β : Type} (group : α → List β) {l : List α} {a : α} (ha : a ∈ l) :
    group a <:+: l.flatMap group := by
  obtain ⟨l₁, l₂, rfl⟩ := List.append_of_mem ha
  rw [List.flatMap_append, List.flatMap_cons, ← List.append_assoc]
  exact List.infix_append _ _ _

/-- Entries whose groups are empty may be left out before the groups are taken. -/
theorem flatMap_filter_map {β γ : Type} {keep : α → Bool} {f : α → β} {group : α → List γ}
    {group' : β → List γ} {l : List α} (hkeep : ∀ a ∈ l, keep a = true → group' (f a) = group a)
    (hdrop : ∀ a ∈ l, keep a = false → group a = []) :
    ((l.filter keep).map f).flatMap group' = l.flatMap group := by
  induction l with
  | nil => rfl
  | cons a l ih =>
    rw [List.forall_mem_cons] at hkeep hdrop
    rw [List.flatMap_cons, ← ih hkeep.2 hdrop.2, List.filter_cons]
    cases hk : keep a with
    | true => simp [hkeep.1 hk]
    | false => simp [hdrop.1 hk]

/-! ## Changing the entry of a key -/

/-- Changes the entry with the key of `fresh`, or `fresh` itself put at the end if
there is none. -/
def upsert {β : Type} [DecidableEq α] (key : β → α) (fresh : β) (f : β → β) : List β → List β
  | [] => [f fresh]
  | b :: bs => if key b = key fresh then f b :: bs else b :: upsert key fresh f bs

section
variable {β : Type} [DecidableEq α] {key : β → α} {fresh : β} {f : β → β} {entry entry' : α → β}
  (hentry : ∀ a, key (entry a) = a)
include hentry

theorem upsert_of_not_mem {keys : List α} (h : key fresh ∉ keys) :
    upsert key fresh f (keys.map entry) = keys.map entry ++ [f fresh] := by
  induction keys with
  | nil => rfl
  | cons a keys ih =>
    obtain ⟨hne, hrest⟩ := not_or.mp (fun h' => h (List.mem_cons.mpr h'))
    rw [List.map_cons, upsert, hentry, if_neg (Ne.symm hne), ih hrest]
    rfl

theorem upsert_of_mem {keys : List α} (hnodup : keys.Nodup) (h : key fresh ∈ keys)
    (hother : ∀ a ∈ keys, a ≠ key fresh → entry' a = entry a)
    (hchanged : entry' (key fresh) = f (entry (key fresh))) :
    upsert key fresh f (keys.map entry) = keys.map entry' := by
  induction keys with
  | nil => exact absurd h List.not_mem_nil
  | cons a keys ih =>
    obtain ⟨ha, hnodup⟩ := List.nodup_cons.mp hnodup
    obtain ⟨hhead, hother⟩ := List.forall_mem_cons.mp hother
    rw [List.map_cons, upsert, hentry, List.map_cons]
    by_cases hkey : a = key fresh
    · rw [if_pos hkey, hkey, hchanged]
      congr 1
      refine List.map_congr_left fun b hb => (hother b hb fun hb' => ?_).symm
      exact ha (hkey ▸ hb' ▸ hb)
    · have hmem := (List.mem_cons.mp h).resolve_left (Ne.symm hkey)
      rw [if_neg hkey, hhead hkey, ih hnodup hmem hother]

/-- In a table by first appearance, changing the entry of a key is the same as
letting the key appear once more. -/
theorem upsert_eraseDups [BEq α] [LawfulBEq α] {ks : List α}
    (hother : ∀ a ∈ ks, a ≠ key fresh → entry' a = entry a)
    (hchanged : key fresh ∈ ks → entry' (key fresh) = f (entry (key fresh)))
    (hmade : key fresh ∉ ks → entry' (key fresh) = f fresh) :
    upsert key fresh f (ks.eraseDups.map entry) = (ks ++ [key fresh]).eraseDups.map entry' := by
  have hother' : ∀ a ∈ ks.eraseDups, a ≠ key fresh → entry' a = entry a :=
    fun a ha => hother a (List.mem_eraseDups.mp ha)
  rw [eraseDups_concat]
  by_cases h : key fresh ∈ ks
  · rw [if_pos h]
    exact upsert_of_mem hentry (nodup_eraseDups ks) (List.mem_eraseDups.mpr h) hother' (hchanged h)
  · have hnot : key fresh ∉ ks.eraseDups := fun h' => h (List.mem_eraseDups.mp h')
    rw [if_neg h, upsert_of_not_mem hentry hnot, List.map_append]
    congr 1
    · refine List.map_congr_left fun a ha => (hother' a ha fun ha' => ?_).symm
      exact hnot (ha' ▸ ha)
    · rw [List.map_singleton, hmade h]

end

/-- Changes what stands under a key in a table, or `fresh` if nothing does. -/
def enter {β : Type} [DecidableEq α] (k : α) (fresh : β) (f : β → β) :
    List (α × β) → List (α × β) :=
  upsert Prod.fst (k, fresh) fun e => (e.1, f e.2)

theorem lookup_enter {β : Type} [DecidableEq α] (k : α) (fresh : β) (f : β → β)
    (l : List (α × β)) (a : α) :
    (enter k fresh f l).lookup a =
      if a = k then some (f ((l.lookup k).getD fresh)) else l.lookup a := by
  unfold enter
  induction l with
  | nil =>
    by_cases ha : a = k
    · simp [upsert, ha]
    · simp [upsert, ha, lookup_cons_of_ne ha]
  | cons e l ih =>
    obtain ⟨n, b⟩ := e
    rw [upsert]
    by_cases hn : n = k
    · subst hn
      by_cases ha : a = n
      · simp [ha]
      · simp [ha, lookup_cons_of_ne ha]
    · rw [if_neg hn, lookup_cons_of_ne (Ne.symm hn)]
      by_cases ha : a = n
      · simp [ha, hn]
      · rw [lookup_cons_of_ne ha, lookup_cons_of_ne ha, ih]

/-! ## Stable sorts -/

/-- A preorder in which any two entries can be compared. -/
structure IsTotalPreorder (le : α → α → Bool) : Prop where
  trans : ∀ a b c, le a b = true → le b c = true → le a c = true
  total : ∀ a b, (le a b || le b a) = true

/-- Neither of the two has to come before the other. -/
def tied (le : α → α → Bool) (a b : α) : Bool := le a b && le b a

structure StableSort (le : α → α → Bool) (l s : List α) : Prop where
  perm : s.Perm l
  sorted : s.Pairwise fun a b => le a b = true
  ties : ∀ x, s.filter (tied le x) = l.filter (tied le x)

section
variable {le : α → α → Bool} (hle : IsTotalPreorder le)
include hle

theorem le_refl_of_total (a : α) : le a a = true := by
  simpa using hle.total a a

theorem tied_self (a : α) : tied le a a = true := by
  simp [tied, le_refl_of_total hle a]

theorem tied_trans {a b c : α} (h : tied le a b = true) (h' : tied le a c = true) :
    le b c = true := by
  simp only [tied, Bool.and_eq_true] at h h'
  exact hle.trans _ _ _ h.2 h'.1

/-! ## One stable sort for each list -/

/-- The head of a sorted list comes before any of its entries. -/
theorem head_le_of_mem {a b : α} {s : List α} (hs : (b :: s).Pairwise fun a b => le a b = true)
    (ha : a ∈ b :: s) : le b a = true := by
  rcases List.mem_cons.mp ha with rfl | ha
  · exact le_refl_of_total hle a
  · exact List.rel_of_pairwise_cons hs ha

theorem mem_of_ties {a : α} {s s' : List α} (h : s.filter (tied le a) = s'.filter (tied le a))
    (ha : a ∈ s) : a ∈ s' := by
  have : a ∈ s'.filter (tied le a) := h ▸ List.mem_filter.mpr ⟨ha, tied_self hle a⟩
  exact (List.mem_filter.mp this).1

/-- A sorted list is determined by its groups of tied entries. -/
theorem eq_of_sorted_of_ties {s s' : List α} (hs : s.Pairwise fun a b => le a b = true)
    (hs' : s'.Pairwise fun a b => le a b = true)
    (h : ∀ x, s.filter (tied le x) = s'.filter (tied le x)) : s = s' := by
  induction s generalizing s' with
  | nil =>
    cases s' with
    | nil => rfl
    | cons b s' => exact absurd (mem_of_ties hle (h b).symm List.mem_cons_self) List.not_mem_nil
  | cons a s ih =>
    cases s' with
    | nil => exact absurd (mem_of_ties hle (h a) List.mem_cons_self) List.not_mem_nil
    | cons b s' =>
      -- each head is in the other list, so the heads are tied and lead the same group
      have hba : le b a = true := head_le_of_mem hle hs' (mem_of_ties hle (h a) List.mem_cons_self)
      have hab : le a b = true :=
        head_le_of_mem hle hs (mem_of_ties hle (h b).symm List.mem_cons_self)
      have htie : tied le a b = true := by simp [tied, hab, hba]
      have hgroup := h a
      rw [List.filter_cons_of_pos (tied_self hle a), List.filter_cons_of_pos htie] at hgroup
      obtain ⟨rfl, -⟩ := List.cons.inj hgroup
      have htail : ∀ x, s.filter (tied le x) = s'.filter (tied le x) := by
        intro x
        have hx := h x
        by_cases hxa : tied le x a = true
        · rw [List.filter_cons_of_pos hxa, List.filter_cons_of_pos hxa] at hx
          exact (List.cons.inj hx).2
        · rwa [List.filter_cons_of_neg hxa, List.filter_cons_of_neg hxa] at hx
      rw [ih (List.Pairwise.of_cons hs) (List.Pairwise.of_cons hs') htail]

theorem StableSort.unique {l s s' : List α} (h : StableSort le l s) (h' : StableSort le l s') :
    s = s' :=
  eq_of_sorted_of_ties hle h.sorted h'.sorted fun x => (h.ties x).trans (h'.ties x).symm

/-! ## Merge sort -/

/-- A group of tied entries is sorted as it stands, so merge sort keeps it. -/
theorem filter_tied_mergeSort (l : List α) (x : α) :
    (l.mergeSort le).filter (tied le x) = l.filter (tied le x) := by
  have hsorted : (l.filter (tied le x)).Pairwise fun a b => le a b = true := by
    refine List.Pairwise.imp_of_mem ?_ (List.pairwise_of_forall (fun _ _ => trivial) : List.Pairwise
      (fun _ _ => True) _)
    intro a b ha hb _
    exact tied_trans hle (List.mem_filter.mp ha).2 (List.mem_filter.mp hb).2
  have hsub : (l.filter (tied le x)).Sublist ((l.mergeSort le).filter (tied le x)) := by
    have := (List.sublist_mergeSort hle.trans hle.total hsorted List.filter_sublist).filter
      (tied le x)
    simpa only [List.filter_filter, Bool.and_self] using this
  have hlen := ((List.mergeSort_perm l le).filter (tied le x)).length_eq
  exact (hsub.eq_of_length hlen.symm).symm

theorem stableSort_mergeSort (l : List α) : StableSort le l (l.mergeSort le) where
  perm := List.mergeSort_perm l le
  sorted := List.pairwise_mergeSort hle.trans hle.total l
  ties := filter_tied_mergeSort hle l

omit hle in
theorem StableSort.filter {l s : List α} (h : StableSort le l s) (p : α → Bool) :
    StableSort le (l.filter p) (s.filter p) where
  perm := h.perm.filter p
  sorted := h.sorted.sublist List.filter_sublist
  ties x := by
    have := congrArg (List.filter p) (h.ties x)
    simp only [List.filter_filter] at this ⊢
    simpa only [Bool.and_comm] using this

theorem mergeSort_filter (l : List α) (p : α → Bool) :
    (l.filter p).mergeSort le = (l.mergeSort le).filter p :=
  (stableSort_mergeSort hle _).unique hle ((stableSort_mergeSort hle l).filter p)

/-! ## Blocks -/

/-- The entries tied with a lower bound of a sorted list are its first ones. -/
theorem filter_tied_first {s : List α} (hs : s.Pairwise fun a b => le a b = true) {x : α}
    (hx : ∀ a ∈ s, le x a = true) : s.filter (tied le x) <+: s := by
  induction s with
  | nil => exact List.prefix_rfl
  | cons a s ih =>
    by_cases hxa : tied le x a = true
    · rw [List.filter_cons_of_pos hxa]
      have ih := ih (List.Pairwise.of_cons hs) fun b hb => hx b (List.mem_cons_of_mem a hb)
      exact (List.prefix_cons_inj a).mpr ih
    · -- `a` is above `x`, and so is all that follows
      have hnone : ∀ b ∈ a :: s, ¬ tied le x b = true := by
        intro b hb hxb
        apply hxa
        simp only [tied, Bool.and_eq_true] at hxb ⊢
        exact ⟨hx a List.mem_cons_self, hle.trans _ _ _ (head_le_of_mem hle hs hb) hxb.2⟩
      rw [List.filter_eq_nil_iff.mpr hnone]
      exact List.nil_prefix

/-- In a sorted list a group of tied entries stands together. -/
theorem filter_tied_together {s : List α} (hs : s.Pairwise fun a b => le a b = true) (x : α) :
    s.filter (tied le x) <:+: s := by
  induction s with
  | nil => exact List.infix_rfl
  | cons a s ih =>
    by_cases hxa : tied le x a = true
    · have hlow : ∀ b ∈ a :: s, le x b = true := by
        intro b hb
        simp only [tied, Bool.and_eq_true] at hxa
        exact hle.trans _ _ _ hxa.1 (head_le_of_mem hle hs hb)
      exact (filter_tied_first hle hs hlow).isInfix
    · rw [List.filter_cons_of_neg hxa]
      exact (ih (List.Pairwise.of_cons hs)).trans (List.suffix_cons a s).isInfix

omit hle in
/-- A choice among tied entries comes out of the sort as it went in. -/
theorem StableSort.filter_eq_of_tied {l s : List α} (h : StableSort le l s) {p : α → Bool} {x : α}
    (hp : ∀ a ∈ l, p a = true → tied le x a = true) : s.filter p = l.filter p := by
  have hcut : ∀ r : List α, (∀ a ∈ r, p a = true → tied le x a = true) →
      (r.filter (tied le x)).filter p = r.filter p := by
    intro r hr
    rw [List.filter_filter]
    refine List.filter_congr fun a ha => ?_
    cases hpa : p a
    · rfl
    · rw [hr a ha hpa, Bool.and_self]
  rw [← hcut s fun a ha => hp a (h.perm.mem_iff.mp ha), h.ties x, hcut l hp]

theorem StableSort.block_together {l s block : List α} (h : StableSort le l s) {x : α}
    (hblock : block <:+: l) (hx : ∀ a ∈ block, tied le x a = true) : block <:+: s := by
  have hin : block <:+: s.filter (tied le x) := by
    rw [h.ties x, ← List.filter_eq_self.mpr hx]
    exact hblock.filter (tied le x)
  exact hin.trans (filter_tied_together hle h.sorted x)

end

end EnumFamily
