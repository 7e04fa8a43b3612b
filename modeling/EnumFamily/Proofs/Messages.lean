import Mathlib.Data.List.Nodup
import EnumFamily.Rule
import EnumFamily.Proofs.Clustering

/-!
# The messages of findings

A message is a template with the names of a family in place of its marker, `", "`
between them. Names may hold the marker, commas and blanks; as long as they hold no
double quote, the quotes of the message are those around the names, and the names can be
read back.

Results:
* `toList_messageFor`: only the marker of the template is replaced.
* `messageFor_inj`: the message determines the names.
* `messages_distinct`: so the messages of a unit are distinct.
-/
namespace EnumFamily

namespace Cluster

/-! ## Reading names back -/

theorem toList_messageFor (names : List String) :
    (messageFor names).toList =
      "Constants \"".toList ++ ((String.intercalate "\", \"" names).toList ++
        "\" should be extracted to standalone enum class".toList) := by
  rw [messageFor, String.toList_ofList]
  rfl

theorem toList_joined (x y : String) (names : List String) :
    (String.intercalate "\", \"" (x :: y :: names)).toList =
      x.toList ++ '"' :: ", \"".toList ++ (String.intercalate "\", \"" (y :: names)).toList := by
  simp [String.intercalate_cons_cons]

/-- No name holds a double quote. -/
def QuoteFree (names : List String) : Prop := ∀ name ∈ names, '"' ∉ name.toList

instance (names : List String) : Decidable (QuoteFree names) :=
  inferInstanceAs (Decidable (∀ name ∈ names, '"' ∉ name.toList))

/-- The first quote ends what holds none. -/
theorem quote_inj {s t r r' : List Char} (hs : '"' ∉ s) (ht : '"' ∉ t)
    (h : s ++ '"' :: r = t ++ '"' :: r') : s = t ∧ r = r' := by
  induction s generalizing t with
  | nil =>
    cases t with
    | nil => exact ⟨rfl, (List.cons.inj h).2⟩
    | cons d t =>
      obtain ⟨rfl, -⟩ := List.cons.inj h
      exact absurd List.mem_cons_self ht
  | cons c s ih =>
    cases t with
    | nil =>
      obtain ⟨rfl, -⟩ := List.cons.inj h
      exact absurd List.mem_cons_self hs
    | cons d t =>
      obtain ⟨rfl, htail⟩ := List.cons.inj h
      rw [List.mem_cons, not_or] at hs ht
      obtain ⟨rfl, hr⟩ := ih hs.2 ht.2 htail
      exact ⟨rfl, hr⟩

/-- A single name holds no quote; several have one behind the first of them. -/
theorem joined_inj {xs ys : List String} (hx : xs ≠ []) (hy : ys ≠ []) (hxs : QuoteFree xs)
    (hys : QuoteFree ys)
    (h : (String.intercalate "\", \"" xs).toList = (String.intercalate "\", \"" ys).toList) :
    xs = ys := by
  induction xs generalizing ys with
  | nil => exact absurd rfl hx
  | cons x xs ih =>
    obtain ⟨y, ys, rfl⟩ := List.exists_cons_of_ne_nil hy
    obtain ⟨hxq, hxs⟩ := List.forall_mem_cons.mp hxs
    obtain ⟨hyq, hys⟩ := List.forall_mem_cons.mp hys
    match xs, ys with
    | [], [] =>
      rw [String.intercalate_singleton, String.intercalate_singleton, String.toList_inj] at h
      rw [h]
    | [], y' :: ys =>
      rw [String.intercalate_singleton, toList_joined] at h
      exact absurd (by simp [h]) hxq
    | x' :: xs, [] =>
      rw [String.intercalate_singleton, toList_joined] at h
      exact absurd (by simp [← h]) hyq
    | x' :: xs, y' :: ys =>
      rw [toList_joined, toList_joined, List.append_assoc, List.append_assoc] at h
      obtain ⟨hfirst, hrest⟩ := quote_inj hxq hyq h
      have hrest := ih (List.cons_ne_nil _ _) (List.cons_ne_nil _ _) hxs hys
        (List.append_cancel_left hrest)
      rw [String.toList_inj.mp hfirst, hrest]

theorem messageFor_inj {xs ys : List String} (hx : xs ≠ []) (hy : ys ≠ []) (hxs : QuoteFree xs)
    (hys : QuoteFree ys) (h : messageFor xs = messageFor ys) : xs = ys := by
  rw [← String.toList_inj, toList_messageFor, toList_messageFor] at h
  exact joined_inj hx hy hxs hys (List.append_cancel_right (List.append_cancel_left h))

end Cluster

/-! ## The messages of a unit -/

namespace RuleConfig

variable {α : Type} (cfg : RuleConfig) (host : Host α) (unit : α)

/-- All that a rule reports of a unit are clusters of its constants with two members or more. -/
theorem classify_sublist :
    (cfg.classify host unit).Sublist
      ((Cluster.split cfg.separator (host.constants unit)).filter Cluster.isFamily) := by
  unfold classify judge
  split
  · exact List.nil_sublist _
  · split
    · exact List.nil_sublist _
    · split
      · exact List.filter_sublist
      · exact List.nil_sublist _

variable {cfg host unit}

theorem members_of_mem_classify {c : Cluster} (h : c ∈ cfg.classify host unit) :
    c.members ≠ [] ∧ ∀ name ∈ c.members,
      name ∈ host.constants unit ∧ Cluster.stemOf cfg.separator name = c.stem := by
  obtain ⟨hsplit, hfamily⟩ := List.mem_filter.mp ((classify_sublist cfg host unit).mem h)
  obtain ⟨-, hc⟩ := Cluster.mem_split_iff.mp hsplit
  refine ⟨fun hnil => ?_, fun name hname => ?_⟩
  · simp [Cluster.isFamily, hnil] at hfamily
  · rw [hc] at hname
    simpa [Cluster.ofStem] using hname

theorem stems_of_classify : ((cfg.classify host unit).map Cluster.stem).Nodup := by
  have hall : ((Cluster.split cfg.separator (host.constants unit)).map Cluster.stem).Nodup := by
    rw [Cluster.map_stem_split]
    exact nodup_eraseDups _
  exact hall.sublist (((classify_sublist cfg host unit).trans List.filter_sublist).map _)

/-- Two clusters of one message share their members, so also the stem of these. -/
theorem messages_nodup (hfree : Cluster.QuoteFree (host.constants unit)) :
    (cfg.messages host unit).Nodup := by
  refine List.Nodup.map_on (fun c hc d hd hmessage => ?_) (stems_of_classify.of_map _)
  obtain ⟨hcne, hcmem⟩ := members_of_mem_classify hc
  obtain ⟨hdne, hdmem⟩ := members_of_mem_classify hd
  have hmembers : c.members = d.members :=
    Cluster.messageFor_inj hcne hdne (fun name hname => hfree name (hcmem name hname).1)
      (fun name hname => hfree name (hdmem name hname).1) hmessage
  obtain ⟨name, hname⟩ := List.exists_mem_of_ne_nil _ hcne
  have hstem : c.stem = d.stem := by
    rw [← (hcmem name hname).2, (hdmem name (hmembers ▸ hname)).2]
  exact List.inj_on_of_nodup_map stems_of_classify hc hd hstem

end RuleConfig

/-- **A message determines its family.** Take any names without a double quote, empty ones
and ones with the marker of the template included. Two lists of such names that are not
empty have one message only if they are the same list. So the messages that a rule gives
for a unit with such constants are distinct, whatever the rule and the unit. -/
theorem messages_distinct :
    (∀ xs ys : List String, xs ≠ [] → ys ≠ [] → Cluster.QuoteFree xs → Cluster.QuoteFree ys →
      Cluster.messageFor xs = Cluster.messageFor ys → xs = ys) ∧
    ∀ (α : Type) (cfg : RuleConfig) (host : Host α) (unit : α),
      Cluster.QuoteFree (host.constants unit) →
      (cfg.messages host unit).Pairwise (· ≠ ·) := by
  refine ⟨fun xs ys hx hy hxs hys h => Cluster.messageFor_inj hx hy hxs hys h, ?_⟩
  intro α cfg host unit hfree
  exact RuleConfig.messages_nodup hfree

/-- A unit whose constants hold the marker of the template and the text between names. -/
def oddHost : Host Unit where
  name? _ := some "crate::Order"
  hasAncestor _ _ := true
  constants _ := ["A_\x7b\x7d", "B_, ", "A_", "B_\x7b\x7d"]

/-- It has two families, with two messages; and the order of names shows in a message. -/
theorem odd_messages_distinct :
    Cluster.QuoteFree (oddHost.constants ()) ∧
      (RuleConfig.messages { parentTypes := ["Entity"] } oddHost ()).length = 2 ∧
      (RuleConfig.messages { parentTypes := ["Entity"] } oddHost ()).Pairwise (· ≠ ·) ∧
      Cluster.messageFor ["\x7b\x7d", ", "] ≠ Cluster.messageFor [", ", "\x7b\x7d"] := by
  have hfree : Cluster.QuoteFree (oddHost.constants ()) := by decide
  refine ⟨hfree, by decide, messages_distinct.2 Unit _ oddHost () hfree, fun h => ?_⟩
  have hsame := messages_distinct.1 _ _ (List.cons_ne_nil _ _) (List.cons_ne_nil _ _) (by decide)
    (by decide) h
  exact absurd hsame (by decide)

end EnumFamily
