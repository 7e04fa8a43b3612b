/-!
# Reachability

Breadth-first search over an adjacency function. The graph may be infinite:
the search is defined for every list of starting nodes from which only
finitely many nodes can be reached (`FinitelyReachable`).

* `Reaches`: following zero or more edges.
* `reachableFrom`: the nodes reached from those starting nodes that the graph
  holds. Edges may lead to nodes that it does not hold; these are listed too.
-/
namespace EnumFamily

structure Graph (α : Type) where
  holds : α → Bool
  neighbors : α → List α

namespace Graph

variable {α : Type}

inductive Reaches (g : Graph α) : α → α → Prop
  | refl (a : α) : Reaches g a a
  | step {a b c : α} : Reaches g a b → c ∈ g.neighbors b → Reaches g a c

/-- Reached from a starting node that the graph holds. -/
def ReachedFrom (g : Graph α) (roots : List α) (n : α) : Prop :=
  ∃ r ∈ roots, g.holds r = true ∧ g.Reaches r n

def FinitelyReachable (g : Graph α) (roots : List α) : Prop :=
  ∃ bound : List α, ∀ n, g.ReachedFrom roots n → n ∈ bound

theorem ReachedFrom.step {g : Graph α} {roots : List α} {a b : α} (h : g.ReachedFrom roots a)
    (hb : b ∈ g.neighbors a) : g.ReachedFrom roots b := by
  obtain ⟨r, hr, hc, hreach⟩ := h
  exact ⟨r, hr, hc, .step hreach hb⟩

/-- A graph whose edges lead only to nodes of `targets` is finite from any start. -/
theorem finitelyReachable_of_targets {g : Graph α} (targets : List α)
    (h : ∀ n, ∀ m ∈ g.neighbors n, m ∈ targets) (roots : List α) : g.FinitelyReachable roots := by
  refine ⟨roots ++ targets, fun n hn => ?_⟩
  obtain ⟨r, hr, _, hreach⟩ := hn
  cases hreach with
  | refl => exact List.mem_append_left _ hr
  | step _ hm => exact List.mem_append_right _ (h _ _ hm)

variable [DecidableEq α]

/-- The entries of `xs` that `seen` lacks, each once. -/
def unseen (seen xs : List α) : List α := (xs.filter (!seen.contains ·)).eraseDups

/-! ## The number of nodes still to be found -/

/-- How many nodes of `bound` are missing from `seen`. -/
def missing (bound seen : List α) : Nat := bound.countP (!seen.contains ·)

theorem missing_append_le (bound seen xs : List α) :
    missing bound (seen ++ xs) ≤ missing bound seen :=
  List.countP_mono_left fun b _ h => by
    simp only [List.contains_append, Bool.not_or, Bool.and_eq_true] at h
    exact h.1

theorem missing_append_lt {bound seen xs : List α} {x : α} (hx : x ∈ xs) (hs : x ∉ seen)
    (hb : x ∈ bound) : missing bound (seen ++ xs) < missing bound seen := by
  obtain ⟨l, r, rfl⟩ := List.append_of_mem hb
  have hl := missing_append_le l seen xs
  have hr := missing_append_le r seen xs
  unfold missing at *
  simp only [List.countP_append, List.countP_cons, List.contains_append] at *
  have h1 : seen.contains x = false := by simpa using hs
  have h2 : xs.contains x = true := by simpa using hx
  simp only [h1, h2, Bool.or_true, Bool.not_true, Bool.not_false, if_true, Bool.false_eq_true,
    if_false]
  omega

theorem mem_unseen {seen xs : List α} {x : α} : x ∈ unseen seen xs ↔ x ∈ xs ∧ x ∉ seen := by
  simp [unseen]

/-! ## Search -/

/-- Takes the first node off the queue, and puts its new neighbours at the end. -/
def search (g : Graph α) (roots : List α) (fin : g.FinitelyReachable roots)
    (seen queue : List α) (hq : ∀ n ∈ queue, g.ReachedFrom roots n) : List α :=
  match queue with
  | [] => seen
  | n :: rest =>
    let fresh := unseen seen (g.neighbors n)
    search g roots fin (seen ++ fresh) (rest ++ fresh) (by
      intro m hm
      rcases List.mem_append.mp hm with hm | hm
      · exact hq m (List.mem_cons_of_mem _ hm)
      · exact (hq n List.mem_cons_self).step (mem_unseen.mp hm).1)
termination_by (missing fin.choose seen, queue.length)
decreasing_by
  rcases hf : unseen seen (g.neighbors n) with _ | ⟨x, xs⟩
  · simp only [List.append_nil]
    exact Prod.Lex.right _ (by simp)
  · apply Prod.Lex.left
    have hx : x ∈ unseen seen (g.neighbors n) := by rw [hf]; exact List.mem_cons_self
    have hx' := mem_unseen.mp hx
    exact missing_append_lt (x := x) List.mem_cons_self hx'.2
      (fin.choose_spec x ((hq n List.mem_cons_self).step hx'.1))

def reachableFrom (g : Graph α) (roots : List α) (fin : g.FinitelyReachable roots) : List α :=
  let start := (roots.filter g.holds).eraseDups
  search g roots fin start start (by
    intro n hn
    have hn : n ∈ roots ∧ g.holds n = true := by simpa [start] using hn
    exact ⟨n, hn.1, hn.2, .refl n⟩)

/-! ## Adjacency tables -/

/-- The graph of an adjacency table: it holds the keys of the table, and a node
leads to the targets of its first entry. -/
def ofTable (table : List (α × List α)) : Graph α where
  holds n := table.any (·.1 == n)
  neighbors n := (table.lookup n).getD []

theorem ofTable_finitelyReachable (table : List (α × List α)) (roots : List α) :
    (ofTable table).FinitelyReachable roots := by
  refine finitelyReachable_of_targets (table.flatMap (·.2)) (fun n m hm => ?_) roots
  simp only [ofTable] at hm
  cases hl : table.lookup n with
  | none => simp [hl] at hm
  | some ts =>
    rw [hl] at hm
    obtain ⟨l₁, l₂, rfl, -⟩ := List.lookup_eq_some_iff.mp hl
    exact List.mem_flatMap.mpr ⟨(n, ts), by simp, hm⟩

end Graph

end EnumFamily
