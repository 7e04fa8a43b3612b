import EnumFamily.Graph
import EnumFamily.Proofs.ListOrder
import Mathlib.Logic.Function.Iterate

/-!
# The search finds what can be reached

The search keeps a list of nodes seen and a queue of those whose neighbours it
has still to look at. `SearchInv` is what holds between two turns: all that was
seen can be reached, and a node that has left the queue has its neighbours seen.

`Graph.search` ends because it is given that only finitely many nodes can be
reached. `Graph.turn` is one turn of it on any graph, so that it can be asked
whether turns repeated without a bound come to an end.

Results:
* `SearchInv.turn`, `SearchInv.search`: one turn keeps the invariant, and so does
  a whole search, which ends with an empty queue.
* `mem_reachableFrom_iff`: the result holds exactly the nodes reached from a
  starting node that the graph holds.
* `exists_turns_search`: the search is turns until the queue is empty, one for
  each node that was found.
* `turns_reach`: repeated turns empty the queue exactly if finitely many nodes can
  be reached; then the search lists these, each once, whatever the order and the
  number in which roots and neighbours are given.
-/
namespace EnumFamily.Graph

variable {α : Type}

theorem Reaches.trans {g : Graph α} {a b c : α} (h : g.Reaches a b) (h' : g.Reaches b c) :
    g.Reaches a c := by
  induction h' with
  | refl => exact h
  | step _ hc ih => exact .step ih hc

theorem Reaches.mono {g g' : Graph α} (h : ∀ n, g.neighbors n ⊆ g'.neighbors n) {a b : α}
    (hreach : g.Reaches a b) : g'.Reaches a b := by
  induction hreach with
  | refl => exact .refl _
  | step _ hm ih => exact .step ih (h _ hm)

theorem ReachedFrom.mono {g g' : Graph α} (hholds : ∀ n, g.holds n = true → g'.holds n = true)
    (hedges : ∀ n, g.neighbors n ⊆ g'.neighbors n) {roots roots' : List α} (hroots : roots ⊆ roots')
    {n : α} (h : g.ReachedFrom roots n) : g'.ReachedFrom roots' n := by
  obtain ⟨r, hr, hg, hreach⟩ := h
  exact ⟨r, hroots hr, hholds r hg, hreach.mono hedges⟩

variable [DecidableEq α]

/-- What holds between two turns of the search. -/
structure SearchInv (g : Graph α) (roots seen queue : List α) : Prop where
  start : ∀ r ∈ roots, g.holds r = true → r ∈ seen
  reached : ∀ n ∈ seen, g.ReachedFrom roots n
  queued : ∀ n ∈ queue, n ∈ seen
  looked : ∀ n ∈ seen, n ∈ queue ∨ ∀ m ∈ g.neighbors n, m ∈ seen

theorem SearchInv.turn {g : Graph α} {roots seen rest : List α} {n : α}
    (h : SearchInv g roots seen (n :: rest)) :
    SearchInv g roots (seen ++ unseen seen (g.neighbors n))
      (rest ++ unseen seen (g.neighbors n)) where
  start r hr hg := List.mem_append_left _ (h.start r hr hg)
  reached m hm := by
    rcases List.mem_append.mp hm with hm | hm
    · exact h.reached m hm
    · exact (h.reached n (h.queued n List.mem_cons_self)).step (mem_unseen.mp hm).1
  queued m hm := by
    rcases List.mem_append.mp hm with hm | hm
    · exact List.mem_append_left _ (h.queued m (List.mem_cons_of_mem n hm))
    · exact List.mem_append_right _ hm
  looked m hm := by
    rcases List.mem_append.mp hm with hm | hm
    · rcases h.looked m hm with hq | hall
      · rcases List.mem_cons.mp hq with rfl | hq
        · -- the node just taken: what of its neighbours was not seen is now
          refine Or.inr fun k hk => ?_
          by_cases hs : k ∈ seen
          · exact List.mem_append_left _ hs
          · exact List.mem_append_right _ (mem_unseen.mpr ⟨hk, hs⟩)
        · exact Or.inl (List.mem_append_left _ hq)
      · exact Or.inr fun k hk => List.mem_append_left _ (hall k hk)
    · exact Or.inl (List.mem_append_right _ hm)

theorem SearchInv.search {g : Graph α} {roots seen queue : List α}
    {fin : g.FinitelyReachable roots} {hq : ∀ n ∈ queue, g.ReachedFrom roots n}
    (h : SearchInv g roots seen queue) :
    SearchInv g roots (Graph.search g roots fin seen queue hq) [] := by
  fun_induction Graph.search g roots fin seen queue hq with
  | case1 => exact h
  | case2 seen n rest fresh _ _ ih => exact ih h.turn

theorem searchInv_start (g : Graph α) (roots : List α) :
    SearchInv g roots (roots.filter g.holds).eraseDups (roots.filter g.holds).eraseDups where
  start r hr hg := List.mem_eraseDups.mpr (List.mem_filter.mpr ⟨hr, hg⟩)
  reached n hn := by
    obtain ⟨hr, hg⟩ := List.mem_filter.mp (List.mem_eraseDups.mp hn)
    exact ⟨n, hr, hg, .refl n⟩
  queued _ hn := hn
  looked _ hn := Or.inl hn

omit [DecidableEq α] in
/-- With an empty queue, all that can be reached was seen. -/
theorem SearchInv.mem_seen_iff {g : Graph α} {roots seen : List α}
    (h : SearchInv g roots seen []) {n : α} : n ∈ seen ↔ g.ReachedFrom roots n := by
  refine ⟨h.reached n, ?_⟩
  rintro ⟨r, hr, hg, hreach⟩
  induction hreach with
  | refl => exact h.start r hr hg
  | step _ hm ih =>
    rcases h.looked _ ih with hq | hall
    · exact absurd hq List.not_mem_nil
    · exact hall _ hm

/-- The search returns what is reached from the starting nodes that the graph holds. -/
theorem mem_reachableFrom_iff {g : Graph α} {roots : List α} {fin : g.FinitelyReachable roots}
    {n : α} : n ∈ g.reachableFrom roots fin ↔ g.ReachedFrom roots n :=
  SearchInv.mem_seen_iff (searchInv_start g roots).search

/-! ## Each node once -/

theorem nodup_append_unseen {seen : List α} (h : seen.Nodup) (xs : List α) :
    (seen ++ unseen seen xs).Nodup := by
  refine List.nodup_append.mpr ⟨h, nodup_eraseDups _, ?_⟩
  rintro a ha b hb rfl
  exact (mem_unseen.mp hb).2 ha

theorem nodup_search {g : Graph α} {roots seen queue : List α} {fin : g.FinitelyReachable roots}
    {hq : ∀ n ∈ queue, g.ReachedFrom roots n} (h : seen.Nodup) :
    (Graph.search g roots fin seen queue hq).Nodup := by
  fun_induction Graph.search g roots fin seen queue hq with
  | case1 => exact h
  | case2 seen n rest fresh _ _ ih => exact ih (nodup_append_unseen h _)

theorem nodup_reachableFrom {g : Graph α} {roots : List α} (fin : g.FinitelyReachable roots) :
    (g.reachableFrom roots fin).Nodup := nodup_search (nodup_eraseDups _)

/-! ## Turn by turn -/

/-- Where a search stands between two turns. -/
structure Standing (α : Type) where
  seen : List α
  queue : List α
deriving Repr, DecidableEq

/-- One turn on any graph; with an empty queue nothing happens any more. -/
def turn (g : Graph α) (s : Standing α) : Standing α :=
  match s.queue with
  | [] => s
  | n :: rest =>
    let fresh := unseen s.seen (g.neighbors n)
    ⟨s.seen ++ fresh, rest ++ fresh⟩

/-- Before the first turn the roots that the graph holds are seen and queued. -/
def start (g : Graph α) (roots : List α) : Standing α :=
  ⟨(roots.filter g.holds).eraseDups, (roots.filter g.holds).eraseDups⟩

/-- A search that ends is turns until the queue is empty. Each takes one node off
the queue, and every node that is found gets there once. -/
theorem exists_turns_search {g : Graph α} {roots seen queue : List α}
    (fin : g.FinitelyReachable roots) (hq : ∀ n ∈ queue, g.ReachedFrom roots n) :
    ∃ k, g.turn^[k] ⟨seen, queue⟩ = ⟨Graph.search g roots fin seen queue hq, []⟩ ∧
      k + seen.length = queue.length + (Graph.search g roots fin seen queue hq).length := by
  fun_induction Graph.search g roots fin seen queue hq with
  | case1 seen => exact ⟨0, rfl, by simp⟩
  | case2 seen n rest fresh _ _ ih =>
    obtain ⟨k, hk, hlen⟩ := ih
    refine ⟨k + 1, hk, ?_⟩
    simp only [List.length_append, List.length_cons] at hlen ⊢
    omega

/-- One turn keeps the invariant, whether there is something to do or not. -/
theorem SearchInv.next {g : Graph α} {roots : List α} {s : Standing α}
    (h : SearchInv g roots s.seen s.queue) :
    SearchInv g roots (g.turn s).seen (g.turn s).queue := by
  unfold Graph.turn
  split
  · exact h
  · rename_i n rest hqueue
    rw [hqueue] at h
    exact h.turn

/-- So it holds after any number of turns, also where they never come to an end. -/
theorem searchInv_turns (g : Graph α) (roots : List α) (k : Nat) :
    SearchInv g roots (g.turn^[k] (g.start roots)).seen (g.turn^[k] (g.start roots)).queue := by
  induction k with
  | zero => exact searchInv_start g roots
  | succ k ih =>
    rw [Function.iterate_succ_apply']
    exact ih.next

theorem finitelyReachable_of_turns {g : Graph α} {roots : List α} {k : Nat}
    (h : (g.turn^[k] (g.start roots)).queue = []) : g.FinitelyReachable roots := by
  have hinv := searchInv_turns g roots k
  rw [h] at hinv
  exact ⟨_, fun n hn => hinv.mem_seen_iff.mpr hn⟩

theorem turns_eq_reachableFrom {g : Graph α} {roots : List α}
    (fin : g.FinitelyReachable roots) :
    g.turn^[(g.reachableFrom roots fin).length] (g.start roots) =
      ⟨g.reachableFrom roots fin, []⟩ := by
  obtain ⟨k, hk, hlen⟩ := exists_turns_search fin fun n hn => (searchInv_start g roots).reached n hn
  -- seen and queue are the same list at the start, so the turns are counted by the result
  obtain rfl : k = (g.reachableFrom roots fin).length := by
    have : k + _ = _ + (g.reachableFrom roots fin).length := hlen
    omega
  exact hk

/-! ## Any order -/

/-- The search lists the same nodes for graphs with the same edges and the same roots,
in whatever order and number these are given. -/
theorem reachableFrom_perm {g g' : Graph α} (hholds : ∀ n, g'.holds n = g.holds n)
    (hedges : ∀ n m, m ∈ g'.neighbors n ↔ m ∈ g.neighbors n) {roots roots' : List α}
    (hroots : ∀ r, r ∈ roots' ↔ r ∈ roots) (fin : g.FinitelyReachable roots) :
    ∃ fin', (g'.reachableFrom roots' fin').Perm (g.reachableFrom roots fin) := by
  have hsame : ∀ n, g'.ReachedFrom roots' n ↔ g.ReachedFrom roots n := by
    intro n
    constructor
    · exact ReachedFrom.mono (fun m => hholds m ▸ id) (fun m k => (hedges m k).mp)
        fun r => (hroots r).mp
    · exact ReachedFrom.mono (fun m => hholds m ▸ id) (fun m k => (hedges m k).mpr)
        fun r => (hroots r).mpr
  have fin' : g'.FinitelyReachable roots' :=
    fin.imp fun bound hbound n hn => hbound n ((hsame n).mp hn)
  refine ⟨fin', (List.perm_ext_iff_of_nodup (nodup_reachableFrom fin')
    (nodup_reachableFrom fin)).mpr fun n => ?_⟩
  rw [mem_reachableFrom_iff, mem_reachableFrom_iff]
  exact hsame n

/-- **Reachability.** From any roots in any graph, with cycles, with loops and with
edges to nodes that it does not hold: turn after turn the queue becomes empty exactly
if finitely many nodes can be reached from the roots that the graph holds. Then the
search ends after one turn for each of these nodes, and returns them, each once: those
that zero or more edges lead to from such a root. Order and repetition of roots and
neighbours do not matter. -/
theorem turns_reach (g : Graph α) (roots : List α) :
    ((∃ k, (g.turn^[k] (g.start roots)).queue = []) ↔ g.FinitelyReachable roots) ∧
    ∀ fin : g.FinitelyReachable roots,
      g.turn^[(g.reachableFrom roots fin).length] (g.start roots) =
        ⟨g.reachableFrom roots fin, []⟩ ∧
      (g.reachableFrom roots fin).Nodup ∧
      (∀ n, n ∈ g.reachableFrom roots fin ↔ ∃ r ∈ roots, g.holds r = true ∧ g.Reaches r n) ∧
      ∀ (g' : Graph α) (roots' : List α), (∀ n, g'.holds n = g.holds n) →
        (∀ n m, m ∈ g'.neighbors n ↔ m ∈ g.neighbors n) → (∀ r, r ∈ roots' ↔ r ∈ roots) →
        ∃ fin', (g'.reachableFrom roots' fin').Perm (g.reachableFrom roots fin) := by
  refine ⟨⟨?_, ?_⟩, fun fin => ⟨turns_eq_reachableFrom fin, nodup_reachableFrom fin, ?_, ?_⟩⟩
  · rintro ⟨k, hk⟩
    exact finitelyReachable_of_turns hk
  · intro fin
    exact ⟨_, congrArg Standing.queue (turns_eq_reachableFrom fin)⟩
  · intro n
    exact mem_reachableFrom_iff
  · intro g' roots' hholds hedges hroots
    exact reachableFrom_perm hholds hedges hroots fin

/-- Edges go around below 6, each twice and with loops, and lead to 100, where they
end. From any other number they lead on without end. -/
def ringWithTail : Graph Nat where
  holds n := n != 5
  neighbors n := if n < 6 then [(n + 2) % 6, n, 100, n] else if n = 100 then [] else [n + 1]

/-- From 3 the ring is gone around in four turns, by way of 5, which the graph does not
hold, and so it is with the roots in another order. -/
theorem ringWithTail_reached :
    ∃ fin fin', 5 ∈ ringWithTail.reachableFrom [3, 1, 3] fin ∧ ringWithTail.holds 5 = false ∧
      100 ∈ ringWithTail.reachableFrom [3, 1, 3] fin ∧
      (ringWithTail.reachableFrom [3, 1, 3] fin).Nodup ∧
      (ringWithTail.reachableFrom [1, 3] fin').Perm
        (ringWithTail.reachableFrom [3, 1, 3] fin) := by
  obtain ⟨hends, hresult⟩ := turns_reach ringWithTail [3, 1, 3]
  have fin : ringWithTail.FinitelyReachable [3, 1, 3] := hends.mp ⟨4, by decide⟩
  obtain ⟨-, hnodup, hmem, hany⟩ := hresult fin
  have hfive : ringWithTail.Reaches 3 5 := .step (.refl 3) (by decide)
  have hroots : ∀ r, r ∈ [1, 3] ↔ r ∈ [3, 1, 3] := by
    intro r
    simp only [List.mem_cons, List.not_mem_nil, or_false]
    omega
  obtain ⟨fin', hperm⟩ := hany ringWithTail [1, 3] (fun _ => rfl) (fun _ _ => Iff.rfl) hroots
  refine ⟨fin, fin', (hmem 5).mpr ⟨3, by decide, by decide, hfive⟩, by decide,
    (hmem 100).mpr ⟨3, by decide, by decide, .step hfive (by decide)⟩, hnodup, hperm⟩

end EnumFamily.Graph
