/-!
# Deny-list

Some stems group constants by role and not by value set: bounds, flags,
visibility. Clusters with such a stem are never reported. The list is a set;
its order and repetitions do not matter, and `sorted` is how it is shown.
-/
namespace EnumFamily

structure DenyList where
  words : List String
  nodup : words.Nodup := by decide
deriving DecidableEq

namespace DenyList

/-- A list that lets every stem through. -/
def empty : DenyList := { words := [] }

def contains (d : DenyList) (stem : String) : Bool := d.words.contains stem

def insert (d : DenyList) (word : String) : DenyList :=
  if h : word ∈ d.words then d
  else { words := word :: d.words, nodup := List.nodup_cons.mpr ⟨h, d.nodup⟩ }

/-- Adds words on top of the list. -/
def extend (d : DenyList) (words : List String) : DenyList := words.foldl insert d

def ofList (words : List String) : DenyList := empty.extend words

/-- The stems denied unless the settings replace the list. -/
def standard : DenyList := ofList
  ["DEFAULT", "MAX", "MIN", "HAS", "IS", "ERROR", "PUBLIC", "PRIVATE", "PROTECTED", "HTTP",
    "FILE", "PATH"]

def size (d : DenyList) : Nat := d.words.length

/-- The words in ascending order of their code points. -/
def sorted (d : DenyList) : List String := d.words.mergeSort (fun a b => decide (a ≤ b))

@[simp] theorem contains_empty (s : String) : empty.contains s = false := rfl

theorem contains_insert (d : DenyList) (w s : String) :
    (d.insert w).contains s = (s == w || d.contains s) := by
  unfold insert contains
  split
  · rename_i h
    by_cases hs : s = w
    · subst hs; simp [h]
    · simp [hs]
  · rw [List.contains_cons]

/-- The stem is denied after the addition when it is added or was denied before. -/
theorem contains_extend (d : DenyList) (ws : List String) (s : String) :
    (d.extend ws).contains s = (ws.contains s || d.contains s) := by
  unfold extend
  induction ws generalizing d with
  | nil => simp
  | cons w ws ih =>
    rw [List.foldl_cons, ih, contains_insert, List.contains_cons]
    cases ws.contains s <;> cases (s == w) <;> simp

end DenyList

end EnumFamily
