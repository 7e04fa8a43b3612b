/-!
# Searching text
-/
namespace EnumFamily.Text

/-- `part` stands somewhere in the text. -/
def occursIn (part : List Char) : List Char → Bool
  | [] => part.isEmpty
  | c :: r => part.isPrefixOf (c :: r) || occursIn part r

/-- The text with `new` in place of the first `part`, if there is one. -/
def replaceFirst (part new : List Char) : List Char → List Char
  | [] => if part.isEmpty then new else []
  | c :: r =>
    if part.isPrefixOf (c :: r) then new ++ (c :: r).drop part.length
    else c :: replaceFirst part new r

/-- `part` stands somewhere in the text exactly if the text can be cut around it. -/
theorem occursIn_iff (part s : List Char) : occursIn part s = true ↔ part <:+: s := by
  induction s with
  | nil => simp [occursIn, List.isEmpty_iff]
  | cons c r ih => simp [occursIn, ih, List.infix_cons_iff, List.isPrefixOf_iff_prefix]

end EnumFamily.Text
