/-!
# Sets of characters as ranges

A set of characters given by closed ranges of code points, ascending and apart.
-/
namespace EnumFamily.Text

abbrev Ranges := List (Nat × Nat)

def Ranges.holds (rs : Ranges) (c : Char) : Bool :=
  rs.any fun (lo, hi) => lo ≤ c.toNat && c.toNat ≤ hi

end EnumFamily.Text
