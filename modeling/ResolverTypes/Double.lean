/-!
# Whole numbers as doubles

A double holds 53 bits.  A number with more of them is held as the nearest one that fits, and a
number half a step above the greatest double is held by none.
-/

namespace ResolverTypes.Double

def precision : Nat := 53

/-- the least whole number that no double comes near enough to -/
def limit : Nat := Nat.pow 2 1024 - Nat.pow 2 970

/-- a quotient rounded to the nearest whole number; a half goes to the even neighbour -/
def roundDiv (n d : Nat) : Nat :=
  let q := n / d
  let r := n % d
  if 2 * r < d then q
  else if d < 2 * r then q + 1
  else q + q % 2

/-- a whole number below the limit as a double -/
def nearest (n : Nat) : Nat :=
  let step := Nat.pow 2 (n.log2 + 1 - precision)
  roundDiv n step * step

/-- a number that fits into a double is held as it is -/
theorem nearest_of_lt {n : Nat} (h : n < Nat.pow 2 precision) : nearest n = n := by
  have hlog : n.log2 + 1 - precision = 0 := by
    by_cases hn : n = 0
    · subst hn; rfl
    · have := (Nat.log2_lt hn).2 h
      omega
  simp [nearest, roundDiv, hlog, Nat.mod_one]

end ResolverTypes.Double
