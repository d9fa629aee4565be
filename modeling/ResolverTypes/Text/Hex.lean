/-!
# Hexadecimal digits
-/

namespace ResolverTypes.Text

/-- the value of a hexadecimal digit -/
def hexValue? (c : Char) : Option Nat :=
  if c.isDigit then some (c.toNat - '0'.toNat)
  else if 'a' ≤ c && c ≤ 'f' then some (c.toNat - 'a'.toNat + 10)
  else if 'A' ≤ c && c ≤ 'F' then some (c.toNat - 'A'.toNat + 10)
  else none

/-- the number that a list of hexadecimal digits stands for -/
def hexNumber? (cs : List Char) : Option Nat :=
  cs.foldl (fun acc c => do pure ((← acc) * 16 + (← hexValue? c))) (some 0)

def readHex? (n : Nat) (cs : List Char) : Option (Nat × List Char) :=
  if (cs.take n).length = n then (hexNumber? (cs.take n)).map (·, cs.drop n) else none

end ResolverTypes.Text
