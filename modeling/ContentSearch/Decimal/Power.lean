/-!
# Powers of two and ten

The binary and the decimal exponents of numbers count how often a factor two
or ten is taken.
-/

namespace ContentSearch

def powerOfTwo (count : Nat) : Nat :=
  Nat.pow 2 count

def powerOfTen (count : Nat) : Nat :=
  Nat.pow 10 count

end ContentSearch
