/-!
Powers of the two bases in which numbers are held and written.
-/
namespace ServiceProbe.Power

def two (exponent : Nat) : Nat := Nat.pow 2 exponent

def ten (exponent : Nat) : Nat := Nat.pow 10 exponent

end ServiceProbe.Power
