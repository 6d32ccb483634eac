/-!
Powers of the two bases that numbers are stored and written in.
-/

namespace Daybook.Number

def pow2 (k : Nat) : Nat := Nat.pow 2 k

def pow10 (k : Nat) : Nat := Nat.pow 10 k

end Daybook.Number
