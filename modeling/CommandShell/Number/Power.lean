/-!
# Powers of two and of ten

    twoTo k = 2 ^ k
    tenTo k = 10 ^ k
-/

namespace CommandShell.Number

def twoTo (k : Nat) : Nat := Nat.pow 2 k

def tenTo (k : Nat) : Nat := Nat.pow 10 k

theorem twoTo_pos (k : Nat) : 0 < twoTo k :=
  Nat.pow_pos (by decide)

theorem tenTo_pos (k : Nat) : 0 < tenTo k :=
  Nat.pow_pos (by decide)

end CommandShell.Number
