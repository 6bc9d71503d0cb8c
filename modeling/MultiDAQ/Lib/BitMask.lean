import Mathlib.Data.Nat.Bitwise

/-!
# Bit masks

A mask that is built by setting one bit after the other: `setBits mask l` sets the bits of `l` in
`mask`. A bit of the result is one of `mask` or one of `l`.
-/

namespace MultiDAQ.Lib

/-- `for i in l: mask |= 1 << i`. -/
def setBits (mask : Nat) (l : List Nat) : Nat :=
  l.foldl (fun mask i => mask ||| 1 <<< i) mask

@[simp] theorem setBits_nil (mask : Nat) : setBits mask [] = mask := rfl

@[simp] theorem setBits_cons (mask i : Nat) (l : List Nat) :
    setBits mask (i :: l) = setBits (mask ||| 1 <<< i) l := rfl

theorem testBit_one_shiftLeft (i n : Nat) : (1 <<< i).testBit n = decide (n = i) := by
  rw [Nat.one_shiftLeft, Nat.testBit_two_pow]
  exact decide_eq_decide.2 eq_comm

theorem testBit_setBits (mask : Nat) (l : List Nat) (n : Nat) :
    (setBits mask l).testBit n = true ↔ mask.testBit n = true ∨ n ∈ l := by
  induction l generalizing mask with
  | nil => simp
  | cons i l ih =>
    rw [setBits_cons, ih, Nat.testBit_or, testBit_one_shiftLeft, Bool.or_eq_true,
      decide_eq_true_eq, List.mem_cons, or_assoc]

end MultiDAQ.Lib
