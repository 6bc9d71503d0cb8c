import Mathlib.Data.Int.ModEq
import Mathlib.Logic.Function.Basic

/-!
# Rings of slots

`n` slots in a ring: the slot after the last one is the first. The elements of a ring are in a
window of `count` slots, from `head` on. An element that is stored behind a window that leaves a
slot free becomes its last one (`window_store`); the first one is gone when the window begins a slot
later (`window_succ`).
-/

namespace MultiDAQ.Lib

universe u

variable {α : Type u} {slots : Int → α} {n : Int}

/-- The contents of `count` slots from `head` on. -/
def window (slots : Int → α) (n head : Int) (count : Nat) : List α :=
  (List.range count).map fun (i : Nat) => slots ((head + i) % n)

@[simp] theorem window_zero (head : Int) : window slots n head 0 = [] := rfl

@[simp] theorem length_window (head : Int) (count : Nat) :
    (window slots n head count).length = count := by
  simp [window]

/-- Two places of a window that is not longer than the ring are different slots. -/
theorem add_emod_ne {head : Int} {i j : Nat} (hij : i < j) (hj : j < n) :
    (head + i) % n ≠ (head + j) % n := by
  intro heq
  have hmod : (i : Int) ≡ j [ZMOD n] := Int.ModEq.add_left_cancel' head heq
  have hi : (i : Int) % n = i := Int.emod_eq_of_lt (by omega) (by omega)
  have hj' : (j : Int) % n = j := Int.emod_eq_of_lt (by omega) hj
  rw [Int.ModEq, hi, hj'] at hmod
  omega

/-- What is stored outside of the window does not change it. -/
theorem window_update {head : Int} {count j : Nat} (hcount : count ≤ j) (hj : j < n) (x : α) :
    window (Function.update slots ((head + j) % n) x) n head count = window slots n head count := by
  apply List.map_congr_left
  intro i hi
  have hlt : i < count := List.mem_range.1 hi
  exact Function.update_of_ne (add_emod_ne (by omega) hj) _ _

theorem window_store {head : Int} {count : Nat} (h : count < n) (x : α) :
    window (Function.update slots ((head + count) % n) x) n head (count + 1) =
      window slots n head count ++ [x] := by
  have hlast : window (Function.update slots ((head + count) % n) x) n head (count + 1) =
      window (Function.update slots ((head + count) % n) x) n head count ++
        [Function.update slots ((head + count) % n) x ((head + count) % n)] := by
    simp only [window, List.range_succ, List.map_append, List.map_cons, List.map_nil]
  rw [hlast, window_update le_rfl h, Function.update_self]

theorem window_succ (head : Int) (count : Nat) :
    window slots n head (count + 1) = slots (head % n) :: window slots n ((head + 1) % n) count := by
  simp only [window, List.range_succ_eq_map, List.map_cons, List.map_map, Nat.cast_zero, add_zero]
  refine congrArg _ (List.map_congr_left fun i _ => congrArg slots ?_)
  rw [Int.emod_add_emod]
  congr 1
  push_cast [Function.comp]
  omega

end MultiDAQ.Lib
