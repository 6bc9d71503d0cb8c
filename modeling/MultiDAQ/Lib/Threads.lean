import Mathlib.Algebra.Order.BigOperators.Group.List
import Mathlib.Algebra.Order.Group.Nat
import Mathlib.Algebra.Ring.Nat

/-!
# Sums over threads

The threads of a system are a list, and one of them takes a step: what the threads hold together
changes by what that one holds before and after (`sum_map_set`).
-/

namespace MultiDAQ.Lib

universe u

variable {τ : Type u}

theorem sum_map_set (f : τ → Nat) {tasks : List τ} {i : Nat} {old : τ} (new : τ)
    (h : tasks[i]? = some old) :
    ((tasks.set i new).map f).sum + f old = (tasks.map f).sum + f new := by
  induction tasks generalizing i with
  | nil => cases h
  | cons task tasks ih =>
    cases i with
    | zero =>
      cases h
      simp only [List.set_cons_zero, List.map_cons, List.sum_cons]
      omega
    | succ i =>
      have hrest := ih (i := i) h
      simp only [List.set_cons_succ, List.map_cons, List.sum_cons]
      omega

/-- Where one thread has something, the sum is not zero. -/
theorem le_sum_map (f : τ → Nat) {tasks : List τ} {i : Nat} {task : τ} (h : tasks[i]? = some task) :
    f task ≤ (tasks.map f).sum :=
  List.le_sum_of_mem (List.mem_map_of_mem (List.mem_of_getElem? h))

/-- The sum is not zero exactly where a thread has something. -/
theorem sum_map_pos_iff (f : τ → Nat) (tasks : List τ) :
    0 < (tasks.map f).sum ↔ ∃ task ∈ tasks, 0 < f task := by
  rw [List.sum_pos_iff_exists_pos_nat]
  simp only [List.mem_map, exists_exists_and_eq_and]

theorem getElem?_set_self_of_some {tasks : List τ} {i : Nat} {old : τ} (new : τ)
    (h : tasks[i]? = some old) : (tasks.set i new)[i]? = some new := by
  rw [List.getElem?_set_self (List.getElem?_eq_some_iff.1 h).1]

end MultiDAQ.Lib
