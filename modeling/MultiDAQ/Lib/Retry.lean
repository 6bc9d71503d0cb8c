import Mathlib.Data.List.Basic

/-!
# Attempts until one succeeds

A loop that makes one attempt after the other, each in the state that the last one has left, and
ends with the first that succeeds. If no attempt succeeds while an invariant holds that every attempt
keeps, none ever does (`retry_fails`); if each attempt that fails takes one of the obstacles away and
an attempt without obstacles succeeds, it takes one attempt more than there are obstacles
(`retry_iff`).
-/

namespace MultiDAQ.Lib

variable {α σ : Type}

def retry (attempt : α → σ → Bool × σ) : List α → σ → Bool × σ
  | [], s => (false, s)
  | a :: as, s => if (attempt a s).1 then attempt a s else retry attempt as (attempt a s).2

section

variable {attempt : α → σ → Bool × σ} {I : List α → σ → Prop}

/-- `I` is an invariant of the state and the attempts that are still to be made. -/
theorem retry_fails (h : ∀ a as s, I (a :: as) s →
      (attempt a s).1 = false ∧ I as (attempt a s).2) {as : List α} {s : σ} (hs : I as s) :
    (retry attempt as s).1 = false ∧ I [] (retry attempt as s).2 := by
  induction as generalizing s with
  | nil => exact ⟨rfl, hs⟩
  | cons a as ih =>
    obtain ⟨hfails, hnext⟩ := h a as s hs
    rw [retry, hfails, if_neg Bool.false_ne_true]
    exact ih hnext

theorem retry_iff (obstacles : σ → Nat)
    (h : ∀ a as s, I (a :: as) s → ((attempt a s).1 = true ↔ obstacles s = 0) ∧
      (obstacles s ≠ 0 → obstacles (attempt a s).2 + 1 = obstacles s ∧ I as (attempt a s).2))
    {as : List α} {s : σ} (hs : I as s) :
    (retry attempt as s).1 = true ↔ obstacles s < as.length := by
  induction as generalizing s with
  | nil => simp [retry]
  | cons a as ih =>
    obtain ⟨hsucceeds, hfails⟩ := h a as s hs
    by_cases hzero : obstacles s = 0
    · have hsuccess := hsucceeds.2 hzero
      rw [retry, if_pos hsuccess, hzero]
      exact ⟨fun _ => Nat.succ_pos _, fun _ => hsuccess⟩
    · have hfailure : (attempt a s).1 = false := by
        rw [Bool.eq_false_iff]
        exact fun hsuccess => hzero (hsucceeds.1 hsuccess)
      obtain ⟨hless, hnext⟩ := hfails hzero
      rw [retry, hfailure, if_neg Bool.false_ne_true, ih hnext, List.length_cons]
      omega

end

end MultiDAQ.Lib
