import Mathlib.Data.List.Basic

/-!
# Handles

A trace of calls, of which some open a handle and others are given a pointer to one. A handle is
named by the number of the call that opened it, and a pointer may be null. A call is sound after
others when its pointer is to a handle that is open then, and a trace is when all its calls are
(`Sound`): no call is given a null pointer or a handle that was closed, so none is closed twice.
-/

namespace MultiDAQ.Lib

universe u

/-- What the calls do with handles. -/
structure HandleCalls (γ : Type u) where
  opens : γ → Bool
  closes : γ → Bool
  /-- The pointer that the call is given, if it is given one. -/
  pointer : γ → Option (Option Nat)

namespace HandleCalls

variable {γ : Type u} (H : HandleCalls γ)

/-- The `k`-th call has opened a handle, which is not closed. -/
def IsOpen (calls : List γ) (k : Nat) : Prop :=
  (∃ c, calls[k]? = some c ∧ H.opens c = true) ∧
    ∀ c ∈ calls, H.closes c = true → H.pointer c ≠ some (some k)

def SoundAfter (calls : List γ) (c : γ) : Prop :=
  ∀ p, H.pointer c = some p → ∃ k, p = some k ∧ H.IsOpen calls k

def Sound (calls : List γ) : Prop :=
  ∀ pre c post, calls = pre ++ c :: post → H.SoundAfter pre c

variable {H} {calls : List γ} {c : γ} {k : Nat}

theorem IsOpen.lt (h : H.IsOpen calls k) : k < calls.length := by
  obtain ⟨c, hc, -⟩ := h.1
  exact (List.getElem?_eq_some_iff.1 hc).1

theorem IsOpen.snoc (h : H.IsOpen calls k)
    (hc : H.closes c = true → H.pointer c ≠ some (some k)) : H.IsOpen (calls ++ [c]) k := by
  obtain ⟨d, hd, hopens⟩ := h.1
  refine ⟨⟨d, ?_, hopens⟩, fun e he hcl => ?_⟩
  · rw [List.getElem?_append_left h.lt]
    exact hd
  · rcases List.mem_append.1 he with he | he
    · exact h.2 e he hcl
    · obtain rfl := List.mem_singleton.1 he
      exact hc hcl

theorem sound_nil : H.Sound ([] : List γ) := by
  intro pre c post h
  exact absurd h.symm (List.append_ne_nil_of_right_ne_nil _ (List.cons_ne_nil _ _))

/-- What is before a sound trace ends is sound. -/
theorem Sound.of_append {more : List γ} (h : H.Sound (calls ++ more)) : H.Sound calls := by
  intro pre c post heq
  exact h pre c (post ++ more) (by rw [heq, List.append_assoc, List.cons_append])

theorem sound_snoc : H.Sound (calls ++ [c]) ↔ H.Sound calls ∧ H.SoundAfter calls c := by
  constructor
  · intro h
    exact ⟨h.of_append, h calls c [] rfl⟩
  · rintro ⟨hcalls, hc⟩ pre d post heq
    rcases List.eq_nil_or_concat post with rfl | ⟨post, e, rfl⟩
    · obtain ⟨rfl, hdc⟩ := List.append_inj' heq rfl
      obtain rfl := List.singleton_inj.1 hdc
      exact hc
    · rw [List.concat_eq_append, ← List.cons_append, ← List.append_assoc] at heq
      exact hcalls pre d post (List.append_inj' heq rfl).1

/-- A call that is given no pointer is sound. -/
theorem soundAfter_of_pointer (h : H.pointer c = none) : H.SoundAfter calls c := by
  intro p hp
  exact nomatch h.symm.trans hp

theorem soundAfter_of_isOpen (h : H.IsOpen calls k) (hc : H.pointer c = some (some k)) :
    H.SoundAfter calls c := by
  intro p hp
  exact ⟨k, Option.some.inj (hp.symm.trans hc), h⟩

/-- A call with a null pointer is not sound. -/
theorem not_soundAfter_null (h : H.pointer c = some none) : ¬ H.SoundAfter calls c := by
  intro hc
  obtain ⟨k, hk, -⟩ := hc none h
  cases hk

/-- A handle is new when it is opened. -/
theorem Sound.isOpen_snoc (h : H.Sound calls) (hopens : H.opens c = true)
    (hcloses : H.closes c = false) : H.IsOpen (calls ++ [c]) calls.length := by
  refine ⟨⟨c, List.getElem?_concat_length, hopens⟩, fun d hd hcl hp => ?_⟩
  rcases List.mem_append.1 hd with hd | hd
  · obtain ⟨pre, post, rfl⟩ := List.append_of_mem hd
    obtain ⟨k, hk, hopen⟩ := h pre d post rfl _ hp
    have hlt := hopen.lt
    rw [← Option.some.inj hk, List.length_append] at hlt
    omega
  · obtain rfl := List.mem_singleton.1 hd
    exact nomatch hcloses.symm.trans hcl

end HandleCalls

end MultiDAQ.Lib
