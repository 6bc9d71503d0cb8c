import Mathlib.Data.List.Basic

/-!
# Runs of a deterministic step function

A system is a step function `step : σ → α → σ`: what one action does to a state. `run` takes the
actions of a list in order. `Meets C` says that every action of a run meets a condition `C` in the
state it is taken in. An invariant that one step keeps, under `C`, holds after every run that meets
`C` (`run_invariant`), and so in every state such a run passes through (`run_invariant_along`). A
machine also answers every action with an output (`outputs`).
-/

namespace MultiDAQ.Lib

universe u v w

section Run

variable {σ : Type u} {α : Type v} {step : σ → α → σ}

/-- The state after the actions of `as`, in order. -/
def run (step : σ → α → σ) (s : σ) (as : List α) : σ :=
  as.foldl step s

@[simp] theorem run_nil (s : σ) : run step s [] = s := rfl

@[simp] theorem run_cons (s : σ) (a : α) (as : List α) :
    run step s (a :: as) = run step (step s a) as := rfl

theorem run_append (s : σ) (as bs : List α) :
    run step s (as ++ bs) = run step (run step s as) bs := by
  simp [run, List.foldl_append]

/-- A state that some run from `s₀` ends in. -/
def Reachable (step : σ → α → σ) (s₀ s : σ) : Prop :=
  ∃ as, run step s₀ as = s

/-- Every action of the run meets `C` in the state it is taken in. -/
def Meets (step : σ → α → σ) (C : σ → α → Prop) : σ → List α → Prop
  | _, [] => True
  | s, a :: as => C s a ∧ Meets step C (step s a) as

instance Meets.decidable {C : σ → α → Prop} [∀ s a, Decidable (C s a)] :
    ∀ (s : σ) (as : List α), Decidable (Meets step C s as)
  | _, [] => .isTrue trivial
  | s, a :: as =>
    have := Meets.decidable (C := C) (step s a) as
    inferInstanceAs (Decidable (C s a ∧ Meets step C (step s a) as))

theorem meets_append {C : σ → α → Prop} (s : σ) (as bs : List α) :
    Meets step C s (as ++ bs) ↔ Meets step C s as ∧ Meets step C (run step s as) bs := by
  induction as generalizing s with
  | nil => simp [Meets]
  | cons a as ih => simp [Meets, ih, and_assoc]

theorem Meets.and {C D : σ → α → Prop} {s : σ} {as : List α} (hc : Meets step C s as)
    (hd : Meets step D s as) : Meets step (fun s a => C s a ∧ D s a) s as := by
  induction as generalizing s with
  | nil => trivial
  | cons a as ih => exact ⟨⟨hc.1, hd.1⟩, ih hc.2 hd.2⟩

/-- A condition on the actions alone is met in every state. -/
theorem meets_of_forall {C : α → Prop} {as : List α} (h : ∀ a ∈ as, C a) (s : σ) :
    Meets step (fun _ a => C a) s as := by
  induction as generalizing s with
  | nil => trivial
  | cons a as ih =>
    exact ⟨h a List.mem_cons_self, ih (fun b hb => h b (List.mem_cons_of_mem _ hb)) _⟩

/-- What is met by a run is met by each of its steps. -/
theorem meets_iff_forall {C : σ → α → Prop} {s : σ} {as : List α} :
    Meets step C s as ↔ ∀ pre a post, as = pre ++ a :: post → C (run step s pre) a := by
  constructor
  · rintro h pre a post rfl
    exact ((meets_append s pre (a :: post)).1 h).2.1
  · intro h
    induction as generalizing s with
    | nil => trivial
    | cons a as ih =>
      refine ⟨h [] a as rfl, ih fun pre b post heq => ?_⟩
      exact h (a :: pre) b post (by rw [heq, List.cons_append])

/-- Two conditions that agree where `I` holds are met by the same runs, if one of them keeps `I`. -/
theorem meets_congr {I : σ → Prop} {C D : σ → α → Prop}
    (hstep : ∀ s a, I s → D s a → I (step s a)) (h : ∀ s a, I s → (D s a ↔ C s a)) :
    ∀ {s : σ} {as : List α}, I s → (Meets step D s as ↔ Meets step C s as) := by
  intro s as
  induction as generalizing s with
  | nil => exact fun _ => Iff.rfl
  | cons a as ih =>
    intro hs
    constructor
    · intro hm
      exact ⟨(h s a hs).1 hm.1, (ih (hstep s a hs hm.1)).1 hm.2⟩
    · intro hm
      have hd := (h s a hs).2 hm.1
      exact ⟨hd, (ih (hstep s a hs hd)).2 hm.2⟩

/-- What one step keeps, a whole run keeps. -/
theorem run_invariant {I : σ → Prop} {C : σ → α → Prop}
    (hstep : ∀ s a, I s → C s a → I (step s a)) :
    ∀ {s : σ} {as : List α}, I s → Meets step C s as → I (run step s as) := by
  intro s as
  induction as generalizing s with
  | nil => intro h _; exact h
  | cons a as ih =>
    intro h hm
    exact ih (hstep s a h hm.1) hm.2

/-- The invariant holds in every state the run passes through. -/
theorem run_invariant_along {I : σ → Prop} {C : σ → α → Prop}
    (hstep : ∀ s a, I s → C s a → I (step s a)) {s : σ} {as pre : List α}
    (h : I s) (hm : Meets step C s as) (hpre : pre <+: as) : I (run step s pre) := by
  obtain ⟨suf, rfl⟩ := hpre
  exact run_invariant hstep h ((meets_append s pre suf).1 hm).1

/-- What follows from `C` and an invariant that `C` keeps is met by every run that meets `C`. -/
theorem Meets.of_invariant {I : σ → Prop} {C D : σ → α → Prop}
    (hstep : ∀ s a, I s → C s a → I (step s a)) (h : ∀ s a, I s → C s a → D s a) :
    ∀ {s : σ} {as : List α}, I s → Meets step C s as → Meets step D s as := by
  intro s as
  induction as generalizing s with
  | nil => exact fun _ _ => trivial
  | cons a as ih =>
    intro hs hm
    exact ⟨h s a hs hm.1, ih (hstep s a hs hm.1) hm.2⟩

/-- When one step keeps `I` exactly under `C`, a run keeps `I` throughout exactly when it meets
`C`. -/
theorem run_invariant_iff {I J : σ → Prop} {C : σ → α → Prop} (hJ : ∀ s a, J s → J (step s a))
    (hstep : ∀ s a, J s → I s → (I (step s a) ↔ C s a)) :
    ∀ {s : σ} {as : List α}, J s → I s →
      ((∀ pre, pre <+: as → I (run step s pre)) ↔ Meets step C s as) := by
  intro s as
  induction as generalizing s with
  | nil =>
    intro _ h
    refine ⟨fun _ => trivial, fun _ pre hpre => ?_⟩
    obtain rfl := List.eq_nil_of_prefix_nil hpre
    exact h
  | cons a as ih =>
    intro hs h
    constructor
    · intro hall
      have hI : I (step s a) := hall [a] ⟨as, rfl⟩
      exact ⟨(hstep s a hs h).1 hI,
        (ih (hJ s a hs) hI).1 fun pre hpre => hall (a :: pre) (List.cons_prefix_cons.2 ⟨rfl, hpre⟩)⟩
    · intro hm pre hpre
      cases pre with
      | nil => exact h
      | cons b pre =>
        obtain ⟨rfl, hpre'⟩ := List.cons_prefix_cons.1 hpre
        exact (ih (hJ s b hs) ((hstep s b hs h).2 hm.1)).2 hm.2 pre hpre'

/-- What every step keeps or leaves by an exit `E`: the run keeps it throughout, or up to an exit. -/
theorem run_until {I : σ → Prop} {C E : σ → α → Prop}
    (hstep : ∀ s a, I s → C s a → I (step s a) ∨ E s a) :
    ∀ {s : σ} {as : List α}, I s → Meets step C s as →
      (∀ pre, pre <+: as → I (run step s pre)) ∨
      ∃ pre a post, as = pre ++ a :: post ∧ (∀ p, p <+: pre → I (run step s p)) ∧
        E (run step s pre) a := by
  intro s as
  induction as generalizing s with
  | nil =>
    intro h _
    refine .inl fun pre hpre => ?_
    obtain rfl := List.eq_nil_of_prefix_nil hpre
    exact h
  | cons a as ih =>
    intro h hm
    have hcons {pre : List α} (hI : ∀ p, p <+: pre → I (run step (step s a) p)) :
        ∀ p, p <+: a :: pre → I (run step s p) := by
      intro p hp
      cases p with
      | nil => exact h
      | cons b p =>
        obtain ⟨rfl, hp'⟩ := List.cons_prefix_cons.1 hp
        exact hI p hp'
    rcases hstep s a h hm.1 with hI | hE
    · rcases ih hI hm.2 with hall | ⟨pre, b, post, rfl, hpre, hb⟩
      · exact .inl (hcons hall)
      · exact .inr ⟨a :: pre, b, post, rfl, hcons hpre, hb⟩
    · refine .inr ⟨[], a, as, rfl, fun p hp => ?_, hE⟩
      obtain rfl := List.eq_nil_of_prefix_nil hp
      exact h

/-- An invariant that every step keeps holds in every reachable state. -/
theorem Reachable.invariant {I : σ → Prop} {s₀ s : σ}
    (hstep : ∀ s a, I s → I (step s a)) (h₀ : I s₀) (h : Reachable step s₀ s) : I s := by
  obtain ⟨as, rfl⟩ := h
  exact run_invariant (fun s a hs _ => hstep s a hs) h₀
    (meets_of_forall (C := fun _ => True) (fun _ _ => trivial) s₀)

end Run

/-! ## Machines with outputs -/

section Outputs

variable {σ : Type u} {α : Type v} {β : Type w} {step : σ → α → σ × β}

/-- What a machine answers to the actions of `as`, in order. -/
def outputs (step : σ → α → σ × β) : σ → List α → List β
  | _, [] => []
  | s, a :: as => (step s a).2 :: outputs step (step s a).1 as

/-- The state of the machine after the actions of `as`. -/
def finalState (step : σ → α → σ × β) (s : σ) (as : List α) : σ :=
  run (fun s a => (step s a).1) s as

@[simp] theorem finalState_nil (s : σ) : finalState step s [] = s := rfl

@[simp] theorem finalState_cons (s : σ) (a : α) (as : List α) :
    finalState step s (a :: as) = finalState step (step s a).1 as := rfl

@[simp] theorem outputs_nil (s : σ) : outputs step s [] = [] := rfl

@[simp] theorem outputs_cons (s : σ) (a : α) (as : List α) :
    outputs step s (a :: as) = (step s a).2 :: outputs step (step s a).1 as := rfl

theorem outputs_invariant_from {I : σ → List β → Prop} {C : α → Prop}
    (hstep : ∀ s out a, I s out → C a → I (step s a).1 (out ++ [(step s a).2])) :
    ∀ {s : σ} {out : List β} {as : List α}, I s out → (∀ a ∈ as, C a) →
      I (finalState step s as) (out ++ outputs step s as) := by
  intro s out as
  induction as generalizing s out with
  | nil =>
    intro h _
    rwa [outputs_nil, List.append_nil]
  | cons a as ih =>
    intro h hC
    have hrest := ih (hstep s out a h (hC a List.mem_cons_self)) fun b hb =>
      hC b (List.mem_cons_of_mem _ hb)
    rwa [List.append_assoc] at hrest

/-- What holds of a state and of the outputs so far, and is kept by one more action, holds after
every run. -/
theorem outputs_invariant {I : σ → List β → Prop} {C : α → Prop}
    (hstep : ∀ s out a, I s out → C a → I (step s a).1 (out ++ [(step s a).2]))
    {s : σ} {as : List α} (h : I s []) (hC : ∀ a ∈ as, C a) :
    I (finalState step s as) (outputs step s as) :=
  outputs_invariant_from hstep h hC

/-- The action that an output belongs to. -/
theorem outputs_eq_append_cons {s : σ} {pre post : List β} {b : β} :
    ∀ {as : List α}, outputs step s as = pre ++ b :: post → ∃ as₁ a as₂, as = as₁ ++ a :: as₂ ∧
      outputs step s as₁ = pre ∧ (step (finalState step s as₁) a).2 = b ∧
      outputs step (finalState step s (as₁ ++ [a])) as₂ = post := by
  intro as
  induction as generalizing s pre with
  | nil =>
    intro h
    exact absurd h.symm (List.append_ne_nil_of_right_ne_nil _ (List.cons_ne_nil _ _))
  | cons a as ih =>
    intro h
    cases pre with
    | nil =>
      obtain ⟨hb, hpost⟩ := List.cons.inj h
      exact ⟨[], a, as, rfl, rfl, hb, hpost⟩
    | cons p pre =>
      obtain ⟨rfl, hrest⟩ := List.cons.inj h
      obtain ⟨as₁, c, as₂, rfl, hpre, hc, hpost⟩ := ih hrest
      exact ⟨a :: as₁, c, as₂, rfl, congrArg _ hpre, hc, hpost⟩

end Outputs

end MultiDAQ.Lib
