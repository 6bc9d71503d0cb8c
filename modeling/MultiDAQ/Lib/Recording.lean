import MultiDAQ.Lib.Interaction

/-!
# Programs that record what they are answered

A program that talks to a device and records every call with its reply. `Emits dev p R` says that,
whatever has been recorded before, the program ends by a value or an error and adds to the record as
`R` says; the record of a composed program is that of its parts, one after the other.

`Guarded` and `Followed` are about the order of a record: what comes before an exchange, and what
comes after it.
-/

namespace MultiDAQ.Lib

/-- A call with its reply. -/
structure Exchange (Call : Type) (Value : Call → Type) (ε : Type) where
  call : Call
  reply : Except ε (Value call)

/-- A program that keeps the record of its calls. -/
abbrev Recorder (Call : Type) (Value : Call → Type) (ε α : Type) : Type :=
  Interaction Call Value ε (List (Exchange Call Value ε)) α

namespace Recorder

open Interaction

section Programs

variable {Call : Type} {Value : Call → Type} {ε α β τ : Type}

/-- Issues a call and records the reply. -/
def ask [DecidableEq Call] (c : Call) : Recorder Call Value ε (Value c) :=
  tryExcept
    (do
      let a ← call c
      modify (· ++ [⟨c, .ok a⟩])
      pure a)
    fun e => do
      modify (· ++ [⟨c, .error e⟩])
      raise e

/-- A step that cannot fail, recorded like a call. -/
def note (c : Call) (a : Value c) : Recorder Call Value ε Unit := modify (· ++ [⟨c, .ok a⟩])

/-- A loop over a list, with the variables that it assigns. -/
def foldEach : List τ → β → (β → τ → Recorder Call Value ε β) → Recorder Call Value ε β
  | [], b, _ => pure b
  | x :: xs, b, body => do
    let b ← body b x
    foldEach xs b body

variable (dev : Device Call Value ε) (p : Recorder Call Value ε α)

/-- How the program ends, from an empty record. -/
def outcome : Except ε α := (p dev { state := [] }).1

/-- What the program records. -/
def record : List (Exchange Call Value ε) := (p dev { state := [] }).2.state

end Programs

/-! ## What a program adds to the record -/

section Emits

variable {Call : Type} {Value : Call → Type} {ε α β τ : Type} {dev : Device Call Value ε}

/-- Whatever has been recorded before, the program ends and adds to the record as `R` says. -/
def Emits (dev : Device Call Value ε) (p : Recorder Call Value ε α)
    (R : Except ε α → List (Exchange Call Value ε) → Prop) : Prop :=
  ∀ w, ∃ t, (p dev w).2.state = w.state ++ t ∧ R (p dev w).1 t

/-- A value in `Q`, or an error in `E`. -/
def Ending (Q : α → List (Exchange Call Value ε) → Prop)
    (E : ε → List (Exchange Call Value ε) → Prop) :
    Except ε α → List (Exchange Call Value ε) → Prop
  | .ok a, t => Q a t
  | .error e, t => E e t

variable {p : Recorder Call Value ε α} {R R' : Except ε α → List (Exchange Call Value ε) → Prop}
variable {S : Except ε β → List (Exchange Call Value ε) → Prop}

/-- A run from an empty record. -/
theorem Emits.run (h : Emits dev p R) : R (outcome dev p) (record dev p) := by
  obtain ⟨t, ht, hR⟩ := h { state := [] }
  have hrec : record dev p = t := ht
  rw [hrec]
  exact hR

theorem Emits.imp (h : Emits dev p R) (hR : ∀ r t, R r t → R' r t) : Emits dev p R' := by
  intro w
  obtain ⟨t, ht, hr⟩ := h w
  exact ⟨t, ht, hR _ _ hr⟩

/-- What holds of the added entries holds of one list. -/
theorem Emits.and (h : Emits dev p R) (h' : Emits dev p R') :
    Emits dev p fun r t => R r t ∧ R' r t := by
  intro w
  obtain ⟨t, ht, hr⟩ := h w
  obtain ⟨t', ht', hr'⟩ := h' w
  obtain rfl : t = t' := List.append_cancel_left (ht.symm.trans ht')
  exact ⟨t, ht, hr, hr'⟩

theorem emits_pure {a : α} (h : R (.ok a) []) :
    Emits dev (pure a : Recorder Call Value ε α) R :=
  fun w => ⟨[], (List.append_nil w.state).symm, h⟩

theorem emits_raise {e : ε} (h : R (.error e) []) :
    Emits dev (raise e : Recorder Call Value ε α) R :=
  fun w => ⟨[], (List.append_nil w.state).symm, h⟩

theorem emits_bind {k : α → Recorder Call Value ε β} (hp : Emits dev p R)
    (herr : ∀ e t, R (.error e) t → S (.error e) t)
    (hk : ∀ a t, R (.ok a) t → Emits dev (k a) fun r t' => S r (t ++ t')) :
    Emits dev (p >>= k) S := by
  intro w
  obtain ⟨t, ht, hr⟩ := hp w
  rcases hrun : p dev w with ⟨e | a, w₁⟩ <;> rw [hrun] at ht hr
  · rw [bind_of_error hrun]
    exact ⟨t, ht, herr e t hr⟩
  · rw [bind_of_ok hrun]
    obtain ⟨t', ht', hr'⟩ := hk a t hr w₁
    exact ⟨t ++ t', by rw [ht', ht, List.append_assoc], hr'⟩

theorem emits_pure_bind {a : α} {k : α → Recorder Call Value ε β} (h : Emits dev (k a) S) :
    Emits dev (pure a >>= k) S := h

theorem emits_raise_bind {e : ε} {k : α → Recorder Call Value ε β} (h : S (.error e) []) :
    Emits dev (raise e >>= k) S :=
  emits_raise h

theorem emits_try {handler : ε → Recorder Call Value ε α} (hp : Emits dev p R)
    (hok : ∀ a t, R (.ok a) t → R' (.ok a) t)
    (hh : ∀ e t, R (.error e) t → Emits dev (handler e) fun r t' => R' r (t ++ t')) :
    Emits dev (tryExcept p handler) R' := by
  intro w
  obtain ⟨t, ht, hr⟩ := hp w
  rcases hrun : p dev w with ⟨e | a, w₁⟩ <;> rw [hrun] at ht hr
  · rw [tryExcept_of_error hrun]
    obtain ⟨t', ht', hr'⟩ := hh e t hr w₁
    exact ⟨t ++ t', by rw [ht', ht, List.append_assoc], hr'⟩
  · rw [tryExcept_of_ok hrun]
    exact ⟨t, ht, hok a t hr⟩

/-- How `try: p finally: f` ends: as `p` does, unless `f` raises. -/
def afterFinally : Except ε α → Except ε Unit → Except ε α
  | r, .ok () => r
  | _, .error e => .error e

theorem emits_finally {f : Recorder Call Value ε Unit} (hp : Emits dev p R)
    (hf : ∀ r t, R r t → Emits dev f fun r' t' => R' (afterFinally r r') (t ++ t')) :
    Emits dev (tryFinally p f) R' := by
  -- the clause of `except`, and the one after it, see what `p` has recorded
  have hcaught : Emits dev (tryExcept p fun e => do f; raise e) (Ending (fun a t => R (.ok a) t)
      fun e t => R' (.error e) t) := by
    refine emits_try hp (fun _ _ hr => hr) fun e t hr => ?_
    refine emits_bind (hf _ t hr) (fun _ _ hr' => hr') fun _ t' hr' => emits_raise ?_
    rw [List.append_nil]
    exact hr'
  refine emits_bind hcaught (fun _ _ hr => hr) fun a t hr => ?_
  refine emits_bind (hf _ t hr) (fun _ _ hr' => hr') fun _ t' hr' => emits_pure ?_
  rw [List.append_nil]
  exact hr'

theorem emits_note {c : Call} {a : Value c} {R : Except ε Unit → List (Exchange Call Value ε) → Prop}
    (h : R (.ok ()) [⟨c, .ok a⟩]) : Emits dev (note c a) R :=
  fun _ => ⟨[⟨c, .ok a⟩], rfl, h⟩

section Ask

variable [DecidableEq Call]

theorem emits_ask {c : Call} {R : Except ε (Value c) → List (Exchange Call Value ε) → Prop}
    (h : ∀ reply, R reply [⟨c, reply⟩]) : Emits dev (ask c) R := by
  intro w
  rcases hrun : (call c : Recorder Call Value ε (Value c)) dev w with ⟨e | a, w₁⟩
  · have hstate : w₁.state = w.state := congrArg (·.2.state) hrun.symm
    refine ⟨[⟨c, .error e⟩], ?_, ?_⟩ <;> unfold ask <;> rw [tryExcept_of_error (bind_of_error hrun)]
    · exact congrArg (· ++ _) hstate
    · exact h (.error e)
  · have hstate : w₁.state = w.state := congrArg (·.2.state) hrun.symm
    have hok : (do
        let a ← call c
        modify (· ++ [⟨c, .ok a⟩])
        pure a : Recorder Call Value ε (Value c)) dev w =
        (.ok a, w₁.update (· ++ [⟨c, .ok a⟩])) :=
      bind_of_ok hrun
    refine ⟨[⟨c, .ok a⟩], ?_, ?_⟩ <;> unfold ask <;> rw [tryExcept_of_ok hok]
    · exact congrArg (· ++ _) hstate
    · exact h (.ok a)

/-- A call, and what follows its reply. -/
theorem emits_ask_bind {c : Call} {k : Value c → Recorder Call Value ε β}
    (herr : ∀ e, S (.error e) [⟨c, .error e⟩])
    (hk : ∀ a, Emits dev (k a) fun r t => S r (⟨c, .ok a⟩ :: t)) : Emits dev (ask c >>= k) S := by
  refine emits_bind (R := fun reply t => t = [⟨c, reply⟩]) (emits_ask fun _ => rfl) ?_ ?_
  · rintro e _ rfl
    exact herr e
  · rintro a _ rfl
    exact hk a

end Ask

/-- The invariant of a loop, about the elements it has gone over, its variables and its record. -/
theorem emits_foldEach {body : β → τ → Recorder Call Value ε β}
    {I : List τ → β → List (Exchange Call Value ε) → Prop}
    {E : ε → List (Exchange Call Value ε) → Prop} {xs : List τ} {b : β} (h0 : I [] b [])
    (hstep : ∀ done x rest b t, xs = done ++ x :: rest → I done b t →
      Emits dev (body b x) fun r t' => Ending (I (done ++ [x])) E r (t ++ t')) :
    Emits dev (foldEach xs b body) (Ending (I xs) E) := by
  have hrest : ∀ rest done b t, xs = done ++ rest → I done b t →
      Emits dev (foldEach rest b body) fun r t' => Ending (I xs) E r (t ++ t') := by
    intro rest
    induction rest with
    | nil =>
      rintro done b t hxs hI
      rw [List.append_nil] at hxs
      exact emits_pure (by rw [List.append_nil, hxs]; exact hI)
    | cons x rest ih =>
      rintro done b t hxs hI
      refine emits_bind (hstep done x rest b t hxs hI) (fun _ _ hr => hr) fun b' t' hI' => ?_
      refine (ih (done ++ [x]) b' (t ++ t') (by rw [hxs, List.append_assoc]; rfl) hI').imp ?_
      intro r t'' hr
      rw [← List.append_assoc]
      exact hr
  exact (hrest xs [] b [] rfl h0).imp fun _ _ hr => hr

end Emits

/-! ## Programs that issue some calls only -/

section Only

variable {Call : Type} {Value : Call → Type} {ε α β τ : Type} {dev : Device Call Value ε}
variable {C : Call → Prop} {p : Recorder Call Value ε α}

/-- Every call of the program is in `C`. -/
def Only (dev : Device Call Value ε) (C : Call → Prop) (p : Recorder Call Value ε α) : Prop :=
  Emits dev p fun _ t => ∀ x ∈ t, C x.call

theorem Only.imp {C' : Call → Prop} (h : Only dev C p) (hC : ∀ c, C c → C' c) : Only dev C' p :=
  Emits.imp h fun _ _ ht x hx => hC _ (ht x hx)

theorem only_pure (a : α) : Only dev C (pure a : Recorder Call Value ε α) :=
  emits_pure (List.forall_mem_nil _)

theorem only_raise (e : ε) : Only dev C (raise e : Recorder Call Value ε α) :=
  emits_raise (List.forall_mem_nil _)

theorem only_bind {k : α → Recorder Call Value ε β} (hp : Only dev C p)
    (hk : ∀ a, Only dev C (k a)) : Only dev C (p >>= k) :=
  emits_bind hp (fun _ _ h => h) fun a _ ht =>
    Emits.imp (hk a) fun _ _ h => List.forall_mem_append.2 ⟨ht, h⟩

theorem only_try {handler : ε → Recorder Call Value ε α} (hp : Only dev C p)
    (hh : ∀ e, Only dev C (handler e)) : Only dev C (tryExcept p handler) :=
  emits_try hp (fun _ _ h => h) fun e _ ht =>
    Emits.imp (hh e) fun _ _ h => List.forall_mem_append.2 ⟨ht, h⟩

theorem only_finally {f : Recorder Call Value ε Unit} (hp : Only dev C p) (hf : Only dev C f) :
    Only dev C (tryFinally p f) :=
  emits_finally hp fun _ _ ht => Emits.imp hf fun _ _ ht' => List.forall_mem_append.2 ⟨ht, ht'⟩

theorem only_ask [DecidableEq Call] {c : Call} (h : C c) :
    Only dev C (ask c : Recorder Call Value ε (Value c)) :=
  emits_ask fun _ => List.forall_mem_singleton.2 h

theorem only_note {c : Call} {a : Value c} (h : C c) :
    Only dev C (note c a : Recorder Call Value ε Unit) :=
  emits_note (List.forall_mem_singleton.2 h)

theorem only_foldEach {body : β → τ → Recorder Call Value ε β} {xs : List τ} {b : β}
    (h : ∀ b, ∀ x ∈ xs, Only dev C (body b x)) : Only dev C (foldEach xs b body) := by
  induction xs generalizing b with
  | nil => exact only_pure b
  | cons x xs ih =>
    exact only_bind (h b x List.mem_cons_self) fun b' =>
      ih fun b y hy => h b y (List.mem_cons_of_mem x hy)

end Only

/-! ## The order of a record -/

section Order

variable {X : Type} {P : X → Prop} {G : X → List X → Prop} {h t t₁ t₂ : List X} {x : X}

/-- Every entry in `P` comes after what `G` asks of the record before it; `h` is what was recorded
before `t`. -/
def Guarded (P : X → Prop) (G : X → List X → Prop) : List X → List X → Prop
  | _, [] => True
  | h, x :: t => (P x → G x h) ∧ Guarded P G (h ++ [x]) t

/-- Every entry in `P` comes before what `G` asks of the record after it. -/
def Followed (P : X → Prop) (G : X → List X → Prop) : List X → Prop
  | [] => True
  | x :: t => (P x → G x t) ∧ Followed P G t

theorem guarded_append (h₁ : Guarded P G h t₁) (h₂ : Guarded P G (h ++ t₁) t₂) :
    Guarded P G h (t₁ ++ t₂) := by
  induction t₁ generalizing h with
  | nil =>
    rw [List.append_nil] at h₂
    exact h₂
  | cons x t₁ ih =>
    refine ⟨h₁.1, ih h₁.2 ?_⟩
    simpa only [List.append_assoc, List.cons_append, List.nil_append] using h₂

theorem guarded_of_forall_not (hP : ∀ x ∈ t, ¬ P x) : Guarded P G h t := by
  induction t generalizing h with
  | nil => trivial
  | cons x t ih =>
    obtain ⟨hx, ht⟩ := List.forall_mem_cons.1 hP
    exact ⟨fun hp => absurd hp hx, ih ht⟩

/-- What a guarded record says of one of its entries. -/
theorem Guarded.before (hg : Guarded P G h (t₁ ++ x :: t₂)) (hx : P x) : G x (h ++ t₁) := by
  induction t₁ generalizing h with
  | nil => simpa only [List.append_nil] using hg.1 hx
  | cons y t₁ ih =>
    have := ih hg.2
    rwa [List.append_assoc] at this

/-- An entry in `P`, with what comes before it. -/
theorem Guarded.of_mem (hg : Guarded P G h t) (hmem : x ∈ t) (hx : P x) :
    ∃ t₁ t₂, t = t₁ ++ x :: t₂ ∧ G x (h ++ t₁) := by
  obtain ⟨t₁, t₂, rfl⟩ := List.append_of_mem hmem
  exact ⟨t₁, t₂, rfl, hg.before hx⟩

/-- More has been recorded before. -/
theorem Guarded.shift {G' : X → List X → Prop} {h₀ : List X} (hg : Guarded P G h t)
    (hG : ∀ x h, P x → G x h → G' x (h₀ ++ h)) : Guarded P G' (h₀ ++ h) t := by
  induction t generalizing h with
  | nil => trivial
  | cons x t ih =>
    refine ⟨fun hx => hG x h hx (hg.1 hx), ?_⟩
    rw [List.append_assoc]
    exact ih hg.2

theorem followed_append {G' : X → List X → Prop} (h₁ : Followed P G' t₁) (h₂ : Followed P G t₂)
    (hG : ∀ x ∈ t₁, ∀ t, G' x t → G x (t ++ t₂)) : Followed P G (t₁ ++ t₂) := by
  induction t₁ with
  | nil => exact h₂
  | cons x t₁ ih =>
    obtain ⟨hx, ht⟩ := List.forall_mem_cons.1 hG
    exact ⟨fun hp => hx t₁ (h₁.1 hp), ih h₁.2 ht⟩

theorem followed_of_forall_not (hP : ∀ x ∈ t, ¬ P x) : Followed P G t := by
  induction t with
  | nil => trivial
  | cons x t ih =>
    obtain ⟨hx, ht⟩ := List.forall_mem_cons.1 hP
    exact ⟨fun hp => absurd hp hx, ih ht⟩

/-- What comes later is enough for every entry. -/
theorem followed_append_right (h₁ : ∀ x ∈ t₁, P x → ∀ t, G x (t ++ t₂)) (h₂ : Followed P G t₂) :
    Followed P G (t₁ ++ t₂) := by
  induction t₁ with
  | nil => exact h₂
  | cons x t₁ ih =>
    obtain ⟨hx, ht⟩ := List.forall_mem_cons.1 h₁
    exact ⟨fun hp => hx hp t₁, ih ht⟩

theorem followed_of_forall (hG : ∀ x t, G x t) : Followed P G t := by
  induction t with
  | nil => trivial
  | cons x t ih => exact ⟨fun _ => hG x t, ih⟩

theorem Followed.imp {G' : X → List X → Prop} (hf : Followed P G t)
    (hG : ∀ x t, G x t → G' x t) : Followed P G' t := by
  induction t with
  | nil => trivial
  | cons x t ih => exact ⟨fun hx => hG x t (hf.1 hx), ih hf.2⟩

end Order

end Recorder

end MultiDAQ.Lib
