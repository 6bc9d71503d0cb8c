import MultiDAQ.Lib.Interaction
import Mathlib.Data.List.Nodup

/-!
# Dealing with several things one after the other

A program deals with one thing at a time, and every thing is in a phase of its own: `Advances` says
that the program takes one of them from a phase to another and leaves every other thing in the phase
it is in. A loop over a list then takes all of its elements to their next phase
(`mapEach_advances`, `forEach_advances`; `mapEach_acts`, `forEach_acts` where everything that matters
about a thing is a function of the world), and a wait that polls everything that is pending once a
round settles some of them and leaves the others (`pollRounds_advances`).

When the outcome of a poll depends only on how often the thing has been polled before, the wait
settles each of them by its own first verdict (`pollRounds_spec`).
-/

namespace MultiDAQ.Lib.Interaction

section Phases

variable {Call : Type} {Value : Call → Type} {ε σ τ φ α β : Type}
variable {dev : Device Call Value ε} {At : τ → φ → World σ Call → Prop}

/-- While `x` is in the phase `a`, the program returns and `x` is in the phase that `next` has for
what it returned; every other element is still in the phase it was in. -/
def Advances (dev : Device Call Value ε) (At : τ → φ → World σ Call → Prop) (x : τ) (a : φ)
    (next : α → φ) (p : Interaction Call Value ε σ α) : Prop :=
  ∀ w, At x a w → ∃ v w', p dev w = (.ok v, w') ∧ At x (next v) w' ∧
    ∀ y b, y ≠ x → At y b w → At y b w'

theorem Advances.of_triple {x : τ} {a : φ} {next : α → φ} {p : Interaction Call Value ε σ α}
    (hself : Triple dev (At x a) p (fun v => At x (next v)) fun _ => False)
    (hother : ∀ y b, y ≠ x → Keeps dev (At y b) p) : Advances dev At x a next p := by
  intro w hw
  have hend := hself w hw
  rcases hrun : p dev w with ⟨e | v, w'⟩
  · rw [hrun] at hend
    exact hend.elim
  · rw [hrun] at hend
    refine ⟨v, w', rfl, hend, fun y b hy hb => ?_⟩
    have hkept := hother y b hy w hb
    rw [hrun] at hkept
    exact hkept

theorem mapEach_advances {body : τ → Interaction Call Value ε σ α} {a : φ} {next : α → φ} :
    ∀ (xs : List τ), (∀ x ∈ xs, Advances dev At x a next (body x)) → xs.Nodup →
      ∀ w, (∀ x ∈ xs, At x a w) → ∃ outcomes w', mapEach xs body dev w = (.ok outcomes, w') ∧
        outcomes.map Prod.fst = xs ∧ (∀ e ∈ outcomes, At e.1 (next e.2) w') ∧
        ∀ y b, y ∉ xs → At y b w → At y b w'
  | [], _, _, w, _ => ⟨[], w, rfl, rfl, nofun, fun _ _ _ h => h⟩
  | x :: xs, hbody, hnodup, w, hat => by
    obtain ⟨hx, hxs⟩ := List.nodup_cons.1 hnodup
    obtain ⟨v, w₁, hrun, hself, hother⟩ := hbody x List.mem_cons_self w (hat x List.mem_cons_self)
    have hat₁ : ∀ y ∈ xs, At y a w₁ := fun y hy =>
      hother y a (fun heq => hx (heq ▸ hy)) (hat y (List.mem_cons_of_mem _ hy))
    obtain ⟨outcomes, w', hrest, hkeys, hdone, hframe⟩ := mapEach_advances xs
      (fun y hy => hbody y (List.mem_cons_of_mem _ hy)) hxs w₁ hat₁
    refine ⟨(x, v) :: outcomes, w', (bind_of_ok hrun).trans (bind_of_ok hrest),
      congrArg (x :: ·) hkeys, fun e he => ?_, fun y b hy h => ?_⟩
    · rcases List.mem_cons.1 he with rfl | he
      · exact hframe x _ hx hself
      · exact hdone e he
    · rw [List.mem_cons, not_or] at hy
      exact hframe y b hy.2 (hother y b hy.1 h)

theorem forEach_advances {body : τ → Interaction Call Value ε σ Unit} {a : φ} {next : Unit → φ} :
    ∀ (xs : List τ), (∀ x ∈ xs, Advances dev At x a next (body x)) → xs.Nodup →
      ∀ w, (∀ x ∈ xs, At x a w) → ∃ w', forEach xs body dev w = (.ok (), w') ∧
        (∀ x ∈ xs, At x (next ()) w') ∧ ∀ y b, y ∉ xs → At y b w → At y b w'
  | [], _, _, w, _ => ⟨w, rfl, nofun, fun _ _ _ h => h⟩
  | x :: xs, hbody, hnodup, w, hat => by
    obtain ⟨hx, hxs⟩ := List.nodup_cons.1 hnodup
    obtain ⟨_, w₁, hrun, hself, hother⟩ := hbody x List.mem_cons_self w (hat x List.mem_cons_self)
    have hat₁ : ∀ y ∈ xs, At y a w₁ := fun y hy =>
      hother y a (fun heq => hx (heq ▸ hy)) (hat y (List.mem_cons_of_mem _ hy))
    obtain ⟨w', hrest, hdone, hframe⟩ := forEach_advances xs
      (fun y hy => hbody y (List.mem_cons_of_mem _ hy)) hxs w₁ hat₁
    refine ⟨w', (bind_of_ok hrun).trans hrest, fun y hy => ?_, fun y b hy h => ?_⟩
    · rcases List.mem_cons.1 hy with rfl | hy
      · exact hframe y _ hx hself
      · exact hdone y hy
    · rw [List.mem_cons, not_or] at hy
      exact hframe y b hy.2 (hother y b hy.1 h)

/-! ## Views -/

section Views

variable {view : World σ Call → τ → φ}

/-- Where the view of `x` is `v`, the program returns `a` and leaves the view `v'`; it does not change
the view of another element. -/
def Acts (dev : Device Call Value ε) (view : World σ Call → τ → φ) (x : τ) (v v' : φ) (a : α)
    (p : Interaction Call Value ε σ α) : Prop :=
  ∀ w, view w x = v → ∃ w', p dev w = (.ok a, w') ∧ view w' x = v' ∧
    ∀ y, y ≠ x → view w' y = view w y

theorem mapEach_acts [DecidableEq τ] {body : τ → Interaction Call Value ε σ α} (v' : τ → φ)
    (out : τ → α) : ∀ (xs : List τ) (w : World σ Call), xs.Nodup →
      (∀ x ∈ xs, Acts dev view x (view w x) (v' x) (out x) (body x)) → ∃ w',
        mapEach xs body dev w = (.ok (xs.map fun x => (x, out x)), w') ∧
        ∀ y, view w' y = if y ∈ xs then v' y else view w y
  | [], w, _, _ => ⟨w, rfl, fun _ => rfl⟩
  | x :: xs, w, hnodup, hbody => by
    obtain ⟨hx, hxs⟩ := List.nodup_cons.1 hnodup
    obtain ⟨w₁, hrun, hself, hother⟩ := hbody x List.mem_cons_self w rfl
    obtain ⟨w', hrest, hview⟩ := mapEach_acts v' out xs w₁ hxs fun y hy => by
      rw [hother y fun heq => hx (heq ▸ hy)]
      exact hbody y (List.mem_cons_of_mem _ hy)
    refine ⟨w', (bind_of_ok hrun).trans (bind_of_ok hrest), fun y => ?_⟩
    rw [hview]
    by_cases hyx : y = x
    · rw [hyx, if_neg hx, if_pos List.mem_cons_self, hself]
    · simp only [List.mem_cons, hyx, false_or, hother y hyx]

theorem forEach_acts [DecidableEq τ] {body : τ → Interaction Call Value ε σ Unit} (v' : τ → φ) :
    ∀ (xs : List τ) (w : World σ Call), xs.Nodup →
      (∀ x ∈ xs, Acts dev view x (view w x) (v' x) () (body x)) → ∃ w',
        forEach xs body dev w = (.ok (), w') ∧ ∀ y, view w' y = if y ∈ xs then v' y else view w y
  | [], w, _, _ => ⟨w, rfl, fun _ => rfl⟩
  | x :: xs, w, hnodup, hbody => by
    obtain ⟨hx, hxs⟩ := List.nodup_cons.1 hnodup
    obtain ⟨w₁, hrun, hself, hother⟩ := hbody x List.mem_cons_self w rfl
    obtain ⟨w', hrest, hview⟩ := forEach_acts v' xs w₁ hxs fun y hy => by
      rw [hother y fun heq => hx (heq ▸ hy)]
      exact hbody y (List.mem_cons_of_mem _ hy)
    refine ⟨w', (bind_of_ok hrun).trans hrest, fun y => ?_⟩
    rw [hview]
    by_cases hyx : y = x
    · rw [hyx, if_neg hx, if_pos List.mem_cons_self, hself]
    · simp only [List.mem_cons, hyx, false_or, hother y hyx]

end Views

/-! ## Waits -/

variable [DecidableEq τ] {poll : τ → Interaction Call Value ε σ (Option β)}
variable {pending : Nat → φ} {settled : β → φ}

/-- The phase after a poll: settled, or pending with one more poll behind it. -/
def polled (pending : Nat → φ) (settled : β → φ) (r : Nat) : Option β → φ
  | some b => settled b
  | none => pending (r + 1)

theorem pollOnce_advances {r : Nat}
    (hpoll : ∀ x, Advances dev At x (pending r) (polled pending settled r) (poll x)) :
    ∀ (xs ys : List τ), xs.Nodup → ys.Nodup → (∀ x ∈ xs, x ∈ ys) → ∀ w,
      (∀ x ∈ xs, At x (pending r) w) → ∃ out left w',
        pollOnce poll xs ys dev w = (.ok (out, left), w') ∧ (out.map Prod.fst ++ left).Perm ys ∧
        (∀ e ∈ out, At e.1 (settled e.2) w') ∧
        (∀ x ∈ xs, x ∈ left → At x (pending (r + 1)) w') ∧ ∀ y b, y ∉ xs → At y b w → At y b w'
  | [], ys, _, _, _, w, _ => ⟨[], ys, w, rfl, .refl _, nofun, nofun, fun _ _ _ h => h⟩
  | x :: xs, ys, hnodup, hys, hsub, w, hat => by
    obtain ⟨hx, hxs⟩ := List.nodup_cons.1 hnodup
    obtain ⟨v, w₁, hrun, hself, hother⟩ := hpoll x w (hat x List.mem_cons_self)
    have hne : ∀ y ∈ xs, y ≠ x := fun y hy heq => hx (heq ▸ hy)
    have hat₁ : ∀ y ∈ xs, At y (pending r) w₁ := fun y hy =>
      hother y _ (hne y hy) (hat y (List.mem_cons_of_mem _ hy))
    have hsub₁ : ∀ y ∈ xs, y ∈ ys := fun y hy => hsub y (List.mem_cons_of_mem _ hy)
    cases v with
    | none =>
      obtain ⟨out, left, w', hrest, hperm, hout, hleft, hframe⟩ :=
        pollOnce_advances hpoll xs ys hxs hys hsub₁ w₁ hat₁
      refine ⟨out, left, w', (bind_of_ok hrun).trans hrest, hperm, hout, fun y hy hyl => ?_,
        fun y b hy h => ?_⟩
      · rcases List.mem_cons.1 hy with rfl | hy
        · exact hframe y _ hx hself
        · exact hleft y hy hyl
      · rw [List.mem_cons, not_or] at hy
        exact hframe y b hy.2 (hother y b hy.1 h)
    | some c =>
      have herase : ∀ y ∈ xs, y ∈ ys.erase x := fun y hy =>
        hys.mem_erase_iff.2 ⟨hne y hy, hsub₁ y hy⟩
      obtain ⟨out, left, w', hrest, hperm, hout, hleft, hframe⟩ :=
        pollOnce_advances hpoll xs (ys.erase x) hxs (hys.erase x) herase w₁ hat₁
      refine ⟨(x, c) :: out, left, w', (bind_of_ok hrun).trans (bind_of_ok hrest), ?_,
        fun e he => ?_, fun y hy hyl => ?_, fun y b hy h => ?_⟩
      · exact (hperm.cons x).trans (List.perm_cons_erase (hsub x List.mem_cons_self)).symm
      · rcases List.mem_cons.1 he with rfl | he
        · exact hframe x _ hx hself
        · exact hout e he
      · rcases List.mem_cons.1 hy with rfl | hy
        · have hmem := hperm.subset (List.mem_append_right _ hyl)
          exact absurd rfl (hys.mem_erase_iff.1 hmem).1
        · exact hleft y hy hyl
      · rw [List.mem_cons, not_or] at hy
        exact hframe y b hy.2 (hother y b hy.1 h)

/-- After a wait of `n` rounds every element has been settled or is pending after `n` polls. -/
theorem pollRounds_advances : ∀ (n r : Nat), (∀ k, r ≤ k → k < r + n → ∀ x,
      Advances dev At x (pending k) (polled pending settled k) (poll x)) →
    ∀ (xs : List τ), xs.Nodup → ∀ w, (∀ x ∈ xs, At x (pending r) w) → ∃ out left w',
      pollRounds poll n xs dev w = (.ok (out, left), w') ∧ (out.map Prod.fst ++ left).Perm xs ∧
      (∀ e ∈ out, At e.1 (settled e.2) w') ∧ (∀ x ∈ left, At x (pending (r + n)) w') ∧
      ∀ y b, y ∉ xs → At y b w → At y b w'
  | 0, _, _, xs, _, w, hat => ⟨[], xs, w, rfl, .refl _, nofun, hat, fun _ _ _ h => h⟩
  | _ + 1, _, _, [], _, w, _ => ⟨[], [], w, rfl, .refl _, nofun, nofun, fun _ _ _ h => h⟩
  | n + 1, r, hpoll, x :: xs, hnodup, w, hat => by
    obtain ⟨out, left, w₁, hrun, hperm, hout, hleft, hframe⟩ := pollOnce_advances
      (hpoll r (Nat.le_refl r) (by omega)) (x :: xs) (x :: xs) hnodup hnodup (fun _ h => h) w hat
    obtain ⟨houtnd, hleftnd, hdisj⟩ := List.nodup_append'.1 (hperm.nodup_iff.2 hnodup)
    obtain ⟨out', left', w', hrest, hperm', hout', hleft', hframe'⟩ := pollRounds_advances n (r + 1)
      (fun k hk hkn => hpoll k (by omega) (by omega)) left hleftnd w₁
      fun y hy => hleft y (hperm.subset (List.mem_append_right _ hy)) hy
    refine ⟨out ++ out', left', w', (bind_of_ok hrun).trans (bind_of_ok hrest), ?_, fun e he => ?_,
      fun y hy => ?_, fun y b hy h => ?_⟩
    · rw [List.map_append, List.append_assoc]
      exact (hperm'.append_left _).trans hperm
    · rcases List.mem_append.1 he with he | he
      · exact hframe' _ _ (hdisj (List.mem_map_of_mem he)) (hout e he)
      · exact hout' e he
    · have hend := hleft' y hy
      rwa [Nat.add_right_comm, Nat.add_assoc] at hend
    · have hyl : y ∉ left := fun hyl => hy (hperm.subset (List.mem_append_right _ hyl))
      exact hframe' y b hyl (hframe y b hy h)

end Phases

/-! ## Waits with a verdict -/

section Verdicts

variable {Call : Type} {Value : Call → Type} {ε σ τ β : Type} [DecidableEq τ]
variable {dev : Device Call Value ε} {poll : τ → Interaction Call Value ε σ (Option β)}

/-- The first verdict within `n` polls, after `r` polls. -/
def firstVerdict (verdict : Nat → Option β) : (n r : Nat) → Option β
  | 0, _ => none
  | n + 1, r => match verdict r with
    | some b => some b
    | none => firstVerdict verdict n (r + 1)

/-- The poll of `x` that follows `r` others returns `verdict x r`. `Polled x r w` says that `x` has
been polled `r` times. -/
def PollsBy (dev : Device Call Value ε) (poll : τ → Interaction Call Value ε σ (Option β))
    (verdict : τ → Nat → Option β) (Polled : τ → Nat → World σ Call → Prop) : Prop :=
  ∀ x r w, Polled x r w → ∃ w', poll x dev w = (.ok (verdict x r), w') ∧ Polled x (r + 1) w' ∧
    ∀ y k, y ≠ x → Polled y k w → Polled y k w'

variable {verdict : τ → Nat → Option β} {Polled : τ → Nat → World σ Call → Prop}

/-- The phase of an element in a wait of `n` rounds that began after `r` polls, with what is still
to be found as its first verdict. -/
def VerdictPhase (verdict : τ → Nat → Option β) (Polled : τ → Nat → World σ Call → Prop)
    (n r : Nat) (x : τ) : Nat ⊕ β → World σ Call → Prop
  | .inl k, w =>
    Polled x k w ∧ firstVerdict (verdict x) n r = firstVerdict (verdict x) (r + n - k) k
  | .inr b, _ => firstVerdict (verdict x) n r = some b

omit [DecidableEq τ] in
theorem PollsBy.advances (hpoll : PollsBy dev poll verdict Polled) {n r k : Nat}
    (hk : k < r + n) (x : τ) : Advances dev (VerdictPhase verdict Polled n r) x (.inl k)
      (polled Sum.inl Sum.inr k) (poll x) := by
  rintro w ⟨hpolled, hfirst⟩
  obtain ⟨w', hrun, hself, hother⟩ := hpoll x k w hpolled
  obtain ⟨m, hm⟩ : ∃ m, r + n - k = m + 1 := ⟨r + n - k - 1, by omega⟩
  rw [hm, firstVerdict] at hfirst
  refine ⟨verdict x k, w', hrun, ?_, fun y c hy hc => ?_⟩
  · cases hv : verdict x k with
    | some b =>
      rw [hv] at hfirst
      exact hfirst
    | none =>
      rw [hv] at hfirst
      refine ⟨hself, hfirst.trans ?_⟩
      rw [show r + n - (k + 1) = m by omega]
  · cases c with
    | inl j => exact ⟨hother y j hy hc.1, hc.2⟩
    | inr b => exact hc

/-- After a wait of `n` rounds every element has been settled by its first verdict, or is left if it
had none. -/
theorem pollRounds_spec (hpoll : PollsBy dev poll verdict Polled) (n r : Nat) (xs : List τ)
    (w : World σ Call) (hnodup : xs.Nodup) (hat : ∀ x ∈ xs, Polled x r w) : ∃ settled left w',
      pollRounds poll n xs dev w = (.ok (settled, left), w') ∧
      (∀ x b, (x, b) ∈ settled ↔ x ∈ xs ∧ firstVerdict (verdict x) n r = some b) ∧
      ∀ x, x ∈ left ↔ x ∈ xs ∧ firstVerdict (verdict x) n r = none := by
  have hpolls : ∀ k, r ≤ k → k < r + n → ∀ x, Advances dev (VerdictPhase verdict Polled n r) x
      (.inl k) (polled Sum.inl Sum.inr k) (poll x) := fun k _ hk x => hpoll.advances hk x
  obtain ⟨out, left, w', hrun, hperm, hout, hleft, -⟩ := pollRounds_advances n r hpolls xs hnodup w
    fun x hx => ⟨hat x hx, by rw [Nat.add_sub_cancel_left]⟩
  have hnone : ∀ x ∈ left, firstVerdict (verdict x) n r = none := fun x hx => by
    rw [(hleft x hx).2, Nat.sub_self, firstVerdict]
  have hcases : ∀ x ∈ xs, (∃ b, (x, b) ∈ out) ∨ x ∈ left := fun x hx => by
    rcases List.mem_append.1 (hperm.symm.subset hx) with h | h
    · obtain ⟨⟨_, b⟩, he, rfl⟩ := List.mem_map.1 h
      exact .inl ⟨b, he⟩
    · exact .inr h
  refine ⟨out, left, w', hrun, fun x b => ⟨fun h => ?_, fun h => ?_⟩,
    fun x => ⟨fun h => ?_, fun h => ?_⟩⟩
  · exact ⟨hperm.subset (List.mem_append_left _ (List.mem_map_of_mem h)), hout _ h⟩
  · rcases hcases x h.1 with ⟨c, hc⟩ | hl
    · obtain rfl : c = b := Option.some.inj ((hout _ hc).symm.trans h.2)
      exact hc
    · cases (hnone x hl).symm.trans h.2
  · exact ⟨hperm.subset (List.mem_append_right _ h), hnone x h⟩
  · rcases hcases x h.1 with ⟨c, hc⟩ | hl
    · cases (hout _ hc).symm.trans h.2
    · exact hl

end Verdicts

/-! ## Loops that all went well -/

section Well

variable {Call : Type} {Value : Call → Type} {ε σ τ α β : Type}
variable {dev : Device Call Value ε} {I P : World σ Call → Prop}

theorem triple_any {p : Interaction Call Value ε σ α} :
    Triple dev P p (fun _ _ => True) fun _ => True := by
  intro w _
  rcases p dev w with ⟨_ | _, _⟩ <;> trivial

theorem Keeps.any {p : Interaction Call Value ε σ α} (h : Keeps dev I p) :
    Triple dev I p (fun _ => I) fun _ => True :=
  h.imp_error fun _ _ => trivial

/-- A body that keeps `I` where its outcome is good: if all outcomes are, `I` has been kept. -/
theorem triple_mapEach_well {G : α → Prop} {body : τ → Interaction Call Value ε σ α} :
    ∀ {xs : List τ},
      (∀ x ∈ xs, Triple dev I (body x) (fun a w => G a → I w) fun _ => True) →
      Triple dev I (mapEach xs body) (fun r w => (∀ e ∈ r, G e.2) → I w) fun _ => True
  | [], _ => triple_pure fun _ hw _ => hw
  | x :: xs, h => by
    refine triple_bind (h x List.mem_cons_self) fun a => ?_
    by_cases ha : G a
    · have hrest := @triple_mapEach_well _ _ xs fun y hy => h y (List.mem_cons_of_mem _ hy)
      refine triple_bind (hrest.conseq (fun _ hw => hw ha) (fun _ _ h => h) fun _ h => h)
        fun r => triple_pure fun w hw hall => hw fun e he => hall e (List.mem_cons_of_mem _ he)
    · exact triple_bind triple_any fun r => triple_pure fun w _ hall =>
        absurd (hall (x, a) List.mem_cons_self) ha

variable [DecidableEq τ] {G : β → Prop} {poll : τ → Interaction Call Value ε σ (Option β)}

theorem triple_pollOnce_well
    (h : ∀ x, Triple dev I (poll x) (fun o w => (∀ b, o = some b → G b) → I w) fun _ => True) :
    ∀ {xs pending : List τ},
      Triple dev I (pollOnce poll xs pending) (fun r w => (∀ e ∈ r.1, G e.2) → I w) fun _ => True
  | [], _ => triple_pure fun _ hw _ => hw
  | x :: xs, pending => by
    refine triple_bind (h x) fun o => ?_
    cases o with
    | none =>
      exact (triple_pollOnce_well h).conseq (fun _ hw => hw nofun) (fun _ _ h => h) fun _ h => h
    | some b =>
      by_cases hb : G b
      · refine triple_bind ((triple_pollOnce_well h).conseq (fun _ hw => hw fun c hc =>
          Option.some.inj hc ▸ hb) (fun _ _ h => h) fun _ h => h) fun r => ?_
        exact triple_pure fun w hw hall => hw fun e he => hall e (List.mem_cons_of_mem _ he)
      · exact triple_bind triple_any fun r => triple_pure fun w _ hall =>
          absurd (hall (x, b) List.mem_cons_self) hb

/-- The same of a wait: if everything that was settled was settled well. -/
theorem triple_pollRounds_well
    (h : ∀ x, Triple dev I (poll x) (fun o w => (∀ b, o = some b → G b) → I w) fun _ => True) :
    ∀ {n : Nat} {pending : List τ},
      Triple dev I (pollRounds poll n pending) (fun r w => (∀ e ∈ r.1, G e.2) → I w) fun _ => True
  | 0, _ => triple_pure fun _ hw _ => hw
  | _ + 1, [] => triple_pure fun _ hw _ => hw
  | n + 1, x :: xs => by
    refine triple_bind (triple_pollOnce_well h) fun r => ?_
    by_cases hr : ∀ e ∈ r.1, G e.2
    · refine triple_bind ((triple_pollRounds_well h).conseq (fun _ hw => hw hr) (fun _ _ h => h)
        fun _ h => h) fun r' => ?_
      exact triple_pure fun w hw hall => hw fun e he => hall e (List.mem_append_right _ he)
    · exact triple_bind triple_any fun r' => triple_pure fun w _ hall =>
        absurd (fun e he => hall e (List.mem_append_left _ he)) hr

end Well

end MultiDAQ.Lib.Interaction
