import Mathlib.Data.List.Basic

/-!
# Programs that talk to a device

A program issues calls to a device and keeps a state of its own. The device is an arbitrary pattern
of answers: `answer c n` is what it answers to the `n`-th issue of the call `c`, a value or an
error, and `rounds n` is how many rounds a wait lasts that begins after `n` calls. A call that is
answered by an error raises it, and `tryExcept` catches it.

`Triple dev P p Q E` says that from a world in `P` the program returns a value and a world in `Q`,
or raises in a world in `E`. `Keeps dev I p` says that it keeps `I` however it ends, and
`Answers dev I p` that it keeps `I` and does not raise.
-/

namespace MultiDAQ.Lib

structure Device (Call : Type) (Value : Call → Type) (ε : Type) where
  answer : (c : Call) → Nat → Except ε (Value c)
  rounds : Nat → Nat

/-- The device answers the call whenever it is issued, with a value in `V`. -/
def Device.Gives {Call : Type} {Value : Call → Type} {ε : Type} (dev : Device Call Value ε)
    (c : Call) (V : Value c → Prop) : Prop :=
  ∀ n, ∃ a, dev.answer c n = .ok a ∧ V a

/-- The device never answers the call. -/
def Device.Refuses {Call : Type} {Value : Call → Type} {ε : Type} (dev : Device Call Value ε)
    (c : Call) : Prop :=
  ∀ n, ∃ e, dev.answer c n = .error e

/-- The state of the program, and the calls it has issued, oldest first. -/
structure World (σ Call : Type) where
  state : σ
  calls : List Call := []
  deriving DecidableEq, Repr

namespace World

variable {σ Call : Type}

def issue (w : World σ Call) (c : Call) : World σ Call := { w with calls := w.calls ++ [c] }

def update (w : World σ Call) (f : σ → σ) : World σ Call := { w with state := f w.state }

@[simp] theorem issue_state (w : World σ Call) (c : Call) : (w.issue c).state = w.state := rfl

@[simp] theorem issue_calls (w : World σ Call) (c : Call) :
    (w.issue c).calls = w.calls ++ [c] := rfl

@[simp] theorem update_state (w : World σ Call) (f : σ → σ) :
    (w.update f).state = f w.state := rfl

@[simp] theorem update_calls (w : World σ Call) (f : σ → σ) : (w.update f).calls = w.calls := rfl

end World

def Interaction (Call : Type) (Value : Call → Type) (ε σ α : Type) : Type :=
  Device Call Value ε → World σ Call → Except ε α × World σ Call

namespace Interaction

section Programs

variable {Call : Type} {Value : Call → Type} {ε σ τ α β : Type}

instance : Monad (Interaction Call Value ε σ) where
  pure a := fun _ w => (.ok a, w)
  bind p k := fun dev w =>
    match p dev w with
    | (.ok a, w') => k a dev w'
    | (.error e, w') => (.error e, w')

def raise (e : ε) : Interaction Call Value ε σ α := fun _ w => (.error e, w)

/-- `try: p except: h`. -/
def tryExcept (p : Interaction Call Value ε σ α) (h : ε → Interaction Call Value ε σ α) :
    Interaction Call Value ε σ α := fun dev w =>
  match p dev w with
  | (.ok a, w') => (.ok a, w')
  | (.error e, w') => h e dev w'

/-- `try: p finally: f`. -/
def tryFinally (p : Interaction Call Value ε σ α) (f : Interaction Call Value ε σ Unit) :
    Interaction Call Value ε σ α := do
  let a ← tryExcept p fun e => do
    f
    raise e
  f
  pure a

def call [DecidableEq Call] (c : Call) : Interaction Call Value ε σ (Value c) := fun dev w =>
  (dev.answer c (w.calls.count c), w.issue c)

def read (f : σ → α) : Interaction Call Value ε σ α := fun _ w => (.ok (f w.state), w)

def modify (f : σ → σ) : Interaction Call Value ε σ Unit := fun _ w => (.ok (), w.update f)

/-- The rounds of a wait that begins now. -/
def waitRounds : Interaction Call Value ε σ Nat := fun dev w => (.ok (dev.rounds w.calls.length), w)

/-- A loop over `xs`. -/
def forEach : List τ → (τ → Interaction Call Value ε σ Unit) → Interaction Call Value ε σ Unit
  | [], _ => pure ()
  | x :: xs, body => do
    body x
    forEach xs body

/-- A loop over `xs` that records what its body returns for every element. -/
def mapEach : List τ → (τ → Interaction Call Value ε σ α) →
    Interaction Call Value ε σ (List (τ × α))
  | [], _ => pure []
  | x :: xs, body => do
    let a ← body x
    let rest ← mapEach xs body
    pure ((x, a) :: rest)

/-- An attempt whose failure is dealt with by `recover`. -/
def attempt (p : Interaction Call Value ε σ α) (recover : Interaction Call Value ε σ Unit) :
    Interaction Call Value ε σ (Option α) :=
  tryExcept (some <$> p) fun _ => do
    recover
    pure none

/-- One round of a wait: every element of `xs` is polled, and one that is settled leaves
`pending`. -/
def pollOnce [DecidableEq τ] (poll : τ → Interaction Call Value ε σ (Option β)) :
    List τ → List τ → Interaction Call Value ε σ (List (τ × β) × List τ)
  | [], pending => pure ([], pending)
  | x :: xs, pending => do
    match ← poll x with
    | some b =>
      let (settled, left) ← pollOnce poll xs (pending.erase x)
      pure ((x, b) :: settled, left)
    | none => pollOnce poll xs pending

/-- The rounds of a wait, while something is pending: what was settled, in order, and what is still
pending at the end. -/
def pollRounds [DecidableEq τ] (poll : τ → Interaction Call Value ε σ (Option β)) :
    Nat → List τ → Interaction Call Value ε σ (List (τ × β) × List τ)
  | 0, pending => pure ([], pending)
  | _ + 1, [] => pure ([], [])
  | n + 1, x :: xs => do
    let (settled, pending) ← pollOnce poll (x :: xs) (x :: xs)
    let (settled', left) ← pollRounds poll n pending
    pure (settled ++ settled', left)

/-! ## Runs -/

section Runs

variable {dev : Device Call Value ε} {w w' : World σ Call} {a : α} {e : ε}

theorem bind_of_ok {p : Interaction Call Value ε σ α} {k : α → Interaction Call Value ε σ β}
    (h : p dev w = (.ok a, w')) : (p >>= k) dev w = k a dev w' := by
  show (match p dev w with
    | (.ok a, w') => k a dev w'
    | (.error e, w') => (.error e, w')) = k a dev w'
  rw [h]

theorem map_of_ok {p : Interaction Call Value ε σ α} {f : α → β} (h : p dev w = (.ok a, w')) :
    (f <$> p) dev w = (.ok (f a), w') :=
  bind_of_ok h

theorem bind_of_error {p : Interaction Call Value ε σ α} {k : α → Interaction Call Value ε σ β}
    (h : p dev w = (.error e, w')) : (p >>= k) dev w = (.error e, w') := by
  show (match p dev w with
    | (.ok a, w') => k a dev w'
    | (.error e, w') => (.error e, w')) = (.error e, w')
  rw [h]

theorem bind_bind {γ : Type} {p : Interaction Call Value ε σ α}
    {q : α → Interaction Call Value ε σ β} {k : β → Interaction Call Value ε σ γ} :
    (p >>= q >>= k) dev w = (p >>= fun a => q a >>= k) dev w := by
  rcases h : p dev w with ⟨e | a, w'⟩
  · rw [bind_of_error h, bind_of_error (bind_of_error h)]
  · rw [bind_of_ok h]
    rcases h' : q a dev w' with ⟨e | b, w''⟩
    · rw [bind_of_error h', bind_of_error ((bind_of_ok h).trans h')]
    · rw [bind_of_ok h', bind_of_ok ((bind_of_ok h).trans h')]

theorem map_world {p : Interaction Call Value ε σ α} {f : α → β} :
    ((f <$> p) dev w).2 = (p dev w).2 := by
  show (match p dev w with
    | (.ok a, w') => (pure (f a) : Interaction Call Value ε σ β) dev w'
    | (.error e, w') => (.error e, w')).2 = _
  rcases p dev w with ⟨_ | _, _⟩ <;> rfl

/-- A handler that only returns leaves the world as the failure left it. -/
theorem tryExcept_pure_world {p : Interaction Call Value ε σ α} {a : ε → α} :
    (tryExcept p (fun e => pure (a e)) dev w).2 = (p dev w).2 := by
  unfold tryExcept
  rcases p dev w with ⟨_ | _, _⟩ <;> rfl

theorem tryExcept_of_ok {p : Interaction Call Value ε σ α}
    {handler : ε → Interaction Call Value ε σ α} (h : p dev w = (.ok a, w')) :
    tryExcept p handler dev w = (.ok a, w') := by
  unfold tryExcept
  rw [h]

theorem tryExcept_of_error {p : Interaction Call Value ε σ α}
    {handler : ε → Interaction Call Value ε σ α} (h : p dev w = (.error e, w')) :
    tryExcept p handler dev w = handler e dev w' := by
  unfold tryExcept
  rw [h]

/-! What a run that returned has gone through. -/

theorem of_bind_ok {p : Interaction Call Value ε σ α} {k : α → Interaction Call Value ε σ β} {b : β}
    (h : (p >>= k) dev w = (.ok b, w')) :
    ∃ a w₁, p dev w = (.ok a, w₁) ∧ k a dev w₁ = (.ok b, w') := by
  rcases hp : p dev w with ⟨e | a, w₁⟩
  · rw [bind_of_error hp] at h
    cases h
  · rw [bind_of_ok hp] at h
    exact ⟨a, w₁, rfl, h⟩

theorem of_call_ok [DecidableEq Call] {c : Call} {v : Value c}
    (h : (call c : Interaction Call Value ε σ (Value c)) dev w = (.ok v, w')) :
    dev.answer c (w.calls.count c) = .ok v ∧ w' = w.issue c := by
  obtain ⟨hv, hw⟩ := Prod.mk.inj h
  exact ⟨hv, hw.symm⟩

theorem of_tryExcept_ok {p : Interaction Call Value ε σ α}
    {handler : ε → Interaction Call Value ε σ α} (h : tryExcept p handler dev w = (.ok a, w')) :
    p dev w = (.ok a, w') ∨
      ∃ e w₁, p dev w = (.error e, w₁) ∧ handler e dev w₁ = (.ok a, w') := by
  rcases hp : p dev w with ⟨e | b, w₁⟩
  · rw [tryExcept_of_error hp] at h
    exact .inr ⟨e, w₁, rfl, h⟩
  · rw [tryExcept_of_ok hp] at h
    exact .inl h

theorem of_tryFinally_ok {p : Interaction Call Value ε σ α} {f : Interaction Call Value ε σ Unit}
    (h : tryFinally p f dev w = (.ok a, w')) :
    ∃ w₁, p dev w = (.ok a, w₁) ∧ f dev w₁ = (.ok (), w') := by
  obtain ⟨b, w₁, hp, h⟩ := of_bind_ok h
  obtain ⟨_, w₂, hf, h⟩ := of_bind_ok h
  cases h
  rcases of_tryExcept_ok hp with hp | ⟨e, w₃, -, hraise⟩
  · exact ⟨w₁, hp, hf⟩
  · obtain ⟨_, w₄, -, hraise⟩ := of_bind_ok hraise
    cases hraise

end Runs

end Programs

/-! ## Triples -/

section Triples

variable {Call : Type} {Value : Call → Type} {ε σ τ α β : Type}
variable {dev : Device Call Value ε} {P I : World σ Call → Prop} {E : World σ Call → Prop}
variable {Q : α → World σ Call → Prop} {R : β → World σ Call → Prop}

/-- An outcome that is a value in `Q` or an error in `E`. -/
def Ends (Q : α → World σ Call → Prop) (E : World σ Call → Prop) :
    Except ε α × World σ Call → Prop
  | (.ok a, w) => Q a w
  | (.error _, w) => E w

def Triple (dev : Device Call Value ε) (P : World σ Call → Prop)
    (p : Interaction Call Value ε σ α) (Q : α → World σ Call → Prop)
    (E : World σ Call → Prop) : Prop :=
  ∀ w, P w → Ends Q E (p dev w)

/-- The program keeps `I`, whether it returns or raises. -/
def Keeps (dev : Device Call Value ε) (I : World σ Call → Prop)
    (p : Interaction Call Value ε σ α) : Prop :=
  Triple dev I p (fun _ => I) I

/-- The program keeps `I` and returns. -/
def Answers (dev : Device Call Value ε) (I : World σ Call → Prop)
    (p : Interaction Call Value ε σ α) : Prop :=
  Triple dev I p (fun _ => I) fun _ => False

theorem Ends.imp {Q Q' : α → World σ Call → Prop} {E E' : World σ Call → Prop}
    {r : Except ε α × World σ Call} (h : Ends Q E r) (hQ : ∀ a w, Q a w → Q' a w)
    (hE : ∀ w, E w → E' w) : Ends Q' E' r := by
  obtain ⟨_ | a, w⟩ := r
  · exact hE w h
  · exact hQ a w h

theorem Triple.conseq {P' E' : World σ Call → Prop} {Q' : α → World σ Call → Prop}
    {p : Interaction Call Value ε σ α} (h : Triple dev P p Q E) (hP : ∀ w, P' w → P w)
    (hQ : ∀ a w, Q a w → Q' a w) (hE : ∀ w, E w → E' w) : Triple dev P' p Q' E' :=
  fun w hw => (h w (hP w hw)).imp hQ hE

theorem Triple.imp_result {E' : World σ Call → Prop} {Q' : α → World σ Call → Prop}
    {p : Interaction Call Value ε σ α} (h : Triple dev P p Q E) (hQ : ∀ a w, Q a w → Q' a w)
    (hE : ∀ w, E w → E' w) : Triple dev P p Q' E' :=
  h.conseq (fun _ hw => hw) hQ hE

theorem Triple.imp_error {E' : World σ Call → Prop} {p : Interaction Call Value ε σ α}
    (h : Triple dev P p Q E) (hE : ∀ w, E w → E' w) : Triple dev P p Q E' :=
  h.imp_result (fun _ _ hw => hw) hE

theorem triple_pure {a : α} (h : ∀ w, P w → Q a w) :
    Triple dev P (pure a : Interaction Call Value ε σ α) Q E := h

theorem triple_bind {p : Interaction Call Value ε σ α} {k : α → Interaction Call Value ε σ β}
    (hp : Triple dev P p Q E) (hk : ∀ a, Triple dev (Q a) (k a) R E) :
    Triple dev P (p >>= k) R E := by
  intro w hw
  have h := hp w hw
  show Ends R E (match p dev w with
    | (.ok a, w') => k a dev w'
    | (.error e, w') => (.error e, w'))
  rcases hr : p dev w with ⟨e | a, w'⟩
  · rw [hr] at h
    exact h
  · rw [hr] at h
    exact hk a w' h

theorem triple_map {p : Interaction Call Value ε σ α} {f : α → β}
    (hp : Triple dev P p (fun a => R (f a)) E) : Triple dev P (f <$> p) R E :=
  triple_bind hp fun _ => triple_pure fun _ h => h

theorem triple_try {E' : World σ Call → Prop} {p : Interaction Call Value ε σ α}
    {h : ε → Interaction Call Value ε σ α} (hp : Triple dev P p Q E')
    (hh : ∀ e, Triple dev E' (h e) Q E) : Triple dev P (tryExcept p h) Q E := by
  intro w hw
  have hend := hp w hw
  unfold tryExcept
  rcases hr : p dev w with ⟨e | a, w'⟩
  · rw [hr] at hend
    exact hh e w' hend
  · rw [hr] at hend
    exact hend

/-- What `f` establishes holds after `finally: f`, however the body ended. -/
theorem triple_finally {E' : World σ Call → Prop} {Q' : α → World σ Call → Prop}
    {p : Interaction Call Value ε σ α} {f : Interaction Call Value ε σ Unit}
    (hp : Triple dev P p Q E') (hf : ∀ a, Triple dev (Q a) f (fun _ => Q' a) E)
    (hf' : Triple dev E' f (fun _ => E) E) : Triple dev P (tryFinally p f) Q' E :=
  triple_bind
    (triple_try hp fun _ => triple_bind hf' fun _ => fun _ hw => hw)
    fun a => triple_bind (hf a) fun _ => triple_pure fun _ hw => hw

theorem triple_read {f : σ → α} (h : ∀ w, P w → Q (f w.state) w) :
    Triple dev P (read f : Interaction Call Value ε σ α) Q E := h

theorem triple_modify {f : σ → σ} {Q : Unit → World σ Call → Prop}
    (h : ∀ w, P w → Q () (w.update f)) :
    Triple dev P (modify f : Interaction Call Value ε σ Unit) Q E := h

theorem triple_raise {e : ε} (h : ∀ w, P w → E w) :
    Triple dev P (raise e : Interaction Call Value ε σ α) Q E := h

theorem triple_waitRounds {Q : Nat → World σ Call → Prop}
    (h : ∀ w, P w → Q (dev.rounds w.calls.length) w) :
    Triple dev P (waitRounds : Interaction Call Value ε σ Nat) Q E := h

/-! ## Invariants -/

theorem Answers.keeps {p : Interaction Call Value ε σ α} (h : Answers dev I p) : Keeps dev I p :=
  h.conseq (fun _ hw => hw) (fun _ _ hw => hw) fun _ hw => hw.elim

theorem keeps_pure (a : α) : Keeps dev I (pure a : Interaction Call Value ε σ α) :=
  triple_pure fun _ h => h

theorem answers_pure (a : α) : Answers dev I (pure a : Interaction Call Value ε σ α) :=
  triple_pure fun _ h => h

theorem keeps_bind {p : Interaction Call Value ε σ α} {k : α → Interaction Call Value ε σ β}
    (hp : Keeps dev I p) (hk : ∀ a, Keeps dev I (k a)) : Keeps dev I (p >>= k) :=
  triple_bind hp hk

theorem answers_bind {p : Interaction Call Value ε σ α} {k : α → Interaction Call Value ε σ β}
    (hp : Answers dev I p) (hk : ∀ a, Answers dev I (k a)) : Answers dev I (p >>= k) :=
  triple_bind hp hk

theorem keeps_map {p : Interaction Call Value ε σ α} {f : α → β} (hp : Keeps dev I p) :
    Keeps dev I (f <$> p) :=
  triple_map hp

theorem answers_map {p : Interaction Call Value ε σ α} {f : α → β} (hp : Answers dev I p) :
    Answers dev I (f <$> p) :=
  triple_map hp

/-- The invariant gives something about the value the rest of the program starts from. -/
theorem keeps_read_bind {f : σ → α} {k : α → Interaction Call Value ε σ β} {C : α → Prop}
    (hf : ∀ w, I w → C (f w.state)) (hk : ∀ a, C a → Keeps dev I (k a)) :
    Keeps dev I (read f >>= k) :=
  fun w hw => hk (f w.state) (hf w hw) w hw

theorem keeps_read (f : σ → α) : Keeps dev I (read f : Interaction Call Value ε σ α) :=
  triple_read fun _ h => h

theorem keeps_modify {f : σ → σ} (h : ∀ w, I w → I (w.update f)) :
    Keeps dev I (modify f : Interaction Call Value ε σ Unit) :=
  triple_modify h

theorem answers_modify {f : σ → σ} (h : ∀ w, I w → I (w.update f)) :
    Answers dev I (modify f : Interaction Call Value ε σ Unit) :=
  triple_modify h

theorem keeps_raise (e : ε) : Keeps dev I (raise e : Interaction Call Value ε σ α) :=
  triple_raise fun _ h => h

theorem keeps_waitRounds : Keeps dev I (waitRounds : Interaction Call Value ε σ Nat) :=
  triple_waitRounds fun _ h => h

theorem answers_waitRounds : Answers dev I (waitRounds : Interaction Call Value ε σ Nat) :=
  triple_waitRounds fun _ h => h

theorem keeps_try {p : Interaction Call Value ε σ α} {h : ε → Interaction Call Value ε σ α}
    (hp : Keeps dev I p) (hh : ∀ e, Keeps dev I (h e)) : Keeps dev I (tryExcept p h) :=
  triple_try hp hh

/-- What does not raise needs no handler. -/
theorem answers_try {p : Interaction Call Value ε σ α} {h : ε → Interaction Call Value ε σ α}
    (hp : Answers dev I p) : Answers dev I (tryExcept p h) :=
  triple_try hp fun _ _ hw => hw.elim

theorem keeps_finally {p : Interaction Call Value ε σ α} {f : Interaction Call Value ε σ Unit}
    (hp : Keeps dev I p) (hf : Keeps dev I f) : Keeps dev I (tryFinally p f) :=
  keeps_bind (keeps_try hp fun e => keeps_bind hf fun _ => keeps_raise e) fun a =>
    keeps_bind hf fun _ => keeps_pure a

section Calls

variable [DecidableEq Call]

theorem triple_call {c : Call} {Q : Value c → World σ Call → Prop}
    (hok : ∀ w a, P w → dev.answer c (w.calls.count c) = .ok a → Q a (w.issue c))
    (herr : ∀ w e, P w → dev.answer c (w.calls.count c) = .error e → E (w.issue c)) :
    Triple dev P (call c : Interaction Call Value ε σ (Value c)) Q E := by
  intro w hw
  unfold call
  cases ha : dev.answer c (w.calls.count c) with
  | ok a => exact hok w a hw ha
  | error e => exact herr w e hw ha

theorem keeps_call {c : Call} (h : ∀ w, I w → I (w.issue c)) :
    Keeps dev I (call c : Interaction Call Value ε σ (Value c)) :=
  triple_call (fun w _ hw _ => h w hw) fun w _ hw _ => h w hw

theorem triple_call_gives {c : Call} {V : Value c → Prop} (hc : dev.Gives c V)
    (h : ∀ w, I w → I (w.issue c)) :
    Triple dev I (call c : Interaction Call Value ε σ (Value c)) (fun a w => I w ∧ V a)
      fun _ => False := by
  refine triple_call (fun w a hw ha => ?_) fun w e _ ha => ?_
  · obtain ⟨b, hb, hV⟩ := hc (w.calls.count c)
    obtain rfl : b = a := by
      rw [hb] at ha
      exact Except.ok.inj ha
    exact ⟨h w hw, hV⟩
  · obtain ⟨b, hb, -⟩ := hc (w.calls.count c)
    rw [hb] at ha
    cases ha

theorem triple_call_refuses {c : Call} (hc : dev.Refuses c) (h : ∀ w, I w → I (w.issue c)) :
    Triple dev I (call c : Interaction Call Value ε σ (Value c)) (fun _ _ => False) I := by
  refine triple_call (fun w a _ ha => ?_) fun w _ hw _ => h w hw
  obtain ⟨e, he⟩ := hc (w.calls.count c)
  rw [he] at ha
  cases ha

end Calls

theorem answers_try_recover {p : Interaction Call Value ε σ α}
    {h : ε → Interaction Call Value ε σ α} (hp : Keeps dev I p) (hh : ∀ e, Answers dev I (h e)) :
    Answers dev I (tryExcept p h) :=
  triple_try hp hh

/-- The run of a program that does not raise. -/
theorem Triple.run {p : Interaction Call Value ε σ α} (h : Triple dev P p Q fun _ => False)
    {w : World σ Call} (hw : P w) : ∃ a w', p dev w = (.ok a, w') ∧ Q a w' := by
  have hend := h w hw
  rcases hr : p dev w with ⟨e | a, w'⟩
  · rw [hr] at hend
    exact hend.elim
  · rw [hr] at hend
    exact ⟨a, w', rfl, hend⟩

/-- What a triple says of a run that returned. -/
theorem Triple.of_run {p : Interaction Call Value ε σ α} (h : Triple dev P p Q E)
    {w w' : World σ Call} {a : α} (hrun : p dev w = (.ok a, w')) (hw : P w) : Q a w' := by
  have hend := h w hw
  rw [hrun] at hend
  exact hend

theorem Answers.run {p : Interaction Call Value ε σ α} (h : Answers dev I p)
    {w : World σ Call} (hw : I w) : ∃ a w', p dev w = (.ok a, w') ∧ I w' :=
  Triple.run h hw

/-- The world a run ends in. -/
theorem Keeps.of_run {p : Interaction Call Value ε σ α} (h : Keeps dev I p) {w w' : World σ Call}
    {a : α} (hrun : p dev w = (.ok a, w')) (hw : I w) : I w' :=
  Triple.of_run h hrun hw

/-- What holds of the world however a run ends. -/
theorem Triple.world {p : Interaction Call Value ε σ α} {R : World σ Call → Prop}
    (h : Triple dev P p (fun _ => R) R) {w : World σ Call} (hw : P w) : R (p dev w).2 := by
  have hend := h w hw
  rcases hrun : p dev w with ⟨e | a, w'⟩
  · rw [hrun] at hend
    exact hend
  · rw [hrun] at hend
    exact hend

theorem Keeps.world {p : Interaction Call Value ε σ α} (h : Keeps dev I p) {w : World σ Call}
    (hw : I w) : I (p dev w).2 :=
  Triple.world h hw

theorem keeps_attempt {p : Interaction Call Value ε σ α} {r : Interaction Call Value ε σ Unit}
    (hp : Keeps dev I p) (hr : Keeps dev I r) : Keeps dev I (attempt p r) :=
  keeps_try (keeps_map hp) fun _ => keeps_bind hr fun _ => keeps_pure none

theorem answers_attempt {p : Interaction Call Value ε σ α} {r : Interaction Call Value ε σ Unit}
    (hp : Answers dev I p) : Answers dev I (attempt p r) :=
  answers_try (answers_map hp)

/-- An attempt catches what its body raises. -/
theorem answers_attempt_recover {p : Interaction Call Value ε σ α}
    {r : Interaction Call Value ε σ Unit} (hp : Keeps dev I p) (hr : Answers dev I r) :
    Answers dev I (attempt p r) :=
  triple_try (keeps_map hp) fun _ => answers_bind hr fun _ => answers_pure none

/-! ## Loops -/

theorem keeps_forEach {body : τ → Interaction Call Value ε σ Unit} :
    ∀ {xs : List τ}, (∀ x ∈ xs, Keeps dev I (body x)) → Keeps dev I (forEach xs body)
  | [], _ => keeps_pure ()
  | x :: _, h => keeps_bind (h x List.mem_cons_self) fun _ =>
      keeps_forEach fun y hy => h y (List.mem_cons_of_mem _ hy)

theorem answers_forEach {body : τ → Interaction Call Value ε σ Unit} :
    ∀ {xs : List τ}, (∀ x ∈ xs, Answers dev I (body x)) → Answers dev I (forEach xs body)
  | [], _ => answers_pure ()
  | x :: _, h => answers_bind (h x List.mem_cons_self) fun _ =>
      answers_forEach fun y hy => h y (List.mem_cons_of_mem _ hy)

theorem keeps_mapEach {body : τ → Interaction Call Value ε σ α} :
    ∀ {xs : List τ}, (∀ x ∈ xs, Keeps dev I (body x)) → Keeps dev I (mapEach xs body)
  | [], _ => keeps_pure []
  | x :: _, h => keeps_bind (h x List.mem_cons_self) fun _ =>
      keeps_bind (keeps_mapEach fun y hy => h y (List.mem_cons_of_mem _ hy)) fun _ => keeps_pure _

theorem forEach_map {υ : Type} (f : υ → τ) (body : τ → Interaction Call Value ε σ Unit) :
    ∀ xs : List υ, forEach (xs.map f) body = forEach xs fun x => body (f x)
  | [] => rfl
  | x :: xs => congrArg (fun rest => body (f x) >>= fun _ => rest) (forEach_map f body xs)

/-- A loop of updates is one update. -/
theorem forEach_modify (f : τ → σ → σ) : ∀ (xs : List τ) (w : World σ Call),
    (forEach xs fun x => (modify (f x) : Interaction Call Value ε σ Unit)) dev w =
      (.ok (), w.update fun s => xs.foldl (fun s x => f x s) s)
  | [], _ => rfl
  | x :: xs, w => forEach_modify f xs (w.update (f x))

/-- The elements of the record of a loop are the ones it went over. -/
theorem triple_mapEach {body : τ → Interaction Call Value ε σ α} :
    ∀ {xs : List τ}, (∀ x ∈ xs, Triple dev I (body x) (fun _ => I) E) →
      Triple dev I (mapEach xs body) (fun r w => I w ∧ r.map Prod.fst = xs) E
  | [], _ => triple_pure fun _ hw => ⟨hw, rfl⟩
  | x :: _, h => triple_bind (h x List.mem_cons_self) fun _ =>
      triple_bind (triple_mapEach fun y hy => h y (List.mem_cons_of_mem _ hy)) fun _ =>
        triple_pure fun _ hw => ⟨hw.1, congrArg (x :: ·) hw.2⟩

/-- The turn of one element: what it makes of `P` the other elements leave alone. -/
theorem triple_mapEach_turn {body : τ → Interaction Call Value ε σ α} {x : τ} :
    ∀ {xs : List τ}, x ∈ xs → xs.Nodup → Triple dev P (body x) Q E →
      (∀ y ∈ xs, y ≠ x → Triple dev P (body y) (fun _ => P) E ∧
        ∀ a, Triple dev (Q a) (body y) (fun _ => Q a) E) →
      Triple dev P (mapEach xs body)
        (fun r w => (∃ a, (x, a) ∈ r ∧ Q a w) ∧ r.map Prod.fst = xs) E
  | [], hmem, _, _, _ => nomatch hmem
  | y :: xs, hmem, hnodup, hself, hother => by
    obtain ⟨hy, hxs⟩ := List.nodup_cons.1 hnodup
    by_cases heq : y = x
    · subst heq
      refine triple_bind hself fun a => triple_bind (triple_mapEach fun z hz =>
        (hother z (List.mem_cons_of_mem _ hz) fun hzy => hy (hzy ▸ hz)).2 a) fun r =>
          triple_pure fun w hw => ?_
      exact ⟨⟨a, List.mem_cons_self, hw.1⟩, congrArg (y :: ·) hw.2⟩
    · have hx : x ∈ xs := (List.mem_cons.1 hmem).resolve_left (Ne.symm heq)
      refine triple_bind (hother y List.mem_cons_self heq).1 fun b =>
        triple_bind (triple_mapEach_turn hx hxs hself fun z hz hzx =>
          hother z (List.mem_cons_of_mem _ hz) hzx) fun r => triple_pure fun w hw => ?_
      obtain ⟨⟨a, ha, hQ⟩, hkeys⟩ := hw
      exact ⟨⟨a, List.mem_cons_of_mem _ ha, hQ⟩, congrArg (y :: ·) hkeys⟩

theorem keeps_mapEach_bind {body : τ → Interaction Call Value ε σ α} {xs : List τ}
    {k : List (τ × α) → Interaction Call Value ε σ β} (hb : ∀ x ∈ xs, Keeps dev I (body x))
    (hk : ∀ r, r.map Prod.fst = xs → Keeps dev I (k r)) : Keeps dev I (mapEach xs body >>= k) :=
  triple_bind (triple_mapEach hb) fun r w hw => hk r hw.2 w hw.1

variable [DecidableEq τ]

/-- What a round settles and what it leaves was there before. -/
theorem triple_pollOnce {poll : τ → Interaction Call Value ε σ (Option β)} {C : τ → Prop} :
    ∀ {xs pending : List τ}, (∀ x ∈ xs, C x ∧ Triple dev I (poll x) (fun _ => I) E) →
      (∀ x ∈ pending, C x) → Triple dev I (pollOnce poll xs pending)
        (fun r w => I w ∧ (∀ e ∈ r.1, C e.1) ∧ ∀ x ∈ r.2, C x) E
  | [], _, _, hp => triple_pure fun _ hw => ⟨hw, List.forall_mem_nil _, hp⟩
  | x :: xs, pending, h, hp => by
    have hx := h x List.mem_cons_self
    have hrest : ∀ y ∈ xs, C y ∧ Triple dev I (poll y) (fun _ => I) E := fun y hy =>
      h y (List.mem_cons_of_mem _ hy)
    refine triple_bind hx.2 fun outcome => ?_
    cases outcome with
    | none => exact triple_pollOnce hrest hp
    | some b =>
      refine triple_bind
        (triple_pollOnce hrest fun y hy => hp y (List.mem_of_mem_erase hy)) fun r => ?_
      exact triple_pure fun w hw => ⟨hw.1, List.forall_mem_cons.2 ⟨hx.1, hw.2.1⟩, hw.2.2⟩

theorem triple_pollRounds {poll : τ → Interaction Call Value ε σ (Option β)} {C : τ → Prop}
    (h : ∀ x, C x → Triple dev I (poll x) (fun _ => I) E) :
    ∀ {n : Nat} {pending : List τ}, (∀ x ∈ pending, C x) → Triple dev I (pollRounds poll n pending)
      (fun r w => I w ∧ (∀ e ∈ r.1, C e.1) ∧ ∀ x ∈ r.2, C x) E
  | 0, _, hp => triple_pure fun _ hw => ⟨hw, List.forall_mem_nil _, hp⟩
  | _ + 1, [], hp => triple_pure fun _ hw => ⟨hw, List.forall_mem_nil _, hp⟩
  | n + 1, x :: xs, hp => by
    refine triple_bind (triple_pollOnce (fun y hy => ⟨hp y hy, h y (hp y hy)⟩) hp) fun r w hw => ?_
    refine triple_bind (triple_pollRounds h hw.2.2) (fun r' => triple_pure fun w' hw' => ?_) w hw.1
    refine ⟨hw'.1, fun e he => ?_, hw'.2.2⟩
    rcases List.mem_append.1 he with he | he
    · exact hw.2.1 e he
    · exact hw'.2.1 e he

/-- After a wait the invariant holds, and only what was pending has been settled or left. -/
theorem keeps_pollRounds_bind {poll : τ → Interaction Call Value ε σ (Option β)} {C : τ → Prop}
    {n : Nat} {pending : List τ} {k : List (τ × β) × List τ → Interaction Call Value ε σ α}
    (h : ∀ x, C x → Keeps dev I (poll x)) (hp : ∀ x ∈ pending, C x)
    (hk : ∀ r, (∀ e ∈ r.1, C e.1) → (∀ x ∈ r.2, C x) → Keeps dev I (k r)) :
    Keeps dev I (pollRounds poll n pending >>= k) :=
  triple_bind (triple_pollRounds h hp) fun r w hw => hk r hw.2.1 hw.2.2 w hw.1

end Triples

/-! ## Histories -/

section Histories

variable {Call β : Type} [DecidableEq Call]

/-- `f` over the calls, each with the number of times that it was issued before. -/
def accumulate (f : Call → Nat → β → β) (b : β) (calls : List Call) : β :=
  (calls.foldl (fun (p : List Call × β) c => (p.1 ++ [c], f c (p.1.count c) p.2)) ([], b)).2

theorem accumulate_append_single (f : Call → Nat → β → β) (b : β) (calls : List Call) (c : Call) :
    accumulate f b (calls ++ [c]) = f c (calls.count c) (accumulate f b calls) := by
  have hseen : ∀ (calls : List Call) (p : List Call × β),
      (calls.foldl (fun (p : List Call × β) c => (p.1 ++ [c], f c (p.1.count c) p.2)) p).1 =
        p.1 ++ calls := by
    intro calls
    induction calls with
    | nil => exact fun p => (List.append_nil _).symm
    | cons c calls ih => exact fun p => (ih _).trans (List.append_cons ..).symm
  unfold accumulate
  rw [List.foldl_append]
  simp only [List.foldl_cons, List.foldl_nil, hseen, List.nil_append]

end Histories

end Interaction

end MultiDAQ.Lib
