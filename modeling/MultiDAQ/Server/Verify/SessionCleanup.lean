import MultiDAQ.Server.Verify.SessionStart

/-!
# What comes after a client is opened

The finalization of a session reaches every client that it is given, and its results are what the
steps were answered. So a file that may have been opened is closed, and a client that was enabled is
disabled, however the calls of the session are answered.
-/

namespace MultiDAQ.Server

open MultiDAQ.Lib MultiDAQ.Lib.Interaction MultiDAQ.Lib.Recorder
open AcquisitionService (PyError RegisterValue bitAnd)

namespace AcquisitionSession

variable {α : Type} {dev : Peers α} {β : Type}

/-! ## A step of every client -/

theorem tried_runClientStep {p : SessionM α Bool}
    {R : Except PyError Bool → List (SessionExchange α) → Prop} (hp : Emits dev p R) :
    Emits dev (runClientStep p) (Ending (Tried R) fun e _ => e = .baseException) := by
  refine emits_try hp (fun b t h => ⟨t, List.infix_refl t, .inl h⟩) fun e t h => ?_
  cases e with
  | exception => exact emits_pure ⟨t, (List.prefix_append t []).isInfix, .inr ⟨rfl, h⟩⟩
  | baseException => exact emits_raise rfl

variable [DecidableEq α] {R : α → Except PyError Bool → List (SessionExchange α) → Prop}

/-- The result of the client is still a success, or a step of it failed. -/
def Result (R : α → Except PyError Bool → List (SessionExchange α) → Prop) (client : α)
    (before after : Dict α Bool) (t : List (SessionExchange α)) : Prop :=
  (after.get? client = before.get? client ∧ Tried (R client) true t) ∨
    after.get? client = some false ∧ Tried (R client) false t

theorem Result.mono {client : α} {before after : Dict α Bool} {t t' : List (SessionExchange α)}
    (h : Result R client before after t) (ht : t <:+: t') : Result R client before after t' :=
  h.imp (fun h => ⟨h.1, h.2.mono ht⟩) fun h => ⟨h.1, h.2.mono ht⟩

/-- The results after a step of the clients in `done`. -/
def Results (R : α → Except PyError Bool → List (SessionExchange α) → Prop) (done : List α)
    (before after : Dict α Bool) (t : List (SessionExchange α)) : Prop :=
  (∀ client ∈ done, Result R client before after t) ∧
    ∀ client ∉ done, after.get? client = before.get? client

theorem emits_finalizeEach {step : α → SessionM α Bool}
    (hstep : ∀ client, Emits dev (step client) (R client)) (clients : List α)
    (results : Dict α Bool) :
    Emits dev (finalizeEach step clients results)
      (Ending (Results R clients results) fun e _ => e = .baseException) := by
  refine emits_foldEach (I := fun done => Results R done results)
    ⟨List.forall_mem_nil _, fun _ _ => rfl⟩ ?_
  rintro done client rest results' t - ⟨hdone, hother⟩
  refine emits_bind (tried_runClientStep (hstep client)) (fun _ _ h => h) fun ok t' ht' => ?_
  have ht : t <:+: t ++ t' := (List.prefix_append t t').isInfix
  have htried : Tried (R client) ok (t ++ t') := ht'.mono (List.suffix_append t t').isInfix
  cases ok with
  | true =>
    refine emits_pure ?_
    rw [List.append_nil]
    refine ⟨fun c hc => ?_, fun c hc => hother c fun h => hc (List.mem_append_left _ h)⟩
    by_cases hmem : c ∈ done
    · exact (hdone c hmem).mono ht
    · obtain rfl : c = client := by simpa [hmem] using hc
      exact .inl ⟨hother c hmem, htried⟩
  | false =>
    refine emits_pure ?_
    rw [List.append_nil]
    refine ⟨fun c hc => ?_, fun c hc => ?_⟩
    · by_cases hclient : c = client
      · subst hclient
        exact .inr ⟨by rw [Dict.get?_set, if_pos rfl], htried⟩
      · have hmem : c ∈ done := by simpa [hclient] using hc
        unfold Result
        rw [Dict.get?_set, if_neg hclient]
        exact (hdone c hmem).mono ht
    · rw [List.mem_append, List.mem_singleton, not_or] at hc
      rw [Dict.get?_set, if_neg hc.2]
      exact hother c hc.1

/-- The outcome of a step of every client in `done`. -/
def Outcomes (R : α → Except PyError Bool → List (SessionExchange α) → Prop) (done : List α)
    (outcomes : Dict α Bool) (t : List (SessionExchange α)) : Prop :=
  (∀ client ∈ done, ∃ ok, outcomes.get? client = some ok ∧ Tried (R client) ok t) ∧
    ∀ client ∉ done, outcomes.get? client = none

theorem emits_resultsOf {step : α → SessionM α Bool}
    (hstep : ∀ client, Emits dev (step client) (R client)) (clients : List α) :
    Emits dev (resultsOf step clients)
      (Ending (Outcomes R clients) fun e _ => e = .baseException) := by
  refine emits_foldEach (I := Outcomes R) ⟨List.forall_mem_nil _, fun _ _ => rfl⟩ ?_
  rintro done client rest outcomes t - ⟨hdone, hother⟩
  refine emits_bind (tried_runClientStep (hstep client)) (fun _ _ h => h) fun ok t' ht' =>
    emits_pure ?_
  rw [List.append_nil]
  refine ⟨fun c hc => ?_, fun c hc => ?_⟩
  · rw [Dict.get?_set]
    by_cases hclient : c = client
    · subst hclient
      exact ⟨ok, if_pos rfl, ht'.mono (List.suffix_append t t').isInfix⟩
    · obtain ⟨ok', hget, htried⟩ := hdone c (by simpa [hclient] using hc)
      exact ⟨ok', by rw [if_neg hclient, hget], htried.mono (List.prefix_append t t').isInfix⟩
  · rw [List.mem_append, List.mem_singleton, not_or] at hc
    rw [Dict.get?_set, if_neg hc.2]
    exact hother c hc.1

theorem get?_noteFailures (results outcomes : Dict α Bool) (client : α) :
    (noteFailures results outcomes).get? client =
      if outcomes.get? client = some false then some false else results.get? client := by
  have hfold : ∀ (l : List (α × Bool)) (results : Dict α Bool), (l.map Prod.fst).Nodup →
      (l.foldl (fun results e => if e.2 then results else results.set e.1 false) results).get?
        client = if (client, false) ∈ l then some false else results.get? client := by
    intro l
    induction l with
    | nil => intro results _; rfl
    | cons e l ih =>
      intro results hnodup
      obtain ⟨c, ok⟩ := e
      obtain ⟨hnew, hnodup⟩ := List.nodup_cons.1 hnodup
      rw [List.foldl_cons, ih _ hnodup]
      cases ok with
      | true => simp
      | false =>
        by_cases hclient : client = c
        · simp [hclient]
        · simp [hclient]
  unfold noteFailures
  rw [hfold _ _ outcomes.nodup]
  simp only [Dict.mem_entries]

/-- Noting the outcomes of a step. -/
theorem Outcomes.results {clients : List α} {outcomes results : Dict α Bool}
    {t : List (SessionExchange α)} (h : Outcomes R clients outcomes t) :
    Results R clients results (noteFailures results outcomes) t := by
  refine ⟨fun c hc => ?_, fun c hc => ?_⟩
  · obtain ⟨ok, hget, htried⟩ := h.1 c hc
    unfold Result
    rw [get?_noteFailures, hget]
    cases ok with
    | true => exact .inl ⟨if_neg (by simp), htried⟩
    | false => exact .inr ⟨if_pos rfl, htried⟩
  · rw [get?_noteFailures, h.2 c hc]
    exact if_neg (by simp)

/-! ## The finalization of the clients that are there -/

theorem Finalized.step {client : α} {before after : Dict α Bool} {steps : List FinalStep}
    {step : FinalStep} {t t' : List (SessionExchange α)}
    (h : Finalized client (before.get? client) steps t)
    (hstep : Result (fun client => step.Records client) client before after t') :
    Finalized client (after.get? client) (steps ++ [step]) (t ++ t') := by
  have ht : t <:+: t ++ t' := (List.prefix_append t t').isInfix
  have ht' : t' <:+: t ++ t' := (List.suffix_append t t').isInfix
  obtain ⟨ok, hok⟩ : ∃ ok, Tried (step.Records client) ok t' :=
    hstep.elim (fun h => ⟨true, h.2⟩) fun h => ⟨false, h.2⟩
  refine ⟨fun s hs => ?_, ?_⟩
  · rcases List.mem_append.1 hs with hs | hs
    · obtain ⟨ok', h'⟩ := h.tried s hs
      exact ⟨ok', h'.mono ht⟩
    · obtain rfl := List.mem_singleton.1 hs
      exact ⟨ok, hok.mono ht'⟩
  · obtain ⟨hsame, htried⟩ | ⟨hfalse, htried⟩ := hstep
    · obtain ⟨hget, hall⟩ | ⟨hget, s, hs, hfail⟩ := h.verdict
      · refine .inl ⟨hsame.trans hget, fun s hs => ?_⟩
        rcases List.mem_append.1 hs with hs | hs
        · exact (hall s hs).mono ht
        · obtain rfl := List.mem_singleton.1 hs
          exact htried.mono ht'
      · exact .inr ⟨hsame.trans hget, s, List.mem_append_left _ hs, hfail.mono ht⟩
    · exact .inr ⟨hfalse, step, List.mem_append_right _ List.mem_cons_self, htried.mono ht'⟩

theorem get?_allSucceeded (clients : List α) (client : α) :
    (allSucceeded clients).get? client = if client ∈ clients then some true else none := by
  have hfold : ∀ (l : List α) (d : Dict α Bool),
      (l.foldl (fun d client => d.set client true) d).get? client =
        if client ∈ l then some true else d.get? client := by
    intro l
    induction l with
    | nil => intro d; rfl
    | cons c l ih =>
      intro d
      rw [List.foldl_cons, ih, Dict.get?_set]
      by_cases hl : client ∈ l <;> by_cases hc : client = c <;> simp [hl, hc]
  exact hfold clients .empty

/-- One step of `run_hardware_stop_and_flush`. -/
theorem Results.finalized {clients : List α} {before after : Dict α Bool} {steps : List FinalStep}
    {step : FinalStep} {t t' : List (SessionExchange α)}
    (h : ∀ client ∈ clients, Finalized client (before.get? client) steps t)
    (hstep : Results (fun client => step.Records client) clients before after t') :
    ∀ client ∈ clients, Finalized client (after.get? client) (steps ++ [step]) (t ++ t') :=
  fun client hclient => (h client hclient).step (hstep.1 client hclient)

theorem emits_disableRcChannels (client : α) :
    Emits dev (disableRcChannels [client]) (FinalStep.disableRc19.Records client) := by
  have hwrite : Emits dev (do
      let ok ← writeRcRegister client 19 0
      pure (true && ok)) (FinalStep.disableRc19.Records client) :=
    emits_ask_bind (c := SessionCall.writeRcRegister client 19 0) (fun _ => rfl) fun ok =>
      emits_pure rfl
  refine emits_bind hwrite (fun _ _ h => h) fun ok t h => emits_pure ?_
  rw [List.append_nil]
  exact h

theorem emits_flushClient (client : α) :
    Emits dev (flushClient client) (FinalStep.flush.Records client) :=
  emits_ask (c := SessionCall.flushClient client) fun _ => rfl

theorem emits_configureAcquisitionEndClient (client : α) :
    Emits dev (configureAcquisitionEndClient client) (FinalStep.clearTrigger.Records client) :=
  emits_ask (c := SessionCall.setRcAcquisitionRegisters client endRegisters) fun _ => rfl

theorem emits_runHardwareStopAndFlush (clients : List α) (reset : Bool) :
    Emits dev (runHardwareStopAndFlush clients reset) (Ending
      (fun results t => ∀ client ∈ clients,
        Finalized client (results.get? client) (finalSteps reset) t)
      fun e _ => e = .baseException) := by
  unfold runHardwareStopAndFlush
  split
  · next hempty =>
    refine emits_pure fun client hclient => ?_
    rw [List.isEmpty_iff.1 hempty] at hclient
    cases hclient
  · refine emits_bind (emits_finalizeEach emits_disableRcChannels clients _) (fun _ _ h => h)
      fun results₁ t₁ h₁ => ?_
    have hstart : ∀ client ∈ clients, Finalized client ((allSucceeded clients).get? client) [] [] := by
      intro client hclient
      refine ⟨List.forall_mem_nil _, .inl ⟨?_, List.forall_mem_nil _⟩⟩
      rw [get?_allSucceeded, if_pos hclient]
    have hfin₁ : ∀ client ∈ clients,
        Finalized client (results₁.get? client) ([] ++ [.disableRc19]) ([] ++ t₁) :=
      h₁.finalized hstart
    refine emits_bind (emits_resultsOf emits_flushClient clients) (fun _ _ h => h)
      fun flushed t₂ h₂ => ?_
    have hfin₂ := h₂.results.finalized hfin₁
    have hclose : ∀ results t steps, (∀ client ∈ clients,
        Finalized client (results.get? client) steps t) → Emits dev (do
          let closed ← stopAcqAllClients clients
          pure (noteFailures results closed)) fun r t' => Ending (fun results t =>
            ∀ client ∈ clients, Finalized client (results.get? client) (steps ++ [.closeFile]) t)
          (fun e _ => e = .baseException) r (t ++ t') := by
      intro results t steps hfin
      refine emits_bind (emits_resultsOf (R := fun client => FinalStep.closeFile.Records client)
        (fun client => emits_viaNumericId client .closeFile) clients) (fun _ _ h => h)
        fun closed t' h' => emits_pure ?_
      rw [List.append_nil]
      exact h'.results.finalized hfin
    dsimp only
    split
    · next hreset =>
      refine emits_bind (emits_finalizeEach emits_configureAcquisitionEndClient clients _)
        (fun _ _ h => h) fun results₃ t₃ h₃ => ?_
      refine (hclose results₃ _ _ (h₃.finalized hfin₂)).imp fun r t h => ?_
      have hsteps : finalSteps reset = [] ++ [.disableRc19] ++ [.flush] ++ [.clearTrigger] ++
          [.closeFile] := by rw [hreset]; rfl
      simpa only [hsteps, List.nil_append, List.append_assoc] using h
    · next hreset =>
      refine (hclose _ _ _ hfin₂).imp fun r t h => ?_
      have hsteps : finalSteps reset = [] ++ [.disableRc19] ++ [.flush] ++ [.closeFile] := by
        rw [eq_false_of_ne_true hreset]
        rfl
      simpa only [hsteps, List.nil_append, List.append_assoc] using h

/-! ## The body of the session -/

theorem Launched.prepend {clients : List α} {started : Started α} {t t₀ : List (SessionExchange α)}
    (h : Launched clients started t) (h₀ : ∀ x ∈ t₀, Inert x.call) :
    Launched clients started (t₀ ++ t) where
  subset := h.subset
  nodup := h.nodup
  closed c := followed_append_right (fun x hx hopen => absurd hopen (h₀ x hx).not_opensFor)
    (h.closed c)
  enables c x hx hen := (List.mem_append.1 hx).elim
    (fun hx => absurd hen (not_enablesFor_of_quiet (h₀ x hx).quiet)) fun hx => h.enables c x hx hen
  enabled c hc herr := enabled_append.2 (.inr (h.enabled c hc herr))
  no_error hclients c hen := h.no_error hclients c ((enabled_append.1 hen).resolve_left
    (not_enabled_of_quiet fun x hx => (h₀ x hx).quiet))
  covered := h.covered

theorem Launched.append {clients : List α} {started : Started α} {t t' : List (SessionExchange α)}
    (h : Launched clients started t) (h' : ∀ x ∈ t', Inert x.call) :
    Launched clients started (t ++ t') where
  subset := h.subset
  nodup := h.nodup
  closed c := followed_append (h.closed c)
    (followed_of_forall_not fun x hx => (h' x hx).not_opensFor)
    fun _ _ _ h => h.imp_right fun hclose => hclose.append t'
  enables c x hx hen := (List.mem_append.1 hx).elim (fun hx => h.enables c x hx hen)
    fun hx => absurd hen (not_enablesFor_of_quiet (h' x hx).quiet)
  enabled c hc herr := enabled_append.2 (.inl (h.enabled c hc herr))
  no_error hclients c hen := h.no_error hclients c ((enabled_append.1 hen).resolve_right
    (not_enabled_of_quiet fun x hx => (h' x hx).quiet))
  covered := h.covered

/-- What the body of the session records, with its `except` and its `finally`. -/
def Acquired (clients : List α) :
    Except PyError (Started α × Option (Dict α String)) → List (SessionExchange α) → Prop
  | .ok (started, none), t => Launched clients started t ∧ started.opened = []
  | .ok (started, some lost), t => ∃ t₁ t₂, t = t₁ ++ ⟨.readLosses, .ok lost⟩ :: t₂ ∧
    Launched clients started t₁ ∧ ∀ x ∈ t₂, Inert x.call
  | .error .exception, t => ∃ t₁ t₂, t = t₁ ++ t₂ ∧ (∀ x ∈ t₁, Among clients x.call) ∧
    (∀ x ∈ t₂, Inert x.call) ∧ ∀ c ∈ clients, CloseTried c t₂ ∧ DisableTried c t₂
  | .error .baseException, _ => True

/-- The losses are read last. -/
theorem emits_awaitEnd (s : SessionParams α) (acquiring : List α) :
    Emits dev (awaitEnd s acquiring) fun r t => (∀ x ∈ t, Inert x.call) ∧
      ∀ lost, r = .ok lost → ∃ t', t = t' ++ [⟨.readLosses, .ok lost⟩] ∧
        ∀ x ∈ t', Inert x.call := by
  have hlast : Emits dev (ask (SessionCall.readLosses : SessionCall α)) fun r t =>
      t = [⟨.readLosses, r⟩] := emits_ask fun _ => rfl
  refine emits_bind (only_ask (C := Inert) trivial)
    (fun _ t ht => ⟨ht, fun _ h => by cases h⟩) fun lostWhileStarting t₁ h₁ => ?_
  refine emits_bind (inert_stopIfLost lostWhileStarting)
    (fun _ t ht => ⟨List.forall_mem_append.2 ⟨h₁, ht⟩, fun _ h => by cases h⟩) fun _ t₂ h₂ => ?_
  have h₁₂ := List.forall_mem_append.2 ⟨h₁, h₂⟩
  refine emits_bind (inert_waitForEnd s acquiring) (fun _ t ht => ?_) fun _ t₃ h₃ => ?_
  · rw [← List.append_assoc]
    exact ⟨List.forall_mem_append.2 ⟨h₁₂, ht⟩, fun _ h => by cases h⟩
  have h₁₂₃ := List.forall_mem_append.2 ⟨h₁₂, h₃⟩
  refine hlast.imp fun r t ht => ?_
  subst ht
  rw [← List.append_assoc, ← List.append_assoc]
  refine ⟨List.forall_mem_append.2 ⟨h₁₂₃, List.forall_mem_singleton.2 trivial⟩, ?_⟩
  rintro lost rfl
  exact ⟨_, rfl, h₁₂₃⟩

theorem emits_acquire (s : SessionParams α) (clients : List α) :
    Emits dev (acquire s clients) fun r t =>
      (∀ a, r = .ok a → Acquired clients r t) ∧ ∀ x ∈ t, Among clients x.call := by
  refine emits_bind (only_ask (C := Inert) trivial)
    (fun _ t ht => ⟨(fun _ h => by cases h), fun x hx => (ht x hx).among⟩) fun metadata t₀ h₀ => ?_
  refine emits_bind (emits_openAndStart s clients metadata) ?_ fun started t₁ ⟨hlaunch, hamong⟩ => ?_
  · intro e t ⟨_, hamong⟩
    exact ⟨(fun _ h => by cases h),
      List.forall_mem_append.2 ⟨fun x hx => (h₀ x hx).among, hamong⟩⟩
  have hamong' := List.forall_mem_append.2 ⟨fun x hx => (h₀ x hx).among, hamong⟩
  have hlaunch' := Launched.prepend hlaunch h₀
  split
  · next hempty =>
    refine emits_pure ⟨fun _ _ => ?_, by rwa [List.append_nil]⟩
    rw [List.append_nil]
    exact ⟨hlaunch', List.isEmpty_iff.1 hempty⟩
  · refine emits_bind (emits_awaitEnd s _) (fun e t ht => ?_) fun lost t ht => emits_pure ?_
    · rw [← List.append_assoc]
      exact ⟨(fun _ h => by cases h),
        List.forall_mem_append.2 ⟨hamong', fun x hx => (ht.1 x hx).among⟩⟩
    · obtain ⟨t', rfl, hinert⟩ := ht.2 lost rfl
      rw [List.append_nil, ← List.append_assoc, ← List.append_assoc]
      refine ⟨fun _ _ => ⟨_, [], rfl, hlaunch'.append hinert, List.forall_mem_nil _⟩, ?_⟩
      rw [List.append_assoc]
      exact List.forall_mem_append.2 ⟨hamong', fun x hx => (ht.1 x hx).among⟩

/-- The finalization in `except` reaches every client, unless it is interrupted. -/
theorem emits_finalizeAfterError (s : SessionParams α) (clients : List α) :
    Emits dev (finalizeAfterError s clients : SessionM α β) fun r t =>
      (∀ x ∈ t, Inert x.call) ∧ (r = .error .baseException ∨
        r = .error .exception ∧ ∀ c ∈ clients, CloseTried c t ∧ DisableTried c t) := by
  refine (Emits.and ((final_finalizeAfterError s clients).imp fun _ => Final.inert) ?_).imp
    fun _ _ h => h
  have hrun : Emits dev (do
      let _ ← runHardwareStopAndFlush clients s.resetTriggerConfig
      pure ()) (Ending (fun _ t => ∀ c ∈ clients, CloseTried c t ∧ DisableTried c t)
        fun e _ => e = .baseException) :=
    emits_bind (emits_runHardwareStopAndFlush clients _) (fun _ _ h => h) fun results t h =>
      emits_pure fun c hc => by
        rw [List.append_nil]
        exact CloseTried.of_finalized (h c hc)
  have hcaught : Emits dev (exceptException (do
      let _ ← runHardwareStopAndFlush clients s.resetTriggerConfig
      pure ()) (pure ())) (Ending (fun _ t => ∀ c ∈ clients, CloseTried c t ∧ DisableTried c t)
        fun e _ => e = .baseException) := by
    refine emits_try hrun (fun _ _ h => h) fun e t h => ?_
    cases e with
    | exception => cases h
    | baseException => exact emits_raise rfl
  refine emits_bind hcaught (fun e t h => .inl (congrArg Except.error h)) fun _ t h => ?_
  refine emits_raise (.inr ⟨rfl, ?_⟩)
  rw [List.append_nil]
  exact h

theorem Acquired.append {clients : List α} {r : Except PyError (Started α × Option (Dict α String))}
    {t t' : List (SessionExchange α)} (h : Acquired clients r t) (h' : ∀ x ∈ t', Inert x.call) :
    Acquired clients r (t ++ t') := by
  rcases r with (_ | _) | ⟨started, _ | lost⟩
  · obtain ⟨t₁, t₂, rfl, hamong, hinert, hclients⟩ := h
    refine ⟨t₁, t₂ ++ t', by rw [List.append_assoc], hamong,
      List.forall_mem_append.2 ⟨hinert, h'⟩, fun c hc => ?_⟩
    obtain ⟨hclose, ok, hdisable⟩ := hclients c hc
    exact ⟨hclose.append t', ok, hdisable.mono (List.prefix_append t₂ t').isInfix⟩
  · trivial
  · exact ⟨h.1.append h', h.2⟩
  · obtain ⟨t₁, t₂, rfl, hlaunch, hinert⟩ := h
    exact ⟨t₁, t₂ ++ t', by rw [List.append_assoc, List.cons_append], hlaunch,
      List.forall_mem_append.2 ⟨hinert, h'⟩⟩

/-- The body with its `except` and its `finally`. -/
theorem emits_body (s : SessionParams α) (clients : List α) :
    Emits dev (tryFinally (exceptException (acquire s clients) (finalizeAfterError s clients))
      (note (SessionCall.clearSession : SessionCall α) ())) (Acquired clients) := by
  refine emits_finally (R := Acquired clients) (emits_try (emits_acquire s clients) ?_ ?_) ?_
  · exact fun a t h => h.1 a rfl
  · rintro e t ⟨-, hamong⟩
    cases e with
    | baseException => exact emits_raise trivial
    | exception =>
      refine (emits_finalizeAfterError s clients).imp fun r t' ⟨hinert, h⟩ => ?_
      obtain rfl | ⟨rfl, hclients⟩ := h
      · trivial
      · exact ⟨t, t', rfl, hamong, hinert, hclients⟩
  · intro r t h
    exact emits_note (Acquired.append h (List.forall_mem_singleton.2 trivial))

/-! ## The finalization of the session -/

theorem emits_closeLostClient (numericId : Option String) :
    Emits dev (closeLostClient numericId : SessionM α Bool)
      (Ending (fun _ t => ShortFinalized numericId t) fun e _ => e = .baseException) := by
  cases numericId with
  | none => exact emits_pure fun _ h => by cases h
  | some id =>
    have hstep : ∀ command, Emits dev (runClientStep (tellReceiver id command : SessionM α Bool))
        (Ending (fun _ t => ∃ reply, t = [⟨.receiver id command, reply⟩])
          fun e _ => e = .baseException) := by
      intro command
      refine emits_try (emits_ask (c := SessionCall.receiver id command)
        (R := fun r t => t = [⟨.receiver id command, r⟩]) fun _ => rfl)
        (fun ok t h => ⟨_, h⟩) fun e t h => ?_
      cases e with
      | exception => exact emits_pure ⟨_, by rw [List.append_nil]; exact h⟩
      | baseException => exact emits_raise rfl
    refine emits_bind (hstep .stopProducer) (fun _ _ h => h) fun _ t h => ?_
    obtain ⟨stopped, rfl⟩ := h
    refine (hstep .closeFile).imp fun r t h => ?_
    rcases r with e | closed
    · exact h
    · obtain ⟨closed, rfl⟩ := h
      intro _ hid
      cases hid
      exact ⟨stopped, closed, List.infix_refl _⟩

/-- Every opened client that is still there was finalized, and every lost one shortly. -/
structure Ended (reset : Bool) (numericIds : Dict α (Option String)) (opened : List α)
    (lost : Dict α String) (results : Dict α Bool) (t : List (SessionExchange α)) : Prop where
  alive : ∀ c ∈ opened, lost.get? c = none →
    Finalized c (results.get? c) (finalSteps reset) t
  lost : ∀ c ∈ opened, lost.get? c ≠ none → ShortFinalized (numericIds.get? c).join t

theorem emits_finalize (s : SessionParams α) (numericIds : Dict α (Option String))
    (opened : List α) (lost : Dict α String) :
    Emits dev (finalize s numericIds opened lost) (Ending
      (Ended s.resetTriggerConfig numericIds opened lost) fun e _ => e = .baseException) := by
  refine emits_bind (emits_runHardwareStopAndFlush _ _) (fun _ _ h => h) fun results t hresults => ?_
  refine (emits_foldEach (I := fun done results' t' =>
    (∀ c, lost.get? c = none → results'.get? c = results.get? c) ∧
      ∀ c ∈ done, ShortFinalized (numericIds.get? c).join t')
    (E := fun e _ => e = .baseException) ⟨fun _ _ => rfl, List.forall_mem_nil _⟩ ?_).imp ?_
  · rintro done client rest results' t' hsplit ⟨hsame, hdone⟩
    have hlost : lost.get? client ≠ none := by
      have hmem : client ∈ opened.filter (lost.contains ·) := hsplit ▸ List.mem_append_right _ (.head _)
      have hcontains := (List.mem_filter.1 hmem).2
      exact Option.isSome_iff_ne_none.1 hcontains
    refine emits_bind (emits_closeLostClient _) (fun _ _ h => h) fun closed t'' h => emits_pure ?_
    rw [List.append_nil]
    refine ⟨fun c hc => ?_, fun c hc => ?_⟩
    · rw [Dict.get?_set, if_neg fun heq : c = client => hlost (heq ▸ hc)]
      exact hsame c hc
    · rcases List.mem_append.1 hc with hc | hc
      · exact (hdone c hc).mono (List.prefix_append t' t'').isInfix
      · obtain rfl := List.mem_singleton.1 hc
        exact h.mono (List.suffix_append t' t'').isInfix
  · rintro (e | results') t' h
    · exact h
    · obtain ⟨hsame, hlost⟩ := h
      refine ⟨fun c hc hnone => ?_, fun c hc hsome => ?_⟩
      · have hcontains : lost.contains c = false := by
          unfold Dict.contains
          rw [hnone]
          rfl
        rw [hsame c hnone]
        exact (hresults c (List.mem_filter.2 ⟨hc, by rw [hcontains]; rfl⟩)).mono
          (List.prefix_append t t').isInfix
      · exact (hlost c (List.mem_filter.2 ⟨hc, Option.isSome_iff_ne_none.2 hsome⟩)).mono
          (List.suffix_append t t').isInfix

/-- The ids that are found before the session begins. -/
def IdsFound (clients : List α) (numericIds : Dict α (Option String))
    (t : List (SessionExchange α)) : Prop :=
  ∀ c ∈ clients, ∃ id, numericIds.get? c = some id ∧ ⟨.resolveNumericId c, .ok id⟩ ∈ t

theorem emits_resolveNumericIds (clients : List α) :
    Emits dev (resolveNumericIds clients) (Ending (IdsFound clients) fun _ _ => True) := by
  refine emits_foldEach (I := IdsFound) (List.forall_mem_nil _) ?_
  rintro done client rest ids t - hdone
  refine emits_ask_bind (c := SessionCall.resolveNumericId client) (fun _ => trivial)
    fun (numericId : Option String) => emits_pure fun c hc => ?_
  by_cases hclient : c = client
  · subst hclient
    exact ⟨numericId, by rw [Dict.get?_set, if_pos rfl],
      List.mem_append_right _ List.mem_cons_self⟩
  · obtain ⟨id, hget, hmem⟩ := hdone c (by simpa [hclient] using hc)
    exact ⟨id, by rw [Dict.get?_set, if_neg hclient, hget], List.mem_append_left _ hmem⟩

/-- The client was lost when the wait ended. -/
def LossNoted (client : α) (t : List (SessionExchange α)) : Prop :=
  ∃ lost, ⟨.readLosses, .ok lost⟩ ∈ t ∧ lost.get? client ≠ none

/-- The numeric id of the client that was found when the session began. -/
def FirstId (clients : List α) (client : α) (numericId : Option String)
    (t : List (SessionExchange α)) : Prop :=
  [⟨.resolveNumericId client, .ok numericId⟩, ⟨.registerClients clients, .ok ()⟩].Sublist t

/-- After an OPEN the file was closed: through the numeric id that the client has then, or, if the
client was lost, through the one that it had when the session began. -/
def FileClosed (clients : List α) (client : α) (t post : List (SessionExchange α)) : Prop :=
  CloseTried client post ∨ LossNoted client post ∧
    ∃ numericId, FirstId clients client numericId t ∧ ShortFinalized numericId post

/-- After a client was enabled it was disabled, unless it was lost. -/
def ClientDisabled (client : α) (post : List (SessionExchange α)) : Prop :=
  DisableTried client post ∨ LossNoted client post

/-- What is left after a session that was not interrupted. -/
def CleanedUp (clients : List α) (client : α) (t : List (SessionExchange α)) : Prop :=
  Followed (OpensFor client) (fun _ post => FileClosed clients client t post) t ∧
    Followed (EnablesFor client) (fun _ post => ClientDisabled client post) t

theorem LossNoted.prepend {client : α} {lost : Dict α String} (h : lost.get? client ≠ none)
    (t t' : List (SessionExchange α)) : LossNoted client (t ++ ⟨.readLosses, .ok lost⟩ :: t') :=
  ⟨lost, List.mem_append_right _ List.mem_cons_self, h⟩

/-- A session that began with `t₀`, and in which an exception was raised. -/
theorem cleanedUp_of_exception {clients : List α} {t₀ t₁ t₂ : List (SessionExchange α)}
    (h₀ : ∀ x ∈ t₀, Inert x.call) (h₁ : ∀ x ∈ t₁, Among clients x.call)
    (h₂ : ∀ x ∈ t₂, Inert x.call)
    (hclients : ∀ c ∈ clients, CloseTried c t₂ ∧ DisableTried c t₂) (client : α) :
    CleanedUp clients client (t₀ ++ (t₁ ++ t₂)) := by
  rw [← List.append_assoc]
  refine ⟨followed_append_right (fun x hx hopen t => ?_)
    (followed_of_forall_not fun x hx => (h₂ x hx).not_opensFor),
    followed_append_right (fun x hx hen t => ?_)
    (followed_of_forall_not fun x hx => not_enablesFor_of_quiet (h₂ x hx).quiet)⟩
  · rcases List.mem_append.1 hx with hx | hx
    · exact absurd hopen (h₀ x hx).not_opensFor
    · exact .inl ((hclients client ((h₁ x hx).mem (.inl hopen))).1.prepend t)
  · rcases List.mem_append.1 hx with hx | hx
    · exact absurd hen (not_enablesFor_of_quiet (h₀ x hx).quiet)
    · obtain ⟨-, ok, hdisable⟩ := hclients client ((h₁ x hx).mem (.inr hen))
      exact .inl ⟨ok, hdisable.mono (List.suffix_append t t₂).isInfix⟩

/-- A session in which no file was opened. -/
theorem cleanedUp_of_unopened {clients : List α} {started : Started α}
    {t : List (SessionExchange α)} (h : Launched clients started t) (hopened : started.opened = [])
    (client : α) : CleanedUp clients client t := by
  have hnot : client ∉ started.opened := hopened ▸ List.not_mem_nil
  exact ⟨(h.closed client).imp fun x post hpost => .inl (hpost.resolve_left hnot),
    followed_of_forall_not fun x hx hen => hnot (h.enables client x hx hen)⟩

/-- A session that was finalized. -/
theorem cleanedUp_of_ended {clients : List α} {started : Started α} {reset : Bool}
    {numericIds : Dict α (Option String)} {lost : Dict α String} {results : Dict α Bool}
    {t₁ t₂ t₃ : List (SessionExchange α)} (h₁ : Launched clients started t₁)
    (h₂ : ∀ x ∈ t₂, Inert x.call) (h₃ : ∀ x ∈ t₃, Inert x.call)
    (hended : Ended reset numericIds started.opened lost results t₃)
    (hids : ∀ c ∈ clients, ∀ t, FirstId clients c (numericIds.get? c).join (t₁ ++ t)) (client : α) :
    CleanedUp clients client (t₁ ++ (⟨.readLosses, .ok lost⟩ :: t₂ ++ t₃)) := by
  have hinert : ∀ x ∈ (⟨.readLosses, .ok lost⟩ :: t₂ ++ t₃ : List (SessionExchange α)),
      Inert x.call :=
    List.forall_mem_append.2 ⟨List.forall_mem_cons.2 ⟨trivial, h₂⟩, h₃⟩
  have hsuffix : ∀ t, t₃ <:+: t ++ (⟨.readLosses, .ok lost⟩ :: t₂ ++ t₃) := fun t => by
    rw [← List.append_assoc]
    exact (List.suffix_append _ t₃).isInfix
  -- a client whose file is open is finalized, as one that is there or as a lost one
  have hend : client ∈ started.opened → ∀ t,
      (CloseTried client (t ++ (⟨.readLosses, .ok lost⟩ :: t₂ ++ t₃)) ∧
        DisableTried client (t ++ (⟨.readLosses, .ok lost⟩ :: t₂ ++ t₃))) ∨
      LossNoted client (t ++ (⟨.readLosses, .ok lost⟩ :: t₂ ++ t₃)) ∧
        ShortFinalized (numericIds.get? client).join
          (t ++ (⟨.readLosses, .ok lost⟩ :: t₂ ++ t₃)) := by
    intro hopened t
    by_cases hlost : lost.get? client = none
    · exact .inl (CloseTried.of_finalized ((hended.alive client hopened hlost).mono (hsuffix t)))
    · exact .inr ⟨.prepend hlost t _, (hended.lost client hopened hlost).mono (hsuffix t)⟩
  refine ⟨followed_append (h₁.closed client)
    (followed_of_forall_not fun x hx => (hinert x hx).not_opensFor) fun x hx post hpost => ?_,
    followed_append_right (fun x hx hen t => ?_)
      (followed_of_forall_not fun x hx => not_enablesFor_of_quiet (hinert x hx).quiet)⟩
  · obtain hopened | hclose := hpost
    · exact (hend hopened post).imp And.left fun h => ⟨h.1, _,
        hids client (h₁.subset client hopened) _, h.2⟩
    · exact .inl (hclose.append _)
  · exact (hend (h₁.enables client x hx hen) t).imp And.right And.left

theorem emits_session (s : SessionParams α) (clients : List α) :
    Emits dev (runAcquisitionSession s clients) fun r t =>
      r = .error .baseException ∨ ∀ client, CleanedUp clients client t := by
  unfold runAcquisitionSession
  split
  · exact emits_pure (.inr fun _ => ⟨trivial, trivial⟩)
  have hcleaned : ∀ {t : List (SessionExchange α)}, (∀ x ∈ t, Inert x.call) →
      ∀ client, CleanedUp clients client t := fun h client =>
    ⟨followed_of_forall_not fun x hx => (h x hx).not_opensFor,
      followed_of_forall_not fun x hx => not_enablesFor_of_quiet (h x hx).quiet⟩
  refine emits_bind ((emits_resolveNumericIds clients).and (inert_resolveNumericIds clients))
    (fun _ _ h => .inr (hcleaned h.2)) fun numericIds t₀ hresolved => ?_
  obtain ⟨hids, h₀⟩ := hresolved
  refine emits_bind (emits_note (R := fun r t => t = [⟨.registerClients clients, .ok ()⟩]) rfl)
    (fun _ t h => ?_) fun _ t hreg => ?_
  · rw [h]
    exact .inr (hcleaned (List.forall_mem_append.2 ⟨h₀, List.forall_mem_singleton.2 trivial⟩))
  subst hreg
  have hstart : ∀ x ∈ t₀ ++ [⟨.registerClients clients, .ok ()⟩], Inert x.call :=
    List.forall_mem_append.2 ⟨h₀, List.forall_mem_singleton.2 trivial⟩
  refine emits_bind (emits_body s clients) (fun e t h => ?_) fun result t h => ?_
  · cases e with
    | baseException => exact .inl rfl
    | exception =>
      obtain ⟨t₁, t₂, rfl, h₁, h₂, hclients⟩ := h
      rw [← List.append_assoc]
      exact .inr (cleanedUp_of_exception hstart h₁ h₂ hclients)
  obtain ⟨started, _ | lost⟩ := result
  · refine emits_pure (.inr fun client => ?_)
    rw [List.append_nil, ← List.append_assoc]
    exact cleanedUp_of_unopened (Launched.prepend h.1 hstart) h.2 client
  · obtain ⟨t₁, t₂, rfl, hlaunch, h₂⟩ := h
    refine emits_bind ((emits_finalize s numericIds started.opened lost).and
      (final_finalize s numericIds started.opened lost)) (fun e t h => .inl (congrArg _ h.1))
      fun results t₃ hfinal => emits_pure (.inr fun client => ?_)
    obtain ⟨hended, h₃⟩ := hfinal
    have hrec := cleanedUp_of_ended (Launched.prepend hlaunch hstart) h₂
      (fun x hx => (h₃ x hx).inert) hended (fun c hc t => ?_) client
    · simpa only [List.append_assoc, List.append_nil, List.cons_append] using hrec
    · obtain ⟨id, hget, hmem⟩ := hids c hc
      rw [hget]
      exact (List.Sublist.append (List.singleton_sublist.2 hmem) (.refl _)).trans
        ((List.sublist_append_left _ t₁).trans (List.sublist_append_left _ t))

/-- A session that is not interrupted by an exception outside `Exception` cleans up after every
client, however its calls are answered. After an OPEN the file is closed, through the numeric id that
the client then has, or, where the client was lost by the end of the wait, through the one that it had
when the session began. After RC19 has been written with a mask it is written with 0, unless the client
was lost by the end of the wait. -/
theorem session_cleaned_up (dev : Peers α) (s : SessionParams α) (clients : List α) (client : α) :
    outcome dev (runAcquisitionSession s clients) = .error .baseException ∨
      CleanedUp clients client (record dev (runAcquisitionSession s clients)) :=
  (Emits.run (emits_session s clients)).imp_right fun h => h client

end AcquisitionSession

end MultiDAQ.Server
