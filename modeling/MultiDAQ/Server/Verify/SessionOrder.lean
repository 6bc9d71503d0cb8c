import MultiDAQ.Server.Verify.SessionRecord

/-!
# What comes before a client is enabled

However the calls of a session are answered, RC19 of a client is written with a mask once at most,
and only after the client was checked and reset, its file was opened with a header that has the mask,
and its producer was started.
-/

namespace MultiDAQ.Server

open MultiDAQ.Lib MultiDAQ.Lib.Interaction MultiDAQ.Lib.Recorder
open AcquisitionService (PyError RegisterValue bitAnd)

namespace AcquisitionSession

variable {α : Type} {dev : Peers α} {β : Type}

/-! ## Calls that enable no client -/

variable {C : SessionCall α → Prop}

theorem only_exceptException {p handler : SessionM α β} (hp : Only dev C p)
    (hh : Only dev C handler) : Only dev C (exceptException p handler) := by
  refine only_try hp fun e => ?_
  cases e with
  | exception => exact hh
  | baseException => exact only_raise _

theorem only_runClientStep {p : SessionM α Bool} (hp : Only dev C p) :
    Only dev C (runClientStep p) :=
  only_exceptException hp (only_pure false)

/-- A step ends as its action does, or has failed where the action raised. -/
theorem emits_runClientStep {p : SessionM α Bool}
    {R : Except PyError Bool → List (SessionExchange α) → Prop} (hp : Emits dev p R) :
    Emits dev (runClientStep p) fun r t =>
      R r t ∨ r = .ok false ∧ R (.error .exception) t := by
  refine emits_try hp (fun _ _ h => .inl h) fun e t ht => ?_
  cases e with
  | exception => exact emits_pure (.inr ⟨rfl, by rwa [List.append_nil]⟩)
  | baseException => exact emits_raise (.inl (by rwa [List.append_nil]))

theorem inert_stopIfLost (lostWhileStarting : Bool) :
    Only dev Inert (stopIfLost lostWhileStarting : SessionM α Unit) := by
  cases lostWhileStarting with
  | true => exact only_note trivial
  | false => exact only_pure ()

variable {γ : Type} {G : SessionExchange α → List (SessionExchange α) → Prop}
variable {h : List (SessionExchange α)}

theorem guarded_quiet {t : List (SessionExchange α)} (ht : ∀ y ∈ t, Quiet y.call) :
    Guarded Enables G h t :=
  guarded_of_forall_not fun y hy hnot => hnot (ht y hy)

/-- The entries that enable a client come after what `G` asks. -/
def Ordered (dev : Peers α) (G : SessionExchange α → List (SessionExchange α) → Prop)
    (h : List (SessionExchange α)) (p : SessionM α β) : Prop :=
  Emits dev p fun _ t => Guarded Enables G h t

theorem ordered_of_only {p : SessionM α β} (hp : Only dev Quiet p) : Ordered dev G h p :=
  Emits.imp hp fun _ _ ht => guarded_quiet ht

theorem ordered_bind {p : SessionM α β} {k : β → SessionM α γ}
    {R : Except PyError β → List (SessionExchange α) → Prop} (hp : Emits dev p R)
    (hR : ∀ r t, R r t → ∀ y ∈ t, Quiet y.call)
    (hk : ∀ a t, R (.ok a) t → Ordered dev G (h ++ t) (k a)) : Ordered dev G h (p >>= k) :=
  emits_bind hp (fun _ t ht => guarded_quiet (hR _ t ht)) fun a t ht =>
    Emits.imp (hk a t ht) fun _ _ ht' => guarded_append (guarded_quiet (hR _ t ht)) ht'

theorem ordered_bind_quiet {p : SessionM α β} {k : β → SessionM α γ} (hp : Ordered dev G h p)
    (hk : ∀ a, Only dev Quiet (k a)) : Ordered dev G h (p >>= k) :=
  emits_bind hp (fun _ _ ht => ht) fun a _ ht =>
    Emits.imp (hk a) fun _ _ ht' => guarded_append ht (guarded_quiet ht')

theorem ordered_exceptException {p handler : SessionM α β} (hp : Ordered dev G h p)
    (hh : Only dev Quiet handler) : Ordered dev G h (exceptException p handler) := by
  refine emits_try hp (fun _ _ ht => ht) fun e t ht => ?_
  cases e with
  | exception => exact Emits.imp hh fun _ _ ht' => guarded_append ht (guarded_quiet ht')
  | baseException => exact emits_raise (guarded_append ht trivial)

variable [DecidableEq α]

theorem only_viaNumericId {client : α} {command : ReceiverCommand α}
    (hresolve : C (.resolveNumericId client)) (hcommand : ∀ id, C (.receiver id command)) :
    Only dev C (viaNumericId client command) :=
  only_bind (only_ask hresolve) fun numericId => by
    cases numericId with
    | none => exact only_pure false
    | some id => exact only_ask (hcommand id)

theorem only_finalizeEach {step : α → SessionM α Bool} {clients : List α}
    (h : ∀ client ∈ clients, Only dev C (step client)) (results : Dict α Bool) :
    Only dev C (finalizeEach step clients results) :=
  only_foldEach fun results client hclient =>
    only_bind (only_runClientStep (h client hclient)) fun ok => by
      split
      · exact only_pure _
      · exact only_pure _

theorem only_resultsOf {step : α → SessionM α Bool} {clients : List α}
    (h : ∀ client ∈ clients, Only dev C (step client)) : Only dev C (resultsOf step clients) :=
  only_foldEach fun _ client hclient =>
    only_bind (only_runClientStep (h client hclient)) fun _ => only_pure _

theorem final_closeFileForClient (client : α) : Only dev Final (closeFileForClient client) :=
  only_viaNumericId trivial fun _ => .inl rfl

theorem final_disableRcChannels (clients : List α) : Only dev Final (disableRcChannels clients) :=
  only_foldEach fun _ _ _ => only_bind (only_ask ⟨rfl, rfl⟩) fun _ => only_pure _

theorem final_runHardwareStopAndFlush (clients : List α) (reset : Bool) :
    Only dev Final (runHardwareStopAndFlush clients reset) := by
  unfold runHardwareStopAndFlush
  split
  · exact only_pure _
  · refine only_bind (only_finalizeEach (fun client _ => final_disableRcChannels [client]) _)
      fun results => only_bind (only_resultsOf fun client _ => only_ask trivial) fun flushed => ?_
    have hclose : ∀ results, Only dev Final (do
        pure (noteFailures results (← stopAcqAllClients clients))) := fun results =>
      only_bind (only_resultsOf fun client _ => final_closeFileForClient client) fun _ =>
        only_pure _
    split
    · exact only_bind (only_finalizeEach (fun client _ => only_ask trivial) _) hclose
    · exact only_bind (only_pure _) hclose

theorem final_closeLostClient (numericId : Option String) :
    Only dev (Final (α := α)) (closeLostClient numericId) := by
  cases numericId with
  | none => exact only_pure false
  | some id =>
    exact only_bind (only_runClientStep (only_ask (.inr rfl))) fun _ =>
      only_runClientStep (only_ask (.inl rfl))

theorem final_finalize (s : SessionParams α) (numericIds : Dict α (Option String))
    (opened : List α) (lost : Dict α String) :
    Only dev Final (finalize s numericIds opened lost) :=
  only_bind (final_runHardwareStopAndFlush _ _) fun _ => only_foldEach fun _ _ _ =>
    only_bind (final_closeLostClient _) fun _ => only_pure _

theorem final_finalizeAfterError (s : SessionParams α) (clients : List α) :
    Only dev Final (finalizeAfterError s clients : SessionM α β) :=
  only_bind (only_exceptException
    (only_bind (final_runHardwareStopAndFlush _ _) fun _ => only_pure _) (only_pure ()))
    fun _ => only_raise _

theorem inert_waitForEnd (s : SessionParams α) (acquiring : List α) :
    Only dev Inert (waitForEnd s acquiring) := by
  have hwait : ∀ timeout, Only dev Inert (waitStop timeout : SessionM α Bool) := fun _ =>
    only_ask trivial
  unfold waitForEnd
  split
  · exact only_pure ()
  split
  · split
    · refine only_bind (hwait _) fun stoppedEarly => ?_
      split
      · exact only_exceptException (only_ask trivial) (only_pure ())
      · exact only_pure ()
    · exact only_bind (hwait none) fun _ => only_pure ()
  · exact only_bind (hwait none) fun _ => only_pure ()

theorem inert_awaitEnd (s : SessionParams α) (acquiring : List α) :
    Only dev Inert (awaitEnd s acquiring) :=
  only_bind (only_ask trivial) fun lostWhileStarting =>
    only_bind (inert_stopIfLost lostWhileStarting) fun _ =>
      only_bind (inert_waitForEnd s acquiring) fun _ => only_ask trivial

theorem inert_resolveNumericIds (clients : List α) :
    Only dev Inert (resolveNumericIds clients) :=
  only_foldEach fun _ _ _ => only_bind (only_ask trivial) fun _ => only_pure _

/-! ## What enables a client -/

/-- A client that is checked and gets a mask is prepared for it. -/
theorem emits_checkClient (metadata : Dict α Metadata) (client : α) :
    Emits dev (checkClient metadata client) (Ending
      (fun r t => ∀ mask, r = .ok mask → Prepared client mask t ∧ metadata.contains client = true)
      fun _ _ => True) := by
  refine emits_ask_bind (c := SessionCall.preparedRc19 client) (fun _ => trivial) fun prepared => ?_
  rcases prepared with _ | mask | _
  · exact emits_pure fun _ h => by cases h
  · dsimp only
    split
    · exact emits_pure fun _ h => by cases h
    · next hmask =>
      refine emits_ask_bind (c := SessionCall.readRcRegister client 19) (fun _ => trivial)
        fun current => ?_
      rcases current with _ | rc19 | _
      · exact emits_pure fun _ h => by cases h
      · refine emits_pure_bind ?_
        split
        · exact emits_pure fun _ h => by cases h
        · next hbits =>
          split
          · exact emits_pure fun _ h => by cases h
          · next hmetadata =>
            refine emits_bind (emits_runClientStep (emits_ask
              (R := fun reply t => t = [⟨.flushClient client, reply⟩]) fun _ => rfl))
              (fun _ _ _ => trivial) fun ok t ht => ?_
            split
            · exact emits_pure fun _ h => by cases h
            · next hok =>
              refine emits_pure fun mask' h => ?_
              cases h
              obtain rfl : ok = true := by simpa using hok
              obtain rfl | ⟨h, -⟩ := ht
              · refine ⟨⟨(not_not.1 hmask).1, (not_not.1 hmask).2, rc19, not_not.1 hbits, ?_⟩, ?_⟩
                · exact List.Sublist.refl _
                · simpa using hmetadata
              · cases h
      · exact emits_raise_bind trivial
  · exact emits_pure fun _ h => by cases h

/-- What the first loop leaves of a client that has a mask. -/
def Ready (p : Preparation α) (t : List (SessionExchange α)) : Prop :=
  ∀ client mask, p.masks.get? client = some mask → Prepared client mask t ∧
    ∃ metadata, p.metadata.get? client = some metadata ∧
      metadata.get? "status_reg19" = some (.int mask)

theorem emits_prepareClient {p : Preparation α} {t : List (SessionExchange α)} (hp : Ready p t)
    (client : α) :
    Emits dev (prepareClient p client) fun r t' =>
      Ending Ready (fun _ _ => True) r (t ++ t') := by
  refine emits_bind (emits_checkClient p.metadata client) (fun _ _ _ => trivial) fun r t' hr => ?_
  cases r with
  | error error =>
    refine emits_pure fun c mask h => ?_
    rw [List.append_nil]
    exact ⟨(hp c mask h).1.append t', (hp c mask h).2⟩
  | ok mask =>
    obtain ⟨hprepared, hcontains⟩ := hr mask rfl
    obtain ⟨metadata, hmetadata⟩ := Option.isSome_iff_exists.1 hcontains
    refine emits_pure fun c mask' h => ?_
    rw [List.append_nil]
    dsimp only at h ⊢
    rw [Dict.get?_set] at h
    rw [Dict.get?_modify]
    split at h
    · next hc =>
      subst hc
      cases h
      refine ⟨hprepared.prepend t, metadata.set "status_reg19" (.int mask), ?_, ?_⟩
      · rw [if_pos rfl, hmetadata]
        rfl
      · rw [Dict.get?_set, if_pos rfl]
    · next hc =>
      rw [if_neg hc]
      exact ⟨(hp c mask' h).1.append t', (hp c mask' h).2⟩

theorem emits_viaNumericId (client : α) (command : ReceiverCommand α) :
    Emits dev (viaNumericId client command) (ViaId client command) := by
  refine emits_ask_bind (c := SessionCall.resolveNumericId client) (fun e => .unresolved e)
    fun numericId => ?_
  cases numericId with
  | none => exact emits_pure .unknown
  | some id => exact emits_ask (c := SessionCall.receiver id command) fun reply => .told id reply

/-! ## The start of the clients -/

/-- What comes before the write in the start of one client. -/
def StartedBefore (client : α) (request : OpenRequest) (mask : Int) (x : SessionExchange α)
    (h : List (SessionExchange α)) : Prop :=
  x.call = .writeRcRegister client 19 mask ∧ (∀ y ∈ h, Quiet y.call) ∧ ∃ id id',
    [⟨.resolveNumericId client, .ok (some id)⟩,
      ⟨.receiver id (.openFile client request), .ok true⟩,
      ⟨.resolveNumericId client, .ok (some id')⟩,
      ⟨.receiver id' .startProducer, .ok true⟩].Sublist h

theorem ordered_startClient (client : α) (request : OpenRequest) (mask : Int) :
    Ordered dev (StartedBefore client request mask) [] (startClient client request mask) := by
  have hstop : Emits dev (stopRequested : SessionM α Bool) fun r t =>
      t = [⟨.isStopRequested, r⟩] := emits_ask fun _ => rfl
  have hquiet : ∀ (r : Except PyError Bool) (t : List (SessionExchange α)),
      t = [⟨.isStopRequested, r⟩] → ∀ y ∈ t, Quiet y.call := by
    rintro r _ rfl
    exact List.forall_mem_singleton.2 trivial
  refine ordered_bind hstop hquiet fun stop t₁ h₁ => ?_
  split
  · exact ordered_of_only (only_pure _)
  refine ordered_bind (emits_viaNumericId client _) (fun _ _ => ViaId.quiet) fun opened t₂ h₂ => ?_
  split
  · refine ordered_of_only (only_bind ?_ fun _ => only_pure _)
    exact (final_closeFileForClient client).imp fun _ => Final.quiet
  next hopened =>
  refine ordered_bind hstop hquiet fun stop t₃ h₃ => ?_
  split
  · exact ordered_of_only (only_pure _)
  refine ordered_bind (emits_viaNumericId client _) (fun _ _ => ViaId.quiet) fun started t₄ h₄ => ?_
  split
  · exact ordered_of_only (only_pure _)
  next hstarted =>
  refine ordered_bind hstop hquiet fun stop t₅ h₅ => ?_
  split
  · exact ordered_of_only (only_pure _)
  have hbefore : ∀ y ∈ [] ++ t₁ ++ t₂ ++ t₃ ++ t₄ ++ t₅, Quiet y.call := by
    simp only [List.forall_mem_append]
    exact ⟨⟨⟨⟨⟨List.forall_mem_nil _, hquiet _ _ h₁⟩, h₂.quiet⟩, hquiet _ _ h₃⟩, h₄.quiet⟩,
      hquiet _ _ h₅⟩
  have hsub : (t₂ ++ t₄).Sublist ([] ++ t₁ ++ t₂ ++ t₃ ++ t₄ ++ t₅) :=
    (((List.sublist_append_right _ t₂).trans (List.sublist_append_left _ t₃)).append
      (.refl t₄)).trans (List.sublist_append_left _ t₅)
  obtain ⟨id, rfl⟩ := ViaId.of_true ((by simpa using hopened : opened = true) ▸ h₂)
  obtain ⟨id', rfl⟩ := ViaId.of_true ((by simpa using hstarted : started = true) ▸ h₄)
  have hwrite : ∀ reply, Guarded Enables (StartedBefore client request mask) _
      [⟨.writeRcRegister client 19 mask, reply⟩] := fun reply =>
    ⟨fun _ => ⟨rfl, hbefore, id, id', hsub⟩, trivial⟩
  refine emits_bind (R := fun r t => t = [⟨.writeRcRegister client 19 mask, r⟩])
    (emits_ask fun _ => rfl) ?_ ?_
  · rintro e _ rfl
    exact hwrite (.error e)
  · rintro ok _ rfl
    split
    · exact emits_pure (hwrite (.ok ok))
    · exact emits_pure (hwrite (.ok ok))

/-- The loop over the clients that have a mask, after `h` has prepared them. -/
theorem ordered_startClients (s : SessionParams α) {p : Preparation α} (hready : Ready p h)
    (hquiet : ∀ y ∈ h, Quiet y.call) (started : Started α) :
    Ordered dev EnabledInOrder h (foldEach p.masks.entries started fun started e => do
      let request := openRequest s e.1 ((p.metadata.get? e.1).getD .empty)
      let o ← startClient e.1 request e.2
      pure (started.note e.1 o)) := by
  refine Emits.imp (emits_foldEach (I := fun done _ t => Guarded Enables EnabledInOrder h t ∧
    ∀ client ∉ done.map Prod.fst, NotEnabled client t) (E := fun _ t =>
      Guarded Enables EnabledInOrder h t) ⟨trivial, fun _ _ => List.forall_mem_nil _⟩ ?_) ?_
  · rintro done ⟨client, mask⟩ rest b t hentries ⟨hguarded, hothers⟩
    have hmem : (client, mask) ∈ p.masks.entries := hentries ▸ List.mem_append_right _ (.head _)
    have hnew : client ∉ done.map Prod.fst := by
      have hnodup := p.masks.nodup
      rw [hentries, List.map_append, List.map_cons] at hnodup
      intro hdone
      exact (List.nodup_append.1 hnodup).2.2 client hdone client List.mem_cons_self rfl
    obtain ⟨hprepared, metadata, hmetadata, hmask⟩ := hready client mask (Dict.mem_entries.1 hmem)
    have hstart : ∀ t', Guarded Enables (StartedBefore client (openRequest s client
        ((p.metadata.get? client).getD .empty)) mask) [] t' →
        Guarded Enables EnabledInOrder h (t ++ t') := by
      intro t' ht'
      have hshift : Guarded Enables EnabledInOrder ((h ++ t) ++ []) t' :=
        ht'.shift fun x k _ hx => ?_
      · rw [List.append_nil] at hshift
        exact guarded_append hguarded hshift
      · obtain ⟨hcall, hk, id, id', hsub⟩ := hx
        refine ⟨client, mask, h ++ t, k, hcall, rfl, hprepared.append t,
          ⟨id, _, id', ?_, hsub⟩, ?_⟩
        · show ((p.metadata.get? client).getD .empty).get? "status_reg19" = _
          rw [hmetadata]
          exact hmask
        · exact ((NotEnabled.of_quiet hquiet).append (hothers client hnew)).append
            (.of_quiet hk)
    refine emits_bind (ordered_startClient client _ mask) (fun _ t' ht' => hstart t' ht')
      fun o t' ht' => emits_pure ?_
    rw [List.append_nil]
    refine ⟨hstart t' ht', fun c hc => ?_⟩
    rw [List.map_append, List.mem_append, not_or] at hc
    refine (hothers c hc.1).append fun y hy value hcall => ?_
    by_contra hvalue
    obtain ⟨_, _, -, hstarted⟩ := ht'.of_mem hy (enables_iff.2 ⟨c, value, hcall, hvalue⟩)
    have heq := hcall.symm.trans hstarted.1
    cases heq
    exact hc.2 List.mem_cons_self
  · rintro (e | b) t ht
    · exact ht
    · exact ht.1

theorem inert_checkClient (metadata : Dict α Metadata) (client : α) :
    Only dev Inert (checkClient metadata client) := by
  refine only_bind (only_ask trivial) fun prepared => ?_
  rcases prepared with _ | mask | _
  · exact only_pure _
  · dsimp only
    split
    · exact only_pure _
    · refine only_bind (only_ask trivial) fun current => ?_
      rcases current with _ | rc19 | _
      · exact only_pure _
      · refine emits_pure_bind ?_
        split
        · exact only_pure _
        · split
          · exact only_pure _
          · refine only_bind (only_runClientStep (only_ask trivial)) fun ok => ?_
            split
            · exact only_pure _
            · exact only_pure _
      · exact emits_raise_bind (List.forall_mem_nil _)
  · exact only_pure _

/-- The first loop of `_open_and_start_prepared_clients`. -/
theorem inert_prepareClients (metadata : Dict α Metadata) (clients : List α) :
    Only dev Inert (foldEach clients { metadata } prepareClient) :=
  only_foldEach fun p client _ => only_bind (inert_checkClient _ client) fun r => by
    cases r with
    | error _ => exact only_pure _
    | ok _ => exact only_pure _

theorem emits_prepareClients (metadata : Dict α Metadata) (clients : List α) :
    Emits dev (foldEach clients { metadata } prepareClient)
      (Ending Ready fun _ _ => True) := by
  refine emits_foldEach (I := fun _ => Ready) (fun _ _ h => by cases h) ?_
  rintro _ client _ p t - hp
  exact emits_prepareClient hp client

theorem ordered_openAndStart (s : SessionParams α) (clients : List α)
    (metadata : Dict α Metadata) (hquiet : ∀ y ∈ h, Quiet y.call) :
    Ordered dev EnabledInOrder h (openAndStartPreparedClients s clients metadata) := by
  refine ordered_bind ((emits_prepareClients metadata clients).and
    (inert_prepareClients metadata clients)) (fun _ _ ht y hy => (ht.2 y hy).quiet)
    fun p t ht => ?_
  refine ordered_startClients s (fun client mask hmask => ?_)
    (List.forall_mem_append.2 ⟨hquiet, fun y hy => (ht.2 y hy).quiet⟩) _
  obtain ⟨hprepared, hmetadata⟩ := ht.1 client mask hmask
  exact ⟨hprepared.prepend h, hmetadata⟩

theorem ordered_acquire (s : SessionParams α) (clients : List α)
    (hquiet : ∀ y ∈ h, Quiet y.call) : Ordered dev EnabledInOrder h (acquire s clients) := by
  refine ordered_bind (only_ask trivial) (fun _ _ ht => ht) fun metadata t ht => ?_
  refine ordered_bind_quiet (ordered_openAndStart s clients metadata
    (List.forall_mem_append.2 ⟨hquiet, ht⟩)) fun started => ?_
  split
  · exact only_pure _
  · exact only_bind ((inert_awaitEnd s _).imp fun _ => Inert.quiet) fun _ => only_pure _

/-- However a session is answered, and however it ends, every write of a mask to RC19 of a client
comes after the client was found disabled and was reset, then had its file opened with a header that
names the mask, and then its producer started; and it is the only one to that client. -/
theorem enabled_in_order (dev : Peers α) (s : SessionParams α) (clients : List α) :
    Guarded Enables EnabledInOrder [] (record dev (runAcquisitionSession s clients)) := by
  suffices hsession : Ordered dev EnabledInOrder [] (runAcquisitionSession s clients) from
    Emits.run hsession
  unfold runAcquisitionSession
  split
  · exact ordered_of_only (only_pure _)
  refine ordered_bind ((inert_resolveNumericIds clients).imp fun _ => Inert.quiet) (fun _ _ ht => ht) fun ids t₁ h₁ => ?_
  refine ordered_bind (only_note trivial) (fun _ _ ht => ht) fun _ t₂ h₂ => ?_
  have hquiet : ∀ y ∈ [] ++ t₁ ++ t₂, Quiet y.call := List.forall_mem_append.2 ⟨h₁, h₂⟩
  have htry : Ordered dev EnabledInOrder ([] ++ t₁ ++ t₂)
      (exceptException (acquire s clients) (finalizeAfterError s clients)) :=
    ordered_exceptException (ordered_acquire s clients hquiet)
      ((final_finalizeAfterError s clients).imp fun _ => Final.quiet)
  have hclear : Only dev Quiet (note (SessionCall.clearSession : SessionCall α) ()) :=
    only_note trivial
  refine ordered_bind_quiet (emits_finally htry fun _ t ht => Emits.imp hclear fun _ _ ht' =>
    guarded_append ht (guarded_quiet ht')) fun result => ?_
  obtain ⟨started, lost?⟩ := result
  cases lost? with
  | none => exact only_pure _
  | some lost =>
    exact only_bind ((final_finalize s ids started.opened lost).imp fun _ => Final.quiet)
      fun _ => only_pure _

end AcquisitionSession

end MultiDAQ.Server
