import MultiDAQ.Server.Verify.Refine
import MultiDAQ.Server.Verify.Rejection

/-!
# Configurations that are never closed

A configuration is open while a client is `CONFIGURING` or its bookkeeping is pending. The two
results of a configuration close it; every other way out of the run state `CONFIGURING` leaves it
open. `noneStranded_along_iff` says exactly which operations leave a client behind: a run strands no
client if and only if it takes none of them.
-/

namespace MultiDAQ.Server

open MultiDAQ.Lib

/-- The events other than `FATAL_ERROR` that leave `CONFIGURING` without a result. -/
def abandoningEvents : List ServerFSMEvent :=
  [.controlConnectionLost, .acquisitionConnectionLost, .disconnectRequested, .recoverySucceeded,
    .recoveryFailed]

namespace Fleet

variable {ι : Type} [DecidableEq ι] {f : Fleet ι} {a : Act ι}

/-- A client is under configuration, or the bookkeeping of a configuration is pending. -/
def ConfigurationOpen (f : Fleet ι) : Prop :=
  (∃ i m, f.member i = some m ∧ m.state = .configuring) ∨ f.source.isSome ∨ f.isPartial = true

/-- No configuration is open outside of `CONFIGURING`. -/
def NoneStranded (f : Fleet ι) : Prop := f.runState ≠ .configuring → ¬f.ConfigurationOpen

/-- The actions that leave a configuration open. -/
def Strands (f : Fleet ι) : Act ι → Prop
  | .noteSource => True
  | .move _ next => f.runState = .configuring ∧ next ≠ .configuring ∧ f.ConfigurationOpen
  | .fatal => f.runState = .configuring ∧
      ((∃ i m, f.member i = some m ∧ m.state = .configuring ∧ m.operational = false) ∨
        f.source.isSome ∨ f.isPartial = true)
  | .reset => f.runState = .configuring ∧ f.ConfigurationOpen
  | .clientEvent i event => f.runState ≠ .configuring ∧
      ∃ m, f.member i = some m ∧ transitionTableClient m.state event = some .configuring
  | _ => False

omit [DecidableEq ι] in
/-- An update that moves no client into `CONFIGURING` opens nothing. -/
theorem configurationOpen_update {g : ι → Member → Member}
    (hg : ∀ i m, f.member i = some m → (g i m).state = .configuring → m.state = .configuring)
    (h : (f.update g).ConfigurationOpen) : f.ConfigurationOpen := by
  rcases h with ⟨i, m', hm', hs⟩ | h
  · obtain ⟨m, hm, rfl⟩ := Option.map_eq_some_iff.1 hm'
    exact .inl ⟨i, m, hm, hg i m hm hs⟩
  · exact .inr h

theorem noneStranded_after (he : f.Enabled a) (h : f.NoneStranded) (hs : ¬f.Strands a) :
    (f.after a).NoneStranded := by
  intro hrun hopen
  cases a with
  | idle => exact h hrun hopen
  | clearPending => exact h hrun hopen
  | noteSource => exact hs trivial
  | move event next =>
    by_cases hr : f.runState = .configuring
    · exact hs ⟨hr, hrun, hopen⟩
    · exact h hr hopen
  | configure targets isPartial => exact hrun rfl
  | configured successful failed =>
    -- a result names every client under configuration
    rcases hopen with ⟨i, m', hm', hst⟩ | ho | ho
    · obtain ⟨m, hm, rfl⟩ := Option.map_eq_some_iff.1 hm'
      by_cases hi : i ∈ failed
      · simp [hi] at hst
      · by_cases hi' : i ∈ successful
        · simp [hi, hi'] at hst
        · simp only [hi, hi', if_false] at hst
          have hu : i ∈ successful ∪ failed := he.2.2.2.1 ▸ ⟨m, hm, hst⟩
          exact hu.elim hi' hi
    · cases ho
    · cases ho
  | configurationFailed =>
    rcases hopen with ⟨i, m', hm', hst⟩ | ho | ho
    · obtain ⟨m, hm, rfl⟩ := Option.map_eq_some_iff.1 hm'
      by_cases hc : m.state = .configuring <;> simp [hc] at hst
    · cases ho
    · cases ho
  | acquire active =>
    have hr : f.runState ≠ .configuring := by rw [he.1]; decide
    refine h hr (configurationOpen_update (fun i m _ hst => ?_) hopen)
    by_cases hi : i ∈ active
    · simp [hi] at hst
    · simpa [hi] using hst
  | fatal =>
    by_cases hr : f.runState = .configuring
    · refine hs ⟨hr, ?_⟩
      rcases hopen with ⟨i, m', hm', hst⟩ | ho
      · obtain ⟨m, hm, rfl⟩ := Option.map_eq_some_iff.1 hm'
        cases ho : m.operational
        · exact .inl ⟨i, m, hm, by simpa [ho] using hst, ho⟩
        · simp [ho] at hst
      · exact .inr ho
    · refine h hr (configurationOpen_update (fun i m _ hst => ?_) hopen)
      cases ho : m.operational
      · simpa [ho] using hst
      · simp [ho] at hst
  | finalize event terminal =>
    have hr : f.runState ≠ .configuring := by
      intro hr
      have ht : transitionTable f.runState event = some .finalizing := he
      rw [hr] at ht
      cases event <;> simp [transitionTable] at ht
    refine h hr (configurationOpen_update (fun i m _ hst => ?_) hopen)
    cases ho : m.operational
    · simpa [ho] using hst
    · simp [ho] at hst
  | finalized =>
    have hr : f.runState ≠ .configuring := by rw [show f.runState = .finalizing from he]; decide
    refine h hr (configurationOpen_update (fun i m _ hst => ?_) hopen)
    split at hst
    · exact Member.finalized_configuring hst
    · exact hst
  | clientEvent i event =>
    refine h hrun (configurationOpen_update (fun j m hm hst => ?_) hopen)
    split at hst
    · next hj =>
      cases ht : transitionTableClient m.state event with
      | none => simpa [ht] using hst
      | some next =>
        refine absurd ⟨hrun, m, hj ▸ hm, ?_⟩ hs
        simpa [ht] using hst
    · exact hst
  | reset =>
    have ho : f.ConfigurationOpen := by
      refine configurationOpen_update (fun _ _ _ hst => ?_) hopen
      exact hst
    by_cases hr : f.runState = .configuring
    · exact hs ⟨hr, ho⟩
    · exact h hr ho
  | enlist i identity =>
    refine h hrun ?_
    rcases hopen with ⟨j, m, hm, hst⟩ | ho
    · simp only [after] at hm
      split at hm
      · obtain rfl := Option.some.inj hm
        cases hi : f.member i with
        | none => simp [hi, Member.admitted, Member.new] at hst
        | some m => exact .inl ⟨i, m, hi, by simpa [hi, Member.admitted] using hst⟩
      · exact .inl ⟨j, m, hm, hst⟩
    · exact .inr ho
  | forget i =>
    refine h hrun ?_
    rcases hopen with ⟨j, m, hm, hst⟩ | ho
    · simp only [after] at hm
      split at hm
      · cases hm
      · exact .inl ⟨j, m, hm, hst⟩
    · exact .inr ho
  | clearMonitoring | setOperational _ | clearOperational =>
    refine h hrun (configurationOpen_update (fun _ _ _ hst => ?_) hopen)
    exact hst
  | joinAcquisition _ | leaveAcquisition _ | clearAcquisition | joinMonitoring _
  | leaveMonitoring _ | dropOperational _ =>
    refine h hrun (configurationOpen_update (fun i m _ hst => ?_) hopen)
    split at hst <;> exact hst

omit [DecidableEq ι] in
/-- The moves out of `CONFIGURING`. -/
theorem abandoning_of_move {event : ServerFSMEvent} {next : ServerFSM}
    (hrun : f.runState = .configuring) (he : f.Enabled (.move event next)) :
    event ∈ abandoningEvents := by
  obtain ⟨ht, -, -, h₂, h₃, -, h₅, -⟩ := he
  rw [hrun] at ht
  cases event <;> simp_all [transitionTable, abandoningEvents]

theorem not_noneStranded_after (he : f.Enabled a) (hs : f.Strands a) :
    ¬(f.after a).NoneStranded := by
  intro h
  cases a with
  | noteSource =>
    refine h ?_ (.inr (.inl rfl))
    show f.runState ≠ .configuring
    rcases he with hr | hr <;> rw [hr] <;> decide
  | move event next => exact h hs.2.1 hs.2.2
  | fatal =>
    refine h (fun hr => by cases hr) ?_
    rcases hs.2 with ⟨i, m, hm, hst, ho⟩ | ho
    · exact .inl ⟨i, _, congrArg (Option.map _) hm, by simp [ho, hst]⟩
    · exact .inr ho
  | reset =>
    refine h (fun hr => by cases hr) ?_
    rcases hs.2 with ⟨i, m, hm, hst⟩ | ho
    · exact .inl ⟨i, _, congrArg (Option.map _) hm, hst⟩
    · exact .inr ho
  | clientEvent i event =>
    obtain ⟨hr, m, hm, ht⟩ := hs
    exact h hr (.inl ⟨i, _, congrArg (Option.map _) hm, by simp [ht]⟩)
  | _ => exact hs

end Fleet

/-! ## The operations that strand -/

namespace ServerState

variable {s : ServerState}

/-- A client is under configuration, or the bookkeeping of a configuration is pending. -/
def ConfigurationOpen (s : ServerState) : Prop :=
  s.listClientsInState .configuring ≠ [] ∨ s.pendingConfigurationSource ≠ none ∨
    s.pendingConfigurationPartial = true

/-- No client and no bookkeeping is left of a configuration outside of `CONFIGURING`. -/
def NoneStranded (s : ServerState) : Prop :=
  s.runState ≠ .configuring → s.listClientsInState .configuring = [] ∧
    s.pendingConfigurationSource = none ∧ s.pendingConfigurationPartial = false

/-- The operations that leave a configuration open: a `CONFIGURATION_STARTED` whose targets are
refused, a way out of `CONFIGURING` other than a result while a configuration is open, and a client
that is moved to `CONFIGURING` outside of a configuration. -/
def Strands (s : ServerState) : ServerOp → Prop
  | .processEvent c => s.SpoilsSource c ∨ s.runState = .configuring ∧
      ((∃ event ∈ abandoningEvents, c.Plain event) ∧ s.ConfigurationOpen ∨
        c.Plain .fatalError ∧
          ((∃ cid r, s.clients.get? cid = some r ∧ r.state = .configuring ∧
            r.operational = false) ∨
          s.pendingConfigurationSource ≠ none ∨ s.pendingConfigurationPartial = true))
  | .processClientEvent c => s.runState ≠ .configuring ∧ c.event = some .configurationStarted ∧
      (nonBlank c.reason).isSome ∧ (nonBlank c.source).isSome ∧
      ∃ cid r, c.clientId.toClientId = some cid ∧ s.clients.get? cid = some r ∧
        (r.state = .connected ∨ r.state = .ready)
  | .resetToDisconnected _ _ _ => s.runState = .configuring ∧ s.ConfigurationOpen
  | _ => False

theorem configurationOpen_fleet : s.fleet.ConfigurationOpen ↔ s.ConfigurationOpen := by
  have hmem : (∃ i m, s.fleet.member i = some m ∧ m.state = .configuring) ↔
      s.listClientsInState .configuring ≠ [] := by
    refine ⟨fun ⟨i, hi⟩ => List.ne_nil_of_mem (mem_listClientsInState.2 hi), fun hne => ?_⟩
    obtain ⟨i, hi⟩ := List.exists_mem_of_ne_nil _ hne
    exact ⟨i, mem_listClientsInState.1 hi⟩
  rw [Fleet.ConfigurationOpen, hmem, ConfigurationOpen, fleet_source, Option.isSome_iff_ne_none]
  rfl

theorem noneStranded_fleet : s.fleet.NoneStranded ↔ s.NoneStranded := by
  unfold Fleet.NoneStranded NoneStranded
  rw [configurationOpen_fleet, ConfigurationOpen]
  simp only [fleet_runState, not_or, not_not, ne_eq, Bool.not_eq_true]

theorem transitionTable_configuring_ne (event : ServerFSMEvent) :
    transitionTable .configuring event ≠ some .finalizing := by
  cases event <;> decide

theorem transition_requested {event : ServerFSMEvent} {next : ServerFSM} {context : EventContext}
    {requested : Option ServerFSM} (hne : next ≠ .finalizing)
    (h : (s.transition event next context requested).1 = true) : ¬requested.isSome := by
  intro hr
  simp [transition, notePending, hne, hr] at h

/-- What an accepted call in `CONFIGURING` was called with. -/
theorem accepted_plain {c : EventCall} {event : ServerFSMEvent} (hc : c.event = some event)
    (hrun : s.runState = .configuring) (h : (s.processEvent c).1 = true) : c.Plain event := by
  cases hv : c.validated with
  | none => simp [processEvent, hv] at h
  | some ec =>
    obtain ⟨e, context⟩ := ec
    obtain ⟨he, -, -⟩ := validated_spec hv
    obtain rfl : event = e := Option.some.inj (hc.symm.trans he)
    cases ht : transitionTable s.runState event with
    | none => simp [processEvent, hv, ht] at h
    | some next =>
      cases hd : s.dropLostClients event context.metadata next with
      | none => simp [processEvent, hv, ht, hd] at h
      | some emn =>
        obtain ⟨event', metadata', next'⟩ := emn
        obtain ⟨ht', -⟩ := dropLostClients_spec ht hd
        have hne : next' ≠ .finalizing := by
          rintro rfl
          exact transitionTable_configuring_ne event' (hrun ▸ ht')
        simp only [processEvent, hv, ht, hd] at h
        exact EventCall.plain_of_validated hv (transition_requested hne h)

theorem plain_accepted {c : EventCall} {event : ServerFSMEvent} {next : ServerFSM}
    (hc : c.Plain event) (ht : transitionTable s.runState event = some next)
    (hne : next ≠ .finalizing)
    (hevent : event ∈ abandoningEvents ∨ event = .fatalError) : (s.processEvent c).1 = true := by
  obtain ⟨context, hv, -⟩ := hc.validated
  have hresult : event ≠ .configurationSucceeded ∧ event ≠ .configurationFailed := by
    constructor <;> rintro rfl <;> revert hevent <;> decide
  have happly (s' : ServerState) (n : ServerFSM) (context' : EventContext) :
      s'.applyEvent event n context' ≠ none := by
    cases event with
    | configurationStarted | configurationSucceeded | configurationFailed
    | acquisitionStarted => exact absurd hevent (by decide)
    | fatalError => exact Option.some_ne_none _
    | _ =>
      simp only [applyEvent]
      split
      · exact Option.some_ne_none _
      · split <;> exact Option.some_ne_none _
  simp only [processEvent, hv, ht, dropLostClients_of_ne _ _ hresult.1 hresult.2, hc.requested,
    Option.getD_none, transition, notePending, hne, if_false, Option.isSome_none,
    Bool.false_eq_true]
  split
  · next h => exact absurd h (happly _ _ _)
  · rfl

/-- The action of an event that strands a client is one that does. -/
theorem strands_processEvent {c : EventCall} {a : Fleet.Act ClientId} (hs : s.NoneStranded)
    (ha : a.OfEvent c.event) (he : s.fleet.Enabled a) (hacc : (s.processEvent c).1 = a.accepted)
    (hf : (s.processEvent c).2.fleet = s.fleet.after a) :
    s.fleet.Strands a → s.Strands (.processEvent c) := by
  intro h
  cases a with
  | noteSource =>
    left
    by_contra hspoils
    have hsame := (processEvent_rejected_iff s c).2 hspoils hacc
    rw [hsame] at hf
    have hrun : s.runState ≠ .configuring := by rcases he with hr | hr <;> rw [show s.runState = _ from hr] <;> decide
    have hsource : s.pendingConfigurationSource = some s.runState := congrArg Fleet.source hf
    rw [(hs hrun).2.1] at hsource
    cases hsource
  | move event next =>
    obtain ⟨hrun, hne, hopen⟩ := h
    refine .inr ⟨hrun, .inl ⟨⟨event, ?_, accepted_plain ha hrun hacc⟩,
      configurationOpen_fleet.1 hopen⟩⟩
    exact Fleet.abandoning_of_move hrun he
  | fatal =>
    refine .inr ⟨h.1, .inr ⟨accepted_plain ha h.1 hacc, ?_⟩⟩
    rcases h.2 with ⟨cid, m, hm, hst, ho⟩ | ho | ho
    · obtain ⟨r, hr, rfl⟩ := Option.map_eq_some_iff.1 hm
      exact .inl ⟨cid, r, hr, hst, ho⟩
    · exact .inr (.inl (Option.isSome_iff_ne_none.1 ho))
    · exact .inr (.inr ho)
  | reset | clientEvent => exact ha.elim
  | _ => exact h.elim

/-- What an accepted client event was called with. -/
theorem processClientEvent_accepted {c : ClientEventCall}
    (h : (s.processClientEvent c).1 = true) :
    (nonBlank c.reason).isSome ∧ (nonBlank c.source).isSome ∧
      ∃ cid r event, c.clientId.toClientId = some cid ∧ c.event = some event ∧
        s.clients.get? cid = some r ∧ (transitionTableClient r.state event).isSome := by
  unfold processClientEvent at h
  split at h
  · next cid event reason source hcid hevent hreason hsource =>
    simp only at h
    split at h
    · cases h
    · next r hr =>
      split at h
      · cases h
      · next next hnext =>
        exact ⟨Option.isSome_of_eq_some hreason, Option.isSome_of_eq_some hsource, cid, r, event,
          hcid, hevent, hr, Option.isSome_of_eq_some hnext⟩
  · cases h

theorem transitionTableClient_configuring {state : ClientFSM} {event : ClientFSMEvent} :
    transitionTableClient state event = some .configuring ↔
      event = .configurationStarted ∧ (state = .connected ∨ state = .ready) := by
  cases state <;> cases event <;> decide

/-- A client event strands its client exactly when it starts a configuration of it. -/
theorem strands_processClientEvent {c : ClientEventCall} {a : Fleet.Act ClientId}
    (ha : (ServerOp.processClientEvent c).Acts a)
    (hacc : (s.processClientEvent c).1 = a.accepted) :
    s.fleet.Strands a ↔ s.Strands (.processClientEvent c) := by
  constructor
  · intro h
    rcases ha with rfl | ⟨cid, event, hcid, hevent, rfl⟩
    · exact h.elim
    · obtain ⟨hrun, m, hm, ht⟩ := h
      obtain ⟨rfl, hst⟩ := transitionTableClient_configuring.1 ht
      obtain ⟨r, hr, rfl⟩ := Option.map_eq_some_iff.1 hm
      obtain ⟨hreason, hsource, cid', -, -, hcid', -⟩ := processClientEvent_accepted hacc
      obtain rfl : cid = cid' := Option.some.inj (hcid.symm.trans hcid')
      exact ⟨hrun, hevent, hreason, hsource, cid, r, hcid', hr, hst⟩
  · rintro ⟨hrun, hevent, hreason, hsource, cid, r, hcid, hr, hst⟩
    obtain ⟨reason, hreason⟩ := Option.isSome_iff_exists.1 hreason
    obtain ⟨source, hsource⟩ := Option.isSome_iff_exists.1 hsource
    have ht := transitionTableClient_configuring.2 ⟨rfl, hst⟩
    have htrue : (s.processClientEvent c).1 = true := by
      simp [processClientEvent, hcid, hevent, hreason, hsource, hr, ht]
    rcases ha with rfl | ⟨cid', event, hcid', hevent', rfl⟩
    · rw [htrue] at hacc
      cases hacc
    · obtain rfl := Option.some.inj (hevent.symm.trans hevent')
      obtain rfl := Option.some.inj (hcid.symm.trans hcid')
      exact ⟨hrun, r.member, by simp [hr], ht⟩

/-- The action of an abandoning event that is accepted. -/
theorem strands_of_abandoning {event : ServerFSMEvent} {a : Fleet.Act ClientId}
    (hevent : event ∈ abandoningEvents) (hrun : s.runState = .configuring)
    (hopen : s.ConfigurationOpen) (ha : a.OfEvent (some event)) (he : s.fleet.Enabled a)
    (hacc : a.accepted = true) : s.fleet.Strands a := by
  cases a with
  | move e next =>
    obtain rfl := Option.some.inj ha
    have ht : transitionTable s.runState event = some next := he.1
    refine ⟨hrun, ?_, configurationOpen_fleet.2 hopen⟩
    rintro rfl
    rw [hrun] at ht
    cases event <;> cases ht
  | finalize e terminal =>
    have ht : transitionTable s.runState e = some .finalizing := he
    rw [hrun] at ht
    exact absurd ht (transitionTable_configuring_ne e)
  | idle | noteSource => cases hacc
  | configurationFailed | finalized =>
    rcases ha with ha | ha <;> cases ha <;> exact absurd hevent (by decide)
  | configure | configured | acquire | fatal => cases ha; exact absurd hevent (by decide)
  | _ => exact ha.elim

/-- The action of a `FATAL_ERROR` that is accepted. -/
theorem act_of_fatalError {a : Fleet.Act ClientId} (ha : a.OfEvent (some .fatalError))
    (he : s.fleet.Enabled a) (hacc : a.accepted = true) : a = .fatal := by
  cases a with
  | fatal => rfl
  | move e next =>
    obtain rfl := Option.some.inj ha
    exact absurd rfl he.2.2.2.2.2.2.1
  | finalize e terminal =>
    obtain rfl := Option.some.inj ha.1
    have h := transitionTable_finalizing he
    simp at h
  | idle | noteSource => cases hacc
  | configurationFailed | finalized => rcases ha with ha | ha <;> cases ha
  | configure | configured | acquire => cases ha
  | _ => exact ha.elim

/-- A processed event that strands leaves a configuration open. -/
theorem not_noneStranded_of_strands {c : EventCall} (hpending : s.fleet.PendingAllowed)
    (h : s.Strands (.processEvent c)) : ¬(s.processEvent c).2.NoneStranded := by
  obtain ⟨a, ha, he, hacc, hf⟩ := s.processEvent_act c hpending
  rcases h with hspoils | ⟨hrun, ⟨⟨event, hevent, hplain⟩, hopen⟩ | ⟨hplain, hopen⟩⟩
  · rw [hspoils.processEvent]
    intro hn
    have hne : s.runState ≠ .configuring := by
      rcases hspoils.runState with hr | hr <;> rw [hr] <;> decide
    exact Option.some_ne_none _ (hn hne).2.1
  · obtain ⟨next, ht, hne⟩ : ∃ next, transitionTable .configuring event = some next ∧
        next ≠ .finalizing := by
      revert hevent
      cases event <;> decide
    have hacc' : a.accepted = true :=
      hacc.symm.trans (plain_accepted hplain (hrun ▸ ht) hne (.inl hevent))
    rw [← noneStranded_fleet, hf]
    exact Fleet.not_noneStranded_after he
      (strands_of_abandoning hevent hrun hopen (hplain.event ▸ ha) he hacc')
  · have ht : transitionTable s.runState .fatalError = some .error := by rw [hrun]; rfl
    have hacc' : a.accepted = true :=
      hacc.symm.trans (plain_accepted hplain ht (by decide) (.inr rfl))
    obtain rfl := act_of_fatalError (hplain.event ▸ ha) he hacc'
    rw [← noneStranded_fleet, hf]
    refine Fleet.not_noneStranded_after he ⟨hrun, ?_⟩
    rcases hopen with ⟨cid, r, hr, hst, ho⟩ | ho | ho
    · exact .inl ⟨cid, r.member, by simp [hr], hst, ho⟩
    · exact .inr (.inl (Option.isSome_iff_ne_none.2 ho))
    · exact .inr (.inr ho)

/-- The operations of the registry strand no client. -/
theorem not_strands_of_registry {op : ServerOp} {a : Fleet.Act ClientId} (ha : op.Acts a)
    (h₁ : ∀ c, op ≠ .processEvent c) (h₂ : ∀ c, op ≠ .processClientEvent c)
    (h₃ : ∀ reason source now, op ≠ .resetToDisconnected reason source now) :
    ¬s.fleet.Strands a := by
  cases op with
  | processEvent c => exact absurd rfl (h₁ c)
  | processClientEvent c => exact absurd rfl (h₂ c)
  | resetToDisconnected reason source now => exact absurd rfl (h₃ reason source now)
  | addControlClient _ _ _ => rcases ha with rfl | ⟨cid, -, -, rfl⟩ <;> exact id
  | addAcquisitionClient _ | addMonitoringClient _ =>
    rcases ha with rfl | ⟨cid, -, rfl⟩ <;> exact id
  | setOperationalClients _ => rcases ha with rfl | rfl <;> exact id
  | _ => cases ha; exact id

/-- One operation strands no client exactly when it is none that strands. -/
theorem noneStranded_step_iff (hpending : s.fleet.PendingAllowed) (hs : s.NoneStranded)
    (op : ServerOp) : (s.step op).NoneStranded ↔ ¬s.Strands op := by
  have hfleet {s' : ServerState} {a : Fleet.Act ClientId} (he : s.fleet.Enabled a)
      (hf : s'.fleet = s.fleet.after a) : s'.NoneStranded ↔ ¬s.fleet.Strands a := by
    rw [← noneStranded_fleet, hf]
    exact ⟨fun hn h => Fleet.not_noneStranded_after he h hn,
      Fleet.noneStranded_after he (noneStranded_fleet.2 hs)⟩
  by_cases h₁ : ∃ c, op = .processEvent c
  · obtain ⟨c, rfl⟩ := h₁
    refine ⟨fun hn h => not_noneStranded_of_strands hpending h hn, fun h => ?_⟩
    obtain ⟨a, ha, he, hacc, hf⟩ := s.processEvent_act c hpending
    exact (hfleet he hf).2 fun hst => h (strands_processEvent hs ha he hacc hf hst)
  by_cases h₂ : ∃ c, op = .processClientEvent c
  · obtain ⟨c, rfl⟩ := h₂
    obtain ⟨a, ha, he, hacc, hf⟩ := s.processClientEvent_act c
    exact (hfleet he hf).trans (not_congr (strands_processClientEvent ha hacc))
  by_cases h₃ : ∃ reason source now, op = .resetToDisconnected reason source now
  · obtain ⟨reason, source, now, rfl⟩ := h₃
    obtain ⟨a, rfl, he, hf⟩ := s.step_act (.resetToDisconnected reason source now) hpending
    refine (hfleet he hf).trans (not_congr (and_congr_right fun _ => ?_))
    exact configurationOpen_fleet
  · obtain ⟨a, ha, he, hf⟩ := s.step_act op hpending
    have hnot : ¬s.Strands op := by
      cases op with
      | processEvent c => exact absurd ⟨c, rfl⟩ h₁
      | processClientEvent c => exact absurd ⟨c, rfl⟩ h₂
      | resetToDisconnected reason source now => exact absurd ⟨reason, source, now, rfl⟩ h₃
      | _ => exact id
    refine (hfleet he hf).trans (iff_of_true ?_ hnot)
    exact not_strands_of_registry ha (fun c hc => h₁ ⟨c, hc⟩) (fun c hc => h₂ ⟨c, hc⟩)
      fun reason source now hc => h₃ ⟨reason, source, now, hc⟩

/-- A run strands no client exactly when it takes no operation that strands one. -/
theorem noneStranded_along_iff (mode : String) (ops : List ServerOp) :
    (∀ pre, pre <+: ops → ((init mode).runOps pre).NoneStranded) ↔
      Meets step (fun s op => ¬s.Strands op) (init mode) ops := by
  exact run_invariant_iff pendingAllowed_step
    (fun s op hp hs => noneStranded_step_iff (s := s) hp hs op) nofun fun _ => ⟨rfl, rfl, rfl⟩

/-- A fatal error while a client is under configuration. -/
def fatalWhileConfiguring : List ServerOp :=
  [.processEvent { event := some .controlConnectionSucceeded, reason := some "connect"
                   source := some "connection" },
   .processEvent { event := some .acquisitionConnectionSucceeded, reason := some "connect"
                   source := some "connection" },
   .addControlClient (.bytes [65]) none 0, .addAcquisitionClient (.bytes [65]),
   .processEvent { event := some .configurationStarted, reason := some "configure"
                   source := some "startup_service" },
   .processEvent { event := some .fatalError, reason := some "receiver died"
                   source := some "receiver" }]

/-- The server is in `ERROR`, the client in `CONFIGURING`. -/
theorem fatalError_strands_client :
    ¬∀ s : ServerState, s.IsReachable → s.NoneStranded := by
  intro h
  have hstate := (h ((init "test").runOps fatalWhileConfiguring)
    ⟨"test", fatalWhileConfiguring, rfl⟩ (by decide)).1
  exact absurd hstate (by decide)

end ServerState

end MultiDAQ.Server
