import MultiDAQ.Server.Registry
import MultiDAQ.Server.Verify.Events

/-!
# Rejected events

A rejected event leaves the whole server state as it was, with one exception: `CONFIGURATION_STARTED`
records where the configuration comes from before its targets are checked.
-/

namespace MultiDAQ.Server

open MultiDAQ.Lib

/-- A call of `process_event` with valid arguments and without a requested terminal state. -/
structure EventCall.Plain (c : EventCall) (event : ServerFSMEvent) : Prop where
  event : c.event = some event
  reason : (nonBlank c.reason).isSome
  source : (nonBlank c.source).isSome
  requested : c.requestedTerminalState = none

theorem EventCall.Plain.validated {c : EventCall} {event : ServerFSMEvent} (h : c.Plain event) :
    ∃ context, c.validated = some (event, context) ∧ context.metadata = c.metadata := by
  obtain ⟨reason, hreason⟩ := Option.isSome_iff_exists.1 h.reason
  obtain ⟨source, hsource⟩ := Option.isSome_iff_exists.1 h.source
  simp [EventCall.validated, EventCall.terminalOk, h.event, hreason, hsource, h.requested]

/-- Valid arguments without a requested terminal state. -/
theorem EventCall.plain_of_validated {c : EventCall} {event : ServerFSMEvent}
    {context : EventContext} (h : c.validated = some (event, context))
    (hreq : ¬(c.requestedTerminalState.getD none).isSome) : c.Plain event := by
  unfold EventCall.validated at h
  split at h
  · next he hreason hsource =>
    split at h
    · next hok =>
      cases h
      refine ⟨he, Option.isSome_of_eq_some hreason, Option.isSome_of_eq_some hsource, ?_⟩
      rcases hr : c.requestedTerminalState with _ | _ | t
      · rfl
      · simp [EventCall.terminalOk, hr] at hok
      · simp [hr] at hreq
    · cases h
  · cases h

namespace ServerState

variable {s : ServerState} {context : EventContext}

/-- The check of the targets of `CONFIGURATION_STARTED`: they are valid ids of clients on both
planes, and there is one. -/
def targetsValid (s : ServerState) (metadata : EventMetadata) : Bool :=
  match normalizeClientIds
      (metadata.targetClients.get (s.commonPlaneClientIds.map .bytes)) with
  | none => false
  | some targets => targets.all (s.commonPlaneClientIds.contains ·) && !targets.isEmpty

theorem applyConfigurationStarted_eq_none :
    s.applyConfigurationStarted context = none ↔ s.targetsValid context.metadata = false := by
  unfold applyConfigurationStarted targetsValid
  cases normalizeClientIds
      (context.metadata.targetClients.get (s.commonPlaneClientIds.map .bytes)) with
  | none => simp
  | some targets =>
    have hv : (targets.all (s.commonPlaneClientIds.contains ·) && !targets.isEmpty) = true ↔
        targets.all (s.commonPlaneClientIds.contains ·) ∧ targets ≠ [] := by
      rw [Bool.and_eq_true, Bool.not_eq_true', List.isEmpty_eq_false_iff]
    simp only [← hv]
    split
    · next h => simp only [h, reduceCtorEq, Bool.true_eq_false]
    · next h => simpa only [Bool.not_eq_true, true_iff] using h

/-- An event other than `CONFIGURATION_STARTED` assigns nothing before it is rejected. -/
theorem transition_rejected {event : ServerFSMEvent} {next : ServerFSM}
    {requested : Option ServerFSM} (ht : transitionTable s.runState event = some next)
    (he : event ≠ .configurationStarted)
    (h : (s.transition event next context requested).1 = false) :
    (s.transition event next context requested).2 = s := by
  unfold transition at h ⊢
  cases h₁ : s.notePending event next context requested with
  | none => rfl
  | some s₁ =>
    rw [h₁] at h
    simp only [noteSource_of_ne he] at h ⊢
    by_cases hn : next = .finalizing
    · subst hn
      -- an event that leads to `FINALIZING` has no check left that could reject it
      exfalso
      have happly (s' : ServerState) (n : ServerFSM) (c : EventContext) :
          s'.applyEvent event n c ≠ none := by
        obtain rfl | rfl | rfl | rfl | rfl := transitionTable_finalizing ht <;>
          simp only [applyEvent] <;> split <;> simp
      split at h
      · next hnone => exact happly _ _ _ hnone
      · cases h
    · obtain rfl := notePending_of_ne hn h₁
      split
      · rfl
      · next h₃ => simp [h₃] at h

theorem transition_configurationStarted_rejected {requested : Option ServerFSM} :
    (s.transition .configurationStarted .configuring context requested).1 = false ↔
      requested.isSome ∨ s.targetsValid context.metadata = false := by
  unfold transition
  cases requested with
  | some t => simp [notePending]
  | none =>
    have hvalid : (s.noteSource .configurationStarted .configuring).targetsValid
        context.metadata = s.targetsValid context.metadata := rfl
    simp only [notePending, reduceCtorEq, if_false, Option.isSome_none, Bool.false_eq_true,
      resolveNext_of_ne, ne_eq, not_false_eq_true, applyEvent, false_or]
    rw [← hvalid, ← applyConfigurationStarted_eq_none]
    split
    · next h => simp [h]
    · next h => simp [h]

/-- A rejected `CONFIGURATION_STARTED` has recorded its source, unless a terminal state was
requested. -/
theorem transition_configurationStarted_after {requested : Option ServerFSM}
    (h : (s.transition .configurationStarted .configuring context requested).1 = false) :
    (s.transition .configurationStarted .configuring context requested).2 =
      if requested.isSome then s else { s with pendingConfigurationSource := some s.runState } := by
  cases requested with
  | some t => rfl
  | none =>
    have hnone : (s.noteSource .configurationStarted .configuring).applyConfigurationStarted
        context = none :=
      applyConfigurationStarted_eq_none.2
        ((transition_configurationStarted_rejected.1 h).resolve_left (by simp))
    simp only [transition, notePending, reduceCtorEq, if_false, Option.isSome_none,
      Bool.false_eq_true, applyEvent, hnone]
    rfl

/-- A call that records a source and is then rejected for its targets. -/
structure SpoilsSource (s : ServerState) (c : EventCall) : Prop where
  plain : c.Plain .configurationStarted
  runState : s.runState = .connected ∨ s.runState = .ready
  targets : s.targetsValid c.metadata = false
  differs : s.pendingConfigurationSource ≠ some s.runState

theorem dropLostClients_of_ne {event : ServerFSMEvent} (metadata : EventMetadata)
    (next : ServerFSM) (h₁ : event ≠ .configurationSucceeded)
    (h₂ : event ≠ .configurationFailed) :
    s.dropLostClients event metadata next = some (event, metadata, next) := by
  simp [dropLostClients, h₁, h₂]

/-- A `CONFIGURATION_STARTED` that the table allows is its transition. -/
theorem processEvent_configurationStarted {c : EventCall}
    (hv : c.validated = some (.configurationStarted, context))
    (hrun : s.runState = .connected ∨ s.runState = .ready) :
    s.processEvent c = s.transition .configurationStarted .configuring
      { context with event := .inl .configurationStarted }
      (c.requestedTerminalState.getD none) := by
  have ht : transitionTable s.runState .configurationStarted = some .configuring := by
    rcases hrun with h | h <;> rw [h] <;> rfl
  simp only [processEvent, hv, ht, dropLostClients_of_ne, ne_eq, reduceCtorEq, not_false_eq_true]

theorem SpoilsSource.processEvent {c : EventCall} (h : s.SpoilsSource c) :
    s.processEvent c = (false, { s with pendingConfigurationSource := some s.runState }) := by
  obtain ⟨context, hv, hmetadata⟩ := h.plain.validated
  rw [processEvent_configurationStarted hv h.runState, h.plain.requested]
  generalize hc : ({ context with event := .inl .configurationStarted } : EventContext) = context'
  have hmetadata' : context'.metadata = c.metadata := hc ▸ hmetadata
  have hfalse : (s.transition .configurationStarted .configuring context' none).1 = false :=
    transition_configurationStarted_rejected.2 (.inr (hmetadata' ▸ h.targets))
  exact Prod.ext hfalse (transition_configurationStarted_after hfalse)

/-- Any other event that is rejected changes nothing. -/
theorem processEvent_rejected {c : EventCall} (he : c.event ≠ some .configurationStarted)
    (h : (s.processEvent c).1 = false) : (s.processEvent c).2 = s := by
  cases hv : c.validated with
  | none => simp [processEvent, hv]
  | some ec =>
    obtain ⟨event, context⟩ := ec
    cases ht : transitionTable s.runState event with
    | none => simp [processEvent, hv, ht]
    | some next =>
      cases hd : s.dropLostClients event context.metadata next with
      | none => simp [processEvent, hv, ht, hd]
      | some emn =>
        obtain ⟨event', metadata', next'⟩ := emn
        obtain ⟨ht', hevent⟩ := dropLostClients_spec ht hd
        have he' : event' ≠ .configurationStarted := by
          rcases hevent with rfl | ⟨-, rfl⟩
          · exact fun hs => he ((validated_spec hv).1.trans (congrArg some hs))
          · decide
        simp only [processEvent, hv, ht, hd] at h ⊢
        exact transition_rejected ht' he' h

/-- A rejected event changes nothing, for exactly the calls that do not spoil the source. -/
theorem processEvent_rejected_iff (s : ServerState) (c : EventCall) :
    ((s.processEvent c).1 = false → (s.processEvent c).2 = s) ↔ ¬s.SpoilsSource c := by
  constructor
  · intro h hs
    rw [hs.processEvent] at h
    exact hs.differs (congrArg pendingConfigurationSource (h rfl)).symm
  · intro hs h
    by_cases he : c.event = some .configurationStarted
    · cases hv : c.validated with
      | none => simp [processEvent, hv]
      | some ec =>
        obtain ⟨event, context⟩ := ec
        obtain ⟨hevent, hmetadata, -⟩ := validated_spec hv
        obtain rfl := Option.some.inj (hevent.symm.trans he)
        cases ht : transitionTable s.runState .configurationStarted with
        | none => simp [processEvent, hv, ht]
        | some next =>
          obtain ⟨hrun, rfl⟩ := transitionTable_configurationStarted ht
          rw [processEvent_configurationStarted hv hrun] at h ⊢
          rw [transition_configurationStarted_after h]
          by_cases hreq : (c.requestedTerminalState.getD none).isSome
          · rw [if_pos hreq]
          · rw [if_neg hreq]
            have htargets := (transition_configurationStarted_rejected.1 h).resolve_left hreq
            have hsame : s.pendingConfigurationSource = some s.runState := by
              by_contra hne
              exact hs ⟨EventCall.plain_of_validated hv hreq, hrun, hmetadata ▸ htargets, hne⟩
            rw [← hsame]
    · exact processEvent_rejected he h

/-- The operations that bring the server to `CONNECTED` with one client, which is on the control
plane only. -/
def connectedWithoutAcquisition : List ServerOp :=
  [.processEvent { event := some .controlConnectionSucceeded, reason := some "connect"
                   source := some "connection" },
   .processEvent { event := some .acquisitionConnectionSucceeded, reason := some "connect"
                   source := some "connection" },
   .addControlClient (.bytes [66]) none 0]

/-- The configuration of that client. -/
def configureUnreachable : EventCall where
  event := some .configurationStarted
  reason := some "Startup configuration for mode 'test'"
  source := some "startup_service"
  metadata := { targetClients := .ids [.bytes [66]], isPartial := some false }

/-- A rejected `CONFIGURATION_STARTED` changes the state. -/
theorem rejected_configurationStarted_changes_state :
    ¬∀ s : ServerState, s.IsReachable → ∀ c,
      (s.processEvent c).1 = false → (s.processEvent c).2 = s := by
  intro h
  have hreachable : ((init "test").runOps connectedWithoutAcquisition).IsReachable :=
    ⟨"test", connectedWithoutAcquisition, rfl⟩
  have hsource := congrArg pendingConfigurationSource
    (h _ hreachable configureUnreachable (by decide))
  exact absurd hsource (by decide)

end ServerState

end MultiDAQ.Server
