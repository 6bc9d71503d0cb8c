import Mathlib.Data.Set.Disjoint
import MultiDAQ.Server.Verify.Clients

/-!
# What an event does to the fleet

`processEvent_act` is the one case analysis of `process_event`: whatever the call, what it does to
the fleet is an action of the abstract server that can be taken there (`Fleet.Enabled`) and that the
event names (`Fleet.Act.OfEvent`). Every invariant of the server rests on it, and none of them opens
`processEvent` again. The stages come first, in the order of the source.
-/

namespace MultiDAQ.Server

open MultiDAQ.Lib

namespace Fleet

variable {ι : Type}

/-- The actions a call of `process_event` with this event can come to. -/
def Act.OfEvent (event : Option ServerFSMEvent) : Act ι → Prop
  | .idle => True
  | .move e _ => event = some e
  | .noteSource => event = some .configurationStarted
  | .configure _ _ => event = some .configurationStarted
  | .configured _ _ => event = some .configurationSucceeded
  | .configurationFailed =>
    event = some .configurationFailed ∨ event = some .configurationSucceeded
  | .acquire _ => event = some .acquisitionStarted
  | .fatal => event = some .fatalError
  | .finalize e terminal => event = some e ∧ terminal ∈ allowedPendingTerminalStates ∧
      (e = .disconnectRequested → terminal = .disconnected)
  | .finalized => event = some .finalizationSucceeded ∨ event = some .finalizationFailed
  | _ => False

/-- Whether the event behind the action was accepted. -/
def Act.accepted : Act ι → Bool
  | .idle => false
  | .noteSource => false
  | _ => true

end Fleet

/-! ## The transition table -/

section Table

variable {r next : ServerFSM}

theorem transitionTable_configurationStarted
    (h : transitionTable r .configurationStarted = some next) :
    (r = .connected ∨ r = .ready) ∧ next = .configuring := by
  cases r <;> cases h
  · exact ⟨.inl rfl, rfl⟩
  · exact ⟨.inr rfl, rfl⟩

theorem transitionTable_configurationSucceeded
    (h : transitionTable r .configurationSucceeded = some next) :
    r = .configuring ∧ next = .ready := by
  cases r <;> cases h
  exact ⟨rfl, rfl⟩

theorem transitionTable_configurationFailed
    (h : transitionTable r .configurationFailed = some next) :
    r = .configuring ∧ next = .connected := by
  cases r <;> cases h
  exact ⟨rfl, rfl⟩

theorem transitionTable_acquisitionStarted
    (h : transitionTable r .acquisitionStarted = some next) :
    r = .ready ∧ next = .acquiring := by
  cases r <;> cases h
  exact ⟨rfl, rfl⟩

theorem transitionTable_fatalError (h : transitionTable r .fatalError = some next) :
    next = .error := by
  cases r <;> cases h <;> rfl

theorem transitionTable_finalization {event : ServerFSMEvent}
    (he : event = .finalizationSucceeded ∨ event = .finalizationFailed)
    (h : transitionTable r event = some next) : r = .finalizing ∧ next = .ready := by
  rcases he with rfl | rfl <;> cases r <;> cases h <;> exact ⟨rfl, rfl⟩

/-- The events with an update of their own never lead to `FINALIZING`. -/
theorem transitionTable_finalizing {event : ServerFSMEvent}
    (h : transitionTable r event = some .finalizing) :
    event = .stopRequested ∨ event = .receiverCompleted ∨ event = .disconnectRequested ∨
      event = .controlConnectionLost ∨ event = .acquisitionConnectionLost := by
  cases r <;> cases event <;> cases h <;> simp

end Table

namespace ServerState

variable {s s' : ServerState} {context : EventContext}

/-! ## Updates of the clients -/

/-- The flags a configuration result sets: those of the given clients, and of no others unless the
configuration is partial. -/
theorem fleet_grantOperational (isPartial : Bool) (ids : List ClientId) :
    (if isPartial then s.markOperational ids true else s.setOperational ids).fleet =
      s.fleet.update fun i m => { m with
        operational := if i ∈ ids then true else if isPartial then m.operational else false } := by
  cases isPartial
  · simp only [Bool.false_eq_true, if_false, fleet_setOperational]
    refine Fleet.update_congr _ fun i m _ => ?_
    by_cases hi : i ∈ ids <;> simp [hi]
  · simp only [if_true, fleet_markOperational]
    refine Fleet.update_congr _ fun i m _ => ?_
    by_cases hi : i ∈ ids <;> simp [hi]

/-- The flags a configuration takes away: those of the given clients, and all of them unless the
configuration is partial. -/
theorem fleet_revokeOperational (isPartial : Bool) (ids : List ClientId) :
    (if isPartial then s.markOperational ids false else s.clearOperational).fleet =
      s.fleet.update fun i m => { m with
        operational := if isPartial = true ∧ i ∉ ids then m.operational else false } := by
  cases isPartial
  · simp only [Bool.false_eq_true, if_false, fleet_clearOperational, false_and]
  · simp only [if_true, fleet_markOperational, true_and]
    refine Fleet.update_congr _ fun i m _ => ?_
    by_cases hi : i ∈ ids <;> simp [hi]

theorem applyConfigurationStarted_fleet
    (h : s.applyConfigurationStarted context = some s') :
    ∃ (targets : Set ClientId) (isPartial : Bool),
      targets.Nonempty ∧ targets ⊆ s.fleet.common ∧
      s'.fleet = { s.fleet.after (.configure targets isPartial) with
        runState := s.runState, source := s.pendingConfigurationSource } := by
  unfold applyConfigurationStarted at h
  split at h
  · cases h
  · next targets htargets =>
    split at h
    · next hvalid =>
      refine ⟨{ i | i ∈ targets }, context.metadata.isPartial.getD false, ?_, ?_, ?_⟩
      · exact List.exists_mem_of_ne_nil _ hvalid.2
      · intro i hi
        exact mem_commonPlaneClientIds.1
          (List.contains_iff_mem.1 (List.all_eq_true.1 hvalid.1 i hi))
      · obtain rfl := Option.some.inj h
        rw [fleet_setClientStates, fleet_revokeOperational, Fleet.update_update]
        refine Fleet.update_congr { s.fleet with isPartial := _ } fun i m _ => ?_
        by_cases hi : i ∈ targets <;> simp [hi]
    · cases h

/-- The four checks of a successful result. -/
structure ResultOk (s : ServerState) (successful failed : List ClientId) : Prop where
  nonempty : successful ≠ []
  disjoint : ∀ cid ∈ successful, cid ∉ failed
  covers : ∀ cid, cid ∈ successful ∨ cid ∈ failed ↔ cid ∈ s.fleet.inState .configuring
  common : ∀ cid ∈ successful, cid ∈ s.fleet.common

/-- A successful result is accepted exactly when it passes the checks. -/
theorem applyConfigurationSucceeded_isSome {successful failed : List ClientId}
    (hs : normalizeClientIds (context.metadata.successfulClients.get []) = some successful)
    (hf : normalizeClientIds (context.metadata.failedClients.get []) = some failed) :
    (s.applyConfigurationSucceeded context).isSome ↔ s.ResultOk successful failed := by
  have hany : (successful.any (failed.contains ·)) = false ↔
      ∀ cid ∈ successful, cid ∉ failed := by
    simp [List.any_eq_false]
  have hsame : sameIds (successful ++ failed) (s.listClientsInState .configuring) = true ↔
      ∀ cid, cid ∈ successful ∨ cid ∈ failed ↔ cid ∈ s.fleet.inState .configuring := by
    rw [sameIds_iff]
    exact forall_congr' fun cid => by rw [List.mem_append, mem_listClientsInState]
  have hall : successful.all (s.commonPlaneClientIds.contains ·) = true ↔
      ∀ cid ∈ successful, cid ∈ s.fleet.common := by
    rw [List.all_eq_true]
    exact forall₂_congr fun cid _ => by rw [List.contains_iff_mem, mem_commonPlaneClientIds]
  unfold applyConfigurationSucceeded
  simp only [hs, hf]
  split
  · next h => exact ⟨nofun, fun hok => absurd h hok.nonempty⟩
  split
  · next h => exact ⟨nofun, fun hok => absurd h (by rw [hany.2 hok.disjoint]; decide)⟩
  split
  · next h => exact ⟨nofun, fun hok => absurd h (by rw [hsame.2 hok.covers]; decide)⟩
  split
  · next h => exact ⟨nofun, fun hok => absurd h (by rw [hall.2 hok.common]; decide)⟩
  · next h₁ h₂ h₃ h₄ =>
    simp only [Bool.not_eq_true', Bool.not_eq_false, Bool.not_eq_true] at h₂ h₃ h₄
    exact ⟨fun _ => ⟨h₁, hany.1 h₂, hsame.1 h₃, hall.1 h₄⟩, fun _ => rfl⟩

theorem applyConfigurationSucceeded_fleet
    (h : s.applyConfigurationSucceeded context = some s') :
    ∃ successful failed : List ClientId,
      normalizeClientIds (context.metadata.successfulClients.get []) = some successful ∧
      normalizeClientIds (context.metadata.failedClients.get []) = some failed ∧
      s'.fleet = { s.fleet.after (.configured { i | i ∈ successful } { i | i ∈ failed }) with
        runState := s.runState, source := s.pendingConfigurationSource
        isPartial := s.pendingConfigurationPartial } := by
  unfold applyConfigurationSucceeded at h
  split at h
  · next successful failed hsuccessful hfailed =>
    split at h; · cases h
    split at h; · cases h
    split at h; · cases h
    split at h; · cases h
    refine ⟨successful, failed, hsuccessful, hfailed, ?_⟩
    obtain rfl := Option.some.inj h
    rw [fleet_setClientStates, fleet_setClientStates, fleet_grantOperational,
      Fleet.update_update, Fleet.update_update]
    refine Fleet.update_congr s.fleet fun i m _ => ?_
    by_cases hi : i ∈ failed <;> by_cases hi' : i ∈ successful <;>
      simp only [hi, hi', if_true, if_false, Set.mem_ofPred_eq] <;> rfl
  · cases h

theorem applyConfigurationFailed_fleet (h : s.applyConfigurationFailed context = some s') :
    s'.fleet = { s.fleet.after .configurationFailed with
      runState := s.runState, source := s.pendingConfigurationSource
      isPartial := s.pendingConfigurationPartial } := by
  unfold applyConfigurationFailed at h
  split at h
  · cases h
  · next failed hfailed =>
    split at h; · cases h
    next hsame =>
    simp only [Bool.not_eq_true', Bool.not_eq_false] at hsame
    obtain rfl := Option.some.inj h
    rw [fleet_setClientStates, fleet_revokeOperational, Fleet.update_update]
    refine Fleet.update_congr s.fleet fun i m hm => ?_
    have hi : i ∈ failed ↔ m.state = .configuring := by
      rw [sameIds_iff.1 hsame i, mem_listClientsInState]
      exact ⟨fun ⟨m', hm', hs⟩ => Option.some.inj (hm.symm.trans hm') ▸ hs,
        fun hs => ⟨m, hm, hs⟩⟩
    by_cases hs : m.state = .configuring <;> simp [hi, hs]

theorem isStartable_iff {cid : ClientId} :
    s.isStartable cid = true ↔
      cid ∈ s.fleet.operational ∧ cid ∈ s.fleet.inState .ready := by
  unfold isStartable
  rw [Bool.and_eq_true, List.contains_iff_mem, mem_operationalClientIds]
  refine and_congr_right' ?_
  cases hr : s.clients.get? cid <;> simp [Fleet.inState, hr, ClientRecord.member]

theorem applyAcquisitionStarted_fleet (h : s.applyAcquisitionStarted context = some s') :
    ∃ active : Set ClientId, active.Nonempty ∧ active ⊆ s.fleet.operational ∧
      active ⊆ s.fleet.inState .ready ∧
      s'.fleet = { s.fleet.after (.acquire active) with runState := s.runState } := by
  unfold applyAcquisitionStarted at h
  split at h
  · cases h
  · next active hactive =>
    split at h; · cases h
    split at h; · cases h
    next hne hall =>
    simp only [Bool.not_eq_true', Bool.not_eq_false, List.all_eq_true, isStartable_iff] at hall
    refine ⟨{ i | i ∈ active }, ?_, fun i hi => (hall i hi).1, fun i hi => (hall i hi).2, ?_⟩
    · exact List.exists_mem_of_ne_nil _ hne
    · obtain rfl := Option.some.inj h
      rw [fleet_setClientStates, fleet_setOperational]
      refine Fleet.ext rfl rfl rfl rfl (fun i => ?_) fun _ => rfl
      simp only [Fleet.update_update, Fleet.after, Fleet.update_member]
      refine congrArg (fun g => Option.map g _) (funext fun m => ?_)
      by_cases hi : i ∈ active <;> simp [hi]

/-- The bulk updates of the operational clients. -/
theorem update_operational {s : ServerState} (g h : Member → Member)
    (e : ∀ m, h m = if m.operational = true then g m else m) :
    s.fleet.update (fun i m => if i ∈ s.operationalClientIds then g m else m) =
      s.fleet.update fun _ m => h m := by
  refine Fleet.update_congr _ fun i m hm => ?_
  have hi : i ∈ s.operationalClientIds ↔ m.operational = true := by
    rw [mem_operationalClientIds]
    exact ⟨fun ⟨m', hm', ho⟩ => Option.some.inj (hm.symm.trans hm') ▸ ho, fun ho => ⟨m, hm, ho⟩⟩
  rw [e]
  by_cases ho : m.operational = true <;> simp [hi, ho]

theorem applyFatalError_fleet :
    (s.applyFatalError context).fleet = { s.fleet.after .fatal with
      runState := s.runState, pending := s.pendingTerminalState } := by
  unfold applyFatalError
  rw [fleet_clearOperational, fleet_setClientStates,
    update_operational _ (fun m => { m with state := if m.operational then .error else m.state })
      (fun m => by rcases m with ⟨_, _, _, _, _ | _, _⟩ <;> rfl), Fleet.update_update]
  rfl

theorem applyFinalizing_fleet (event : ServerFSMEvent) (terminal : ServerFSM) :
    (s.applyFinalizing context).fleet = { s.fleet.after (.finalize event terminal) with
      runState := s.runState, pending := s.pendingTerminalState } := by
  unfold applyFinalizing
  rw [fleet_setClientStates,
    update_operational _ (fun m => { m with state := if m.operational then .finalizing else m.state })
      (fun m => by rcases m with ⟨_, _, _, _, _ | _, _⟩ <;> rfl)]
  rfl

theorem applyFinalization_fleet :
    (s.applyFinalization context).fleet = { s.fleet.after .finalized with
      runState := s.runState, pending := s.pendingTerminalState } := by
  have hfleet : ({ s.fleet.after .finalized with
      runState := s.runState, pending := s.pendingTerminalState } : Fleet ClientId) =
      s.fleet.update fun _ m =>
        if m.operational then m.finalized (s.pendingTerminalState.getD .ready) else m := rfl
  rw [hfleet]
  unfold applyFinalization
  cases s.pendingTerminalState.getD .ready with
  | ready =>
    exact (fleet_setClientStates _ _ _).trans (update_operational _ _ fun _ => rfl)
  | controlConnected =>
    exact (fleet_releaseClients (t := fun m => if m.onControl then .connected else .disconnected)
      (fun _ => rfl) (fun _ => rfl) _ _).trans (update_operational _ _ fun _ => rfl)
  | disconnected =>
    exact (fleet_releaseClients (t := fun _ => .disconnected)
      (fun _ => rfl) (fun _ => rfl) _ _).trans (update_operational _ _ fun _ => rfl)
  | connected =>
    exact (fleet_releaseClients (t := fun _ => .connected)
      (fun _ => rfl) (fun _ => rfl) _ _).trans (update_operational _ _ fun _ => rfl)
  | error =>
    exact (fleet_releaseClients (t := fun _ => .error)
      (fun _ => rfl) (fun _ => rfl) _ _).trans (update_operational _ _ fun _ => rfl)
  | configuring | acquiring | finalizing =>
    refine (Fleet.update_id _).symm.trans (Fleet.update_congr _ fun i m _ => ?_)
    by_cases h : m.operational <;> simp [h, Member.finalized]

/-- The branches of an event update the records of the clients and nothing else. -/
theorem applyEvent_recordsOnly {event : ServerFSMEvent} {next : ServerFSM}
    (h : s.applyEvent event next context = some s') : RecordsOnly s s' := by
  have hgrant (b : Bool) (ids : List ClientId) : RecordsOnly s
      (if b then s.markOperational ids true else s.setOperational ids) := by
    cases b
    · exact recordsOnly_setOperational _ _
    · exact recordsOnly_markOperational _ _ _
  have hrevoke (s₀ : ServerState) (b : Bool) (ids : List ClientId) : RecordsOnly s₀
      (if b then s₀.markOperational ids false else s₀.clearOperational) := by
    cases b
    · exact recordsOnly_clearOperational _
    · exact recordsOnly_markOperational _ _ _
  have hfinalization : RecordsOnly s (s.applyFinalization context) := by
    unfold applyFinalization
    split
    · exact recordsOnly_setClientStates _ _ _
    all_goals first | exact recordsOnly_releaseClients _ _ _ | exact .refl s
  cases event with
  | configurationStarted =>
    simp only [applyEvent, applyConfigurationStarted] at h
    split at h
    · cases h
    · split at h
      · cases h
        exact ((recordsOnly_pendingPartial _ _).trans (hrevoke _ _ _)).trans
          (recordsOnly_setClientStates _ _ _)
      · cases h
  | configurationSucceeded =>
    simp only [applyEvent, applyConfigurationSucceeded] at h
    split at h
    · split at h; · cases h
      split at h; · cases h
      split at h; · cases h
      split at h; · cases h
      obtain rfl := Option.some.inj h
      refine RecordsOnly.trans ?_ (recordsOnly_setClientStates _ _ _)
      exact (hgrant _ _).trans (recordsOnly_setClientStates _ _ _)
    · cases h
  | configurationFailed =>
    simp only [applyEvent, applyConfigurationFailed] at h
    split at h
    · cases h
    · split at h
      · cases h
      · cases h
        exact (hrevoke _ _ _).trans (recordsOnly_setClientStates _ _ _)
  | acquisitionStarted =>
    simp only [applyEvent, applyAcquisitionStarted] at h
    split at h
    · cases h
    · split at h
      · cases h
      · split at h
        · cases h
        · cases h
          exact (recordsOnly_setOperational _ _).trans (recordsOnly_setClientStates _ _ _)
  | fatalError =>
    cases h
    exact (recordsOnly_setClientStates _ _ _).trans (recordsOnly_clearOperational _)
  | _ =>
    simp only [applyEvent] at h
    split at h
    · cases h
      exact recordsOnly_setClientStates _ _ _
    · split at h
      · cases h
        exact hfinalization
      · cases h
        exact .refl s

theorem applyEvent_clientsOnly {event : ServerFSMEvent} {next : ServerFSM}
    (h : s.applyEvent event next context = some s') : ClientsOnly s s' :=
  (applyEvent_recordsOnly h).1

/-! ## The transition -/

theorem notePending_of_ne {event : ServerFSMEvent} {next : ServerFSM}
    {requested : Option ServerFSM} {s₁ : ServerState} (hne : next ≠ .finalizing)
    (h : s.notePending event next context requested = some s₁) : s₁ = s := by
  unfold notePending at h
  rw [if_neg hne] at h
  split at h
  · cases h
  · exact (Option.some.inj h).symm

theorem dropLostClients_spec {event event' : ServerFSMEvent} {metadata metadata' : EventMetadata}
    {next next' : ServerFSM} (ht : transitionTable s.runState event = some next)
    (h : s.dropLostClients event metadata next = some (event', metadata', next')) :
    transitionTable s.runState event' = some next' ∧ (event' = event ∨
      event = .configurationSucceeded ∧ event' = .configurationFailed) := by
  unfold dropLostClients at h
  split at h
  · next hconf =>
    simp only at h
    split at h
    · split at h
      · cases h; exact ⟨ht, .inl rfl⟩
      · split at h
        · next hsucc =>
          cases h
          rw [hconf.1]
          exact ⟨rfl, .inr ⟨hsucc.1, rfl⟩⟩
        · cases h; exact ⟨ht, .inl rfl⟩
    · cases h
  · cases h; exact ⟨ht, .inl rfl⟩

theorem fleet_commit (s : ServerState) (present : ServerFSM) (event : ServerFSMEvent)
    (next : ServerFSM) (context : EventContext) :
    (s.commit present event next context).fleet = { s.fleet with
      runState := next
      pending := if present = .finalizing ∧ (event = .finalizationSucceeded ∨
        event = .finalizationFailed ∨ event = .fatalError) then none else s.fleet.pending
      source := if present = .configuring ∧ (event = .configurationSucceeded ∨
        event = .configurationFailed) then none else s.fleet.source
      isPartial := if present = .configuring ∧ (event = .configurationSucceeded ∨
        event = .configurationFailed) then false else s.fleet.isPartial } := rfl

theorem resolveNext_of_ne {event : ServerFSMEvent} {next : ServerFSM}
    (h₁ : event ≠ .configurationFailed) (h₂ : event ≠ .finalizationSucceeded)
    (h₃ : event ≠ .finalizationFailed) : s.resolveNext event next = next := by
  simp [resolveNext, h₁, h₂, h₃]

theorem noteSource_of_ne {event : ServerFSMEvent} {next : ServerFSM}
    (h : event ≠ .configurationStarted) : s.noteSource event next = s := by
  simp [noteSource, h]

section Transition

variable {requested : Option ServerFSM}

theorem transition_configurationStarted
    (hrun : s.runState = .connected ∨ s.runState = .ready) :
    ∃ a : Fleet.Act ClientId, a.OfEvent (some .configurationStarted) ∧ s.fleet.Enabled a ∧
      (s.transition .configurationStarted .configuring context requested).1 = a.accepted ∧
      (s.transition .configurationStarted .configuring context requested).2.fleet =
        s.fleet.after a := by
  unfold transition
  cases h₁ : s.notePending .configurationStarted .configuring context requested with
  | none => exact ⟨.idle, trivial, trivial, rfl, rfl⟩
  | some s₁ =>
    obtain rfl := notePending_of_ne (by decide) h₁
    simp only [resolveNext_of_ne, ne_eq, reduceCtorEq, not_false_eq_true, applyEvent]
    cases h₃ : (s₁.noteSource .configurationStarted .configuring).applyConfigurationStarted
        context with
    | none => exact ⟨.noteSource, rfl, hrun, rfl, rfl⟩
    | some s₃ =>
      obtain ⟨targets, isPartial, hne, hcommon, hfleet⟩ := applyConfigurationStarted_fleet h₃
      refine ⟨.configure targets isPartial, rfl, ⟨hrun, hne, hcommon⟩, rfl, ?_⟩
      rw [fleet_commit, hfleet, if_neg (by simp), if_neg (by simp), if_neg (by simp)]
      rfl

theorem transition_configurationSucceeded (hrun : s.runState = .configuring) :
    ∃ a : Fleet.Act ClientId, a.OfEvent (some .configurationSucceeded) ∧ s.fleet.Enabled a ∧
      (s.transition .configurationSucceeded .ready context requested).1 = a.accepted ∧
      (s.transition .configurationSucceeded .ready context requested).2.fleet =
        s.fleet.after a := by
  unfold transition
  cases h₁ : s.notePending .configurationSucceeded .ready context requested with
  | none => exact ⟨.idle, trivial, trivial, rfl, rfl⟩
  | some s₁ =>
    obtain rfl := notePending_of_ne (by decide) h₁
    simp only [resolveNext_of_ne, noteSource_of_ne, ne_eq, reduceCtorEq,
      not_false_eq_true, applyEvent]
    cases h₃ : s₁.applyConfigurationSucceeded context with
    | none => exact ⟨.idle, trivial, trivial, rfl, rfl⟩
    | some s₃ =>
      obtain ⟨successful, failed, hs, hf, hfleet⟩ := applyConfigurationSucceeded_fleet h₃
      have hok := (applyConfigurationSucceeded_isSome hs hf).1 (Option.isSome_of_eq_some h₃)
      refine ⟨.configured { i | i ∈ successful } { i | i ∈ failed }, rfl,
        ⟨hrun, List.exists_mem_of_ne_nil _ hok.nonempty, Set.disjoint_left.2 hok.disjoint,
          Set.ext hok.covers, hok.common⟩, rfl, ?_⟩
      rw [fleet_commit, hfleet, if_neg (by simp), if_pos (by simp [hrun]),
        if_pos (by simp [hrun])]
      rfl

theorem transition_configurationFailed {next : ServerFSM} (hrun : s.runState = .configuring)
    (hnext : next = .connected) :
    ∃ a : Fleet.Act ClientId, a.OfEvent (some .configurationFailed) ∧ s.fleet.Enabled a ∧
      (s.transition .configurationFailed next context requested).1 = a.accepted ∧
      (s.transition .configurationFailed next context requested).2.fleet = s.fleet.after a := by
  unfold transition
  cases h₁ : s.notePending .configurationFailed next context requested with
  | none => exact ⟨.idle, trivial, trivial, rfl, rfl⟩
  | some s₁ =>
    obtain rfl := notePending_of_ne (by simp [hnext]) h₁
    simp only [noteSource_of_ne, ne_eq, reduceCtorEq, not_false_eq_true, applyEvent]
    cases h₃ : s₁.applyConfigurationFailed context with
    | none => exact ⟨.idle, trivial, trivial, rfl, rfl⟩
    | some s₃ =>
      refine ⟨.configurationFailed, .inl rfl, hrun, rfl, ?_⟩
      rw [fleet_commit, applyConfigurationFailed_fleet h₃, if_neg (by simp),
        if_pos (by simp [hrun]), if_pos (by simp [hrun])]
      simp [resolveNext, hrun, Fleet.after]

theorem transition_acquisitionStarted (hrun : s.runState = .ready) :
    ∃ a : Fleet.Act ClientId, a.OfEvent (some .acquisitionStarted) ∧ s.fleet.Enabled a ∧
      (s.transition .acquisitionStarted .acquiring context requested).1 = a.accepted ∧
      (s.transition .acquisitionStarted .acquiring context requested).2.fleet =
        s.fleet.after a := by
  unfold transition
  cases h₁ : s.notePending .acquisitionStarted .acquiring context requested with
  | none => exact ⟨.idle, trivial, trivial, rfl, rfl⟩
  | some s₁ =>
    obtain rfl := notePending_of_ne (by decide) h₁
    simp only [resolveNext_of_ne, noteSource_of_ne, ne_eq, reduceCtorEq,
      not_false_eq_true, applyEvent]
    cases h₃ : s₁.applyAcquisitionStarted context with
    | none => exact ⟨.idle, trivial, trivial, rfl, rfl⟩
    | some s₃ =>
      obtain ⟨active, hne, hoperational, hready, hfleet⟩ := applyAcquisitionStarted_fleet h₃
      refine ⟨.acquire active, rfl, ⟨hrun, hne, hoperational, hready⟩, rfl, ?_⟩
      rw [fleet_commit, hfleet, if_neg (by simp), if_neg (by simp), if_neg (by simp)]
      rfl

theorem transition_fatalError :
    ∃ a : Fleet.Act ClientId, a.OfEvent (some .fatalError) ∧ s.fleet.Enabled a ∧
      (s.transition .fatalError .error context requested).1 = a.accepted ∧
      (s.transition .fatalError .error context requested).2.fleet = s.fleet.after a := by
  unfold transition
  cases h₁ : s.notePending .fatalError .error context requested with
  | none => exact ⟨.idle, trivial, trivial, rfl, rfl⟩
  | some s₁ =>
    obtain rfl := notePending_of_ne (by decide) h₁
    simp only [resolveNext_of_ne, noteSource_of_ne, ne_eq, reduceCtorEq,
      not_false_eq_true, applyEvent]
    refine ⟨.fatal, rfl, trivial, rfl, ?_⟩
    rw [fleet_commit, applyFatalError_fleet]
    by_cases hrun : s₁.runState = .finalizing <;> simp [hrun, Fleet.after]

theorem transition_finalization {event : ServerFSMEvent}
    (he : event = .finalizationSucceeded ∨ event = .finalizationFailed)
    (hrun : s.runState = .finalizing)
    (hpending : ∀ t ∈ s.pendingTerminalState, t ∈ allowedPendingTerminalStates) :
    ∃ a : Fleet.Act ClientId, a.OfEvent (some event) ∧ s.fleet.Enabled a ∧
      (s.transition event .ready context requested).1 = a.accepted ∧
      (s.transition event .ready context requested).2.fleet = s.fleet.after a := by
  unfold transition
  cases h₁ : s.notePending event .ready context requested with
  | none => exact ⟨.idle, trivial, trivial, rfl, rfl⟩
  | some s₁ =>
    obtain rfl := notePending_of_ne (by decide) h₁
    have hnext : s₁.resolveNext event .ready = s₁.pendingTerminalState.getD .ready := by
      simp [resolveNext, hrun, he]
    have hterminal : s₁.pendingTerminalState.getD .ready ≠ .finalizing := by
      cases hp : s₁.pendingTerminalState with
      | none => decide
      | some t =>
        rintro rfl
        exact absurd (hpending _ hp) (by decide)
    have happly : s₁.applyEvent event (s₁.pendingTerminalState.getD .ready) context =
        some (s₁.applyFinalization context) := by
      rcases he with rfl | rfl <;> simp [applyEvent, hrun, hterminal]
    have hsource : s₁.noteSource event .ready = s₁ :=
      noteSource_of_ne (by rcases he with rfl | rfl <;> decide)
    simp only [hsource, hnext, happly]
    refine ⟨.finalized, by simpa [Fleet.Act.OfEvent] using he, hrun, rfl, ?_⟩
    rw [fleet_commit, applyFinalization_fleet, if_pos ⟨hrun, by tauto⟩, if_neg (by simp [hrun]),
      if_neg (by simp [hrun])]
    rfl

theorem terminalStateOf_allowed (event : ServerFSMEvent)
    (hr : ∀ t ∈ requested, t ∈ allowedPendingTerminalStates) :
    terminalStateOf event requested ∈ allowedPendingTerminalStates := by
  have hreq : requested.getD .ready ∈ allowedPendingTerminalStates := by
    cases requested with
    | none => decide
    | some t => exact hr t rfl
  unfold terminalStateOf
  split
  · decide
  · decide
  · decide
  · exact hreq

theorem transition_finalizing {event : ServerFSMEvent}
    (ht : transitionTable s.runState event = some .finalizing)
    (hr : ∀ t ∈ requested, t ∈ allowedPendingTerminalStates) :
    ∃ a : Fleet.Act ClientId, a.OfEvent (some event) ∧ s.fleet.Enabled a ∧
      (s.transition event .finalizing context requested).1 = a.accepted ∧
      (s.transition event .finalizing context requested).2.fleet = s.fleet.after a := by
  obtain ⟨h₁, h₂, h₃, h₄, h₅⟩ : event ≠ .configurationStarted ∧
      event ≠ .configurationSucceeded ∧ event ≠ .configurationFailed ∧
      event ≠ .finalizationSucceeded ∧ event ≠ .finalizationFailed := by
    obtain rfl | rfl | rfl | rfl | rfl := transitionTable_finalizing ht <;> decide
  have happly (s' : ServerState) :
      s'.applyEvent event .finalizing context = some (s'.applyFinalizing context) := by
    obtain rfl | rfl | rfl | rfl | rfl := transitionTable_finalizing ht <;> rfl
  have hfatal : event ≠ .fatalError := by
    rintro rfl
    exact absurd (transitionTable_fatalError ht) (by decide)
  unfold transition
  simp only [notePending, if_true, noteSource_of_ne h₁, resolveNext_of_ne h₃ h₄ h₅, happly]
  refine ⟨.finalize event (terminalStateOf event requested),
    ⟨rfl, terminalStateOf_allowed event hr, by rintro rfl; rfl⟩, ht, rfl, ?_⟩
  rw [fleet_commit, applyFinalizing_fleet event (terminalStateOf event requested),
    if_neg (by simp [h₄, h₅, hfatal]), if_neg (by simp [h₂, h₃]), if_neg (by simp [h₂, h₃])]
  rfl

/-- The other events change the run state only. -/
theorem transition_move {event : ServerFSMEvent} {next : ServerFSM}
    (ht : transitionTable s.runState event = some next) (hne : next ≠ .finalizing)
    (h₁ : event ≠ .configurationStarted) (h₂ : event ≠ .configurationSucceeded)
    (h₃ : event ≠ .configurationFailed) (h₄ : event ≠ .acquisitionStarted)
    (h₅ : event ≠ .fatalError) (h₆ : event ≠ .finalizationSucceeded)
    (h₇ : event ≠ .finalizationFailed) :
    ∃ a : Fleet.Act ClientId, a.OfEvent (some event) ∧ s.fleet.Enabled a ∧
      (s.transition event next context requested).1 = a.accepted ∧
      (s.transition event next context requested).2.fleet = s.fleet.after a := by
  unfold transition
  cases hs : s.notePending event next context requested with
  | none => exact ⟨.idle, trivial, trivial, rfl, rfl⟩
  | some s₁ =>
    obtain rfl := notePending_of_ne hne hs
    have happly : s₁.applyEvent event next context = some s₁ := by
      cases event <;> simp_all [applyEvent]
    simp only [noteSource_of_ne h₁, resolveNext_of_ne h₃ h₆ h₇, happly]
    refine ⟨.move event next, rfl, ⟨ht, hne, h₁, h₂, h₃, h₄, h₅, h₆, h₇⟩, rfl, ?_⟩
    rw [fleet_commit, if_neg (by simp [h₅, h₆, h₇]), if_neg (by simp [h₂, h₃]),
      if_neg (by simp [h₂, h₃])]
    rfl

/-- A transition that the table allows is an action of its event. -/
theorem transition_act {event : ServerFSMEvent} {next : ServerFSM}
    (ht : transitionTable s.runState event = some next)
    (hr : ∀ t ∈ requested, t ∈ allowedPendingTerminalStates)
    (hpending : ∀ t ∈ s.pendingTerminalState, t ∈ allowedPendingTerminalStates) :
    ∃ a : Fleet.Act ClientId, a.OfEvent (some event) ∧ s.fleet.Enabled a ∧
      (s.transition event next context requested).1 = a.accepted ∧
      (s.transition event next context requested).2.fleet = s.fleet.after a := by
  by_cases hn : next = .finalizing
  · subst hn
    exact transition_finalizing ht hr
  · cases event with
    | configurationStarted =>
      obtain ⟨hrun, rfl⟩ := transitionTable_configurationStarted ht
      exact transition_configurationStarted hrun
    | configurationSucceeded =>
      obtain ⟨hrun, rfl⟩ := transitionTable_configurationSucceeded ht
      exact transition_configurationSucceeded hrun
    | configurationFailed =>
      obtain ⟨hrun, hnext⟩ := transitionTable_configurationFailed ht
      exact transition_configurationFailed hrun hnext
    | acquisitionStarted =>
      obtain ⟨hrun, rfl⟩ := transitionTable_acquisitionStarted ht
      exact transition_acquisitionStarted hrun
    | fatalError =>
      obtain rfl := transitionTable_fatalError ht
      exact transition_fatalError
    | finalizationSucceeded =>
      obtain ⟨hrun, rfl⟩ := transitionTable_finalization (.inl rfl) ht
      exact transition_finalization (.inl rfl) hrun hpending
    | finalizationFailed =>
      obtain ⟨hrun, rfl⟩ := transitionTable_finalization (.inr rfl) ht
      exact transition_finalization (.inr rfl) hrun hpending
    | _ =>
      exact transition_move ht hn (by decide) (by decide) (by decide) (by decide) (by decide)
        (by decide) (by decide)

end Transition

theorem validated_spec {c : EventCall} {event : ServerFSMEvent} {context : EventContext}
    (h : c.validated = some (event, context)) :
    c.event = some event ∧ context.metadata = c.metadata ∧
      ∀ t ∈ c.requestedTerminalState.getD none, t ∈ allowedPendingTerminalStates := by
  unfold EventCall.validated at h
  split at h
  · next e reason source he hreason hsource =>
    split at h
    · next hok =>
      cases h
      refine ⟨he, rfl, fun t hterminal => ?_⟩
      unfold EventCall.terminalOk at hok
      rcases hreq : c.requestedTerminalState with _ | _ | t' <;> simp [hreq] at hterminal hok
      exact hterminal ▸ hok
    · cases h
  · cases h

theorem act_of_configurationFailed {f : Fleet ClientId} {a : Fleet.Act ClientId}
    (ha : a.OfEvent (some .configurationFailed)) (he : f.Enabled a) :
    a = .idle ∨ a = .configurationFailed := by
  cases a with
  | idle => exact .inl rfl
  | configurationFailed => exact .inr rfl
  | move event next =>
    cases ha
    exact absurd rfl he.2.2.2.2.1
  | finalize event terminal =>
    cases ha.1
    have h := transitionTable_finalizing he
    simp at h
  | _ => simp [Fleet.Act.OfEvent] at ha

/-- What a call of `process_event` does to the fleet is an action that can be taken there, and one
its event names. -/
theorem processEvent_act (c : EventCall)
    (hpending : ∀ t ∈ s.pendingTerminalState, t ∈ allowedPendingTerminalStates) :
    ∃ a : Fleet.Act ClientId, a.OfEvent c.event ∧ s.fleet.Enabled a ∧
      (s.processEvent c).1 = a.accepted ∧ (s.processEvent c).2.fleet = s.fleet.after a := by
  unfold processEvent
  cases hv : c.validated with
  | none => exact ⟨.idle, trivial, trivial, rfl, rfl⟩
  | some ec =>
    obtain ⟨event, context⟩ := ec
    obtain ⟨he, -, hr⟩ := validated_spec hv
    simp only
    cases ht : transitionTable s.runState event with
    | none => exact ⟨.idle, trivial, trivial, rfl, rfl⟩
    | some next =>
      simp only
      cases hd : s.dropLostClients event context.metadata next with
      | none => exact ⟨.idle, trivial, trivial, rfl, rfl⟩
      | some emn =>
        obtain ⟨event', metadata', next'⟩ := emn
        obtain ⟨ht', hevent⟩ := dropLostClients_spec ht hd
        obtain ⟨a, ha, hrest⟩ := @transition_act s
          { context with event := .inl event', metadata := metadata' } _ _ _ ht' hr hpending
        refine ⟨a, ?_, hrest⟩
        rw [he]
        rcases hevent with rfl | ⟨rfl, rfl⟩
        · exact ha
        · rcases act_of_configurationFailed ha hrest.1 with rfl | rfl
          · trivial
          · exact .inr rfl

end ServerState

end MultiDAQ.Server
