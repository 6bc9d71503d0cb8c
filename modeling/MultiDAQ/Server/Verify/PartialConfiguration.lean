import MultiDAQ.Server.Verify.ConfigurationResult
import MultiDAQ.Server.Verify.Stranding

/-!
# A partial configuration and the other clients

The two events of a partial configuration change the targets and the clients under configuration
only: an accepted result names exactly these (`applyConfigurationSucceeded_sameRecord`). A server
that is ready has no client under configuration (`Fleet.Settled`), so that every client that is no
target keeps its record (`configureClients_leaves_others`).
-/

namespace MultiDAQ.Server

open MultiDAQ.Lib

namespace Fleet

variable {ι : Type} [DecidableEq ι] {f : Fleet ι} {a : Act ι}

/-- While the server is ready, or acquires, no client is under configuration. -/
def Settled (f : Fleet ι) : Prop :=
  f.runState = .ready ∨ f.runState = .acquiring ∨ f.runState = .finalizing →
    f.All fun _ m => m.state ≠ .configuring

/-- The action is neither a recovery nor the configuration of one client by itself. -/
def Act.IsSent : Act ι → Prop
  | .move event _ => event ≠ .recoverySucceeded
  | .clientEvent _ event => event ≠ .configurationStarted
  | _ => True

/-- The moves of the run state end a configuration by a recovery only. -/
theorem move_running {r next : ServerFSM} {event : ServerFSMEvent}
    (h : transitionTable r event = some next) (hnext : next = .ready ∨ next = .acquiring) :
    event = .configurationSucceeded ∨ event = .recoverySucceeded ∨ event = .acquisitionStarted ∨
      event = .finalizationSucceeded ∨ event = .finalizationFailed := by
  rcases hnext with rfl | rfl <;> cases event <;> simp <;> cases r <;> simp [transitionTable] at h

theorem settled_after (he : f.Enabled a) (ha : a.IsSent) (h : f.Settled) :
    (f.after a).Settled := by
  intro hrun
  cases a with
  | idle | noteSource | clearPending => exact h hrun
  | move event next =>
    obtain ⟨ht, hfinalizing, -, h₁, h₂, h₃, h₄, h₅, h₆⟩ := he
    have hnext : next = .ready ∨ next = .acquiring :=
      hrun.imp_right fun hr => hr.resolve_right hfinalizing
    rcases move_running ht hnext with rfl | rfl | rfl | rfl | rfl
    · exact absurd rfl h₁
    · exact absurd rfl ha
    · exact absurd rfl h₃
    · exact absurd rfl h₅
    · exact absurd rfl h₆
  | configure targets isPartial => simp [after] at hrun
  | configured successful failed =>
    rintro i m' hm'
    obtain ⟨m, hm, rfl⟩ := Option.map_eq_some_iff.1 hm'
    dsimp only
    by_cases hi : i ∈ failed
    · simp [hi]
    · by_cases hi' : i ∈ successful
      · simp [hi, hi']
      · simp only [hi, hi', if_false]
        intro hst
        have hmem : i ∈ successful ∪ failed := he.2.2.2.1 ▸ ⟨m, hm, hst⟩
        exact hmem.elim hi' hi
  | configurationFailed =>
    rintro i m' hm'
    obtain ⟨m, hm, rfl⟩ := Option.map_eq_some_iff.1 hm'
    dsimp only
    split
    · decide
    · next hst => exact hst
  | acquire active =>
    refine (h (.inl he.1)).update fun i m _ hm => ?_
    dsimp only
    split
    · decide
    · exact hm
  | fatal | reset => simp [after] at hrun
  | finalize event terminal =>
    have hprevious : f.runState = .acquiring ∨ f.runState = .finalizing := by
      have ht : transitionTable f.runState event = some .finalizing := he
      cases hr : f.runState <;> rw [hr] at ht <;> cases event <;> simp [transitionTable] at ht ⊢
    refine (h (.inr hprevious)).update fun i m _ hm => ?_
    dsimp only
    split
    · decide
    · exact hm
  | finalized =>
    refine (h (.inr (.inr he))).update fun i m _ hm => ?_
    split
    · exact fun hst => hm (Member.finalized_configuring hst)
    · exact hm
  | clientEvent i event =>
    refine (h hrun).update fun j m _ hm => ?_
    split
    · dsimp only
      cases ht : transitionTableClient m.state event with
      | none => exact hm
      | some next =>
        rintro rfl
        exact ha (ServerState.transitionTableClient_configuring.1 ht).1
    · exact hm
  | enlist i identity =>
    intro j m hm
    simp only [after] at hm
    split at hm
    · obtain rfl := Option.some.inj hm
      cases hi : f.member i with
      | none => simp [Member.admitted, Member.new]
      | some m => simpa [Member.admitted] using h hrun i m hi
    · exact h hrun j m hm
  | forget i =>
    intro j m hm
    simp only [after] at hm
    split at hm
    · cases hm
    · exact h hrun j m hm
  | clearMonitoring | setOperational _ | clearOperational =>
    exact (h hrun).update fun i m _ hm => hm
  | joinAcquisition _ | leaveAcquisition _ | clearAcquisition | joinMonitoring _
  | leaveMonitoring _ | dropOperational _ =>
    refine (h hrun).update fun i m _ hm => ?_
    split <;> exact hm

end Fleet

/-- The operations that some part of the server performs: nothing reports that a recovery succeeded,
and the only client event that is sent tells of a lost acquisition plane. -/
def ServerOp.IsSent : ServerOp → Prop
  | .processEvent c => c.event ≠ some .recoverySucceeded
  | .processClientEvent c => c.event ≠ some .configurationStarted
  | _ => True

/-- The operation is about another client, or about none. -/
def ServerOp.Spares (cid : ClientId) : ServerOp → Prop
  | .processClientEvent c => c.clientId ≠ .bytes cid
  | .addControlClient clientId _ _ | .addAcquisitionClient clientId
  | .addMonitoringClient clientId => clientId ≠ .bytes cid
  | .removeClient i | .removeAcquisitionClient i | .removeMonitoringClient i
  | .removeOperationalClient i | .setClientHvParameters i _ | .setCalibrationExcludedChannels i _
  | .setConfigurationIdentity i _ _ => i ≠ cid
  | .setMode _ | .clearPendingTransition => True
  | _ => False

namespace ServerState

variable {s s' s₁ s₂ s₃ : ServerState} {cid : ClientId} {context : EventContext}

/-! ## The record of one client -/

/-- The record of the client is the same. -/
def SameRecord (cid : ClientId) (s s' : ServerState) : Prop :=
  s'.clients.get? cid = s.clients.get? cid

theorem SameRecord.refl (cid : ClientId) (s : ServerState) : SameRecord cid s s := rfl

theorem SameRecord.trans (h₁ : SameRecord cid s₁ s₂) (h₂ : SameRecord cid s₂ s₃) :
    SameRecord cid s₁ s₃ :=
  Eq.trans h₂ h₁

theorem sameRecord_modify {i : ClientId} (hi : i ≠ cid) (f : ClientRecord → ClientRecord) :
    SameRecord cid s { s with clients := s.clients.modify i f } := by
  unfold SameRecord
  rw [Dict.get?_modify, if_neg (Ne.symm hi)]

theorem sameRecord_setClientStates {ids : List ClientId} (h : cid ∉ ids)
    (state : ClientFSM) (context : EventContext) :
    SameRecord cid s (s.setClientStates ids state context) := by
  induction ids generalizing s with
  | nil => exact .refl cid s
  | cons i ids ih =>
    obtain ⟨hi, hids⟩ := not_or.1 (List.mem_cons.not.1 h)
    exact (sameRecord_modify (Ne.symm hi) _).trans (ih hids)

theorem sameRecord_markOperational {ids : List ClientId} (h : cid ∉ ids) (value : Bool) :
    SameRecord cid s (s.markOperational ids value) := by
  have hnot : ¬(ids.contains cid = true) := fun hmem => h (List.contains_iff_mem.1 hmem)
  unfold SameRecord markOperational
  rw [Dict.get?_mapVals]
  cases s.clients.get? cid with
  | none => rfl
  | some r => rw [Option.map_some, if_neg hnot]

@[simp] theorem setClientStates_pendingPartial (ids : List ClientId) (state : ClientFSM)
    (context : EventContext) :
    (s.setClientStates ids state context).pendingConfigurationPartial =
      s.pendingConfigurationPartial := by
  unfold setClientStates
  induction ids generalizing s with
  | nil => rfl
  | cons cid ids ih => exact ih

/-! ## The events of a partial configuration -/

theorem applyConfigurationStarted_sameRecord {targets : List ClientId}
    (hpart : context.metadata.isPartial = some true)
    (hentry : context.metadata.targetClients = .ids (targets.map .bytes))
    (hcid : cid ∉ targets) (h : s.applyConfigurationStarted context = some s') :
    SameRecord cid s s' ∧ s'.pendingConfigurationPartial = true := by
  unfold applyConfigurationStarted at h
  rw [hpart, hentry] at h
  dsimp only [IdsEntry.get, Option.getD_some] at h
  split at h
  · cases h
  · next ids hids =>
    have hnot : cid ∉ ids := by
      intro hmem
      obtain ⟨l, hl, hmem⟩ := (mem_normalizeClientIds hids).1 hmem
      obtain rfl := Option.some.inj hl
      obtain ⟨i, hi, heq⟩ := List.mem_map.1 hmem
      cases heq
      exact hcid hi
    split at h
    · cases h
      refine ⟨?_, setClientStates_pendingPartial ..⟩
      exact (sameRecord_markOperational hnot false).trans (sameRecord_setClientStates hnot _ _)
    · cases h

/-- An accepted result names the clients under configuration, and no other client. -/
theorem applyConfigurationSucceeded_sameRecord (hpart : s.pendingConfigurationPartial = true)
    (hcid : cid ∉ s.listClientsInState .configuring)
    (h : s.applyConfigurationSucceeded context = some s') : SameRecord cid s s' := by
  unfold applyConfigurationSucceeded at h
  simp only [hpart, if_true] at h
  split at h
  · next successful failed hsuccessful hfailed =>
    split at h; · cases h
    split at h; · cases h
    split at h; · cases h
    next hsame =>
    split at h; · cases h
    obtain rfl := Option.some.inj h
    simp only [Bool.not_eq_true', Bool.not_eq_false] at hsame
    have hnot : cid ∉ successful ++ failed := fun hmem => hcid ((sameIds_iff.1 hsame cid).1 hmem)
    obtain ⟨hs, hf⟩ := not_or.1 (List.mem_append.not.1 hnot)
    exact ((sameRecord_markOperational hs true).trans (sameRecord_setClientStates hs _ _)).trans
      (sameRecord_setClientStates hf _ _)
  · cases h

theorem applyConfigurationFailed_sameRecord (hpart : s.pendingConfigurationPartial = true)
    (hcid : cid ∉ s.listClientsInState .configuring)
    (h : s.applyConfigurationFailed context = some s') : SameRecord cid s s' := by
  unfold applyConfigurationFailed at h
  simp only [hpart, if_true] at h
  split at h
  · cases h
  · next failed hfailed =>
    split at h; · cases h
    next hsame =>
    obtain rfl := Option.some.inj h
    simp only [Bool.not_eq_true', Bool.not_eq_false] at hsame
    have hnot : cid ∉ failed := fun hmem => hcid ((sameIds_iff.1 hsame cid).1 hmem)
    exact (sameRecord_markOperational hnot false).trans (sameRecord_setClientStates hnot _ _)

theorem transition_result_sameRecord {event : ServerFSMEvent} {next : ServerFSM}
    {requested : Option ServerFSM}
    (he : event = .configurationSucceeded ∨ event = .configurationFailed)
    (hnext : next ≠ .finalizing) (hpart : s.pendingConfigurationPartial = true)
    (hcid : cid ∉ s.listClientsInState .configuring) :
    SameRecord cid s (s.transition event next context requested).2 := by
  have hstarted : event ≠ .configurationStarted := by
    rcases he with rfl | rfl <;> decide
  unfold transition
  cases h₁ : s.notePending event next context requested with
  | none => exact .refl cid s
  | some s₁ =>
    obtain rfl := notePending_of_ne hnext h₁
    simp only [noteSource_of_ne hstarted]
    cases h₃ : s₁.applyEvent event (s₁.resolveNext event next) context with
    | none => exact .refl cid s₁
    | some s₃ =>
      have hsame : SameRecord cid s₁ s₃ := by
        rcases he with rfl | rfl
        · exact applyConfigurationSucceeded_sameRecord hpart hcid h₃
        · exact applyConfigurationFailed_sameRecord hpart hcid h₃
      exact hsame

/-- A result of a partial configuration, whatever it reports, leaves a client alone that is not
under configuration. -/
theorem processEvent_result_sameRecord {c : EventCall}
    (he : c.event = some .configurationSucceeded ∨ c.event = some .configurationFailed)
    (hpart : s.pendingConfigurationPartial = true)
    (hcid : cid ∉ s.listClientsInState .configuring) :
    SameRecord cid s (s.processEvent c).2 := by
  cases hv : c.validated with
  | none => simpa only [processEvent, hv] using SameRecord.refl cid s
  | some ec =>
    obtain ⟨event, context⟩ := ec
    cases ht : transitionTable s.runState event with
    | none => simpa only [processEvent, hv, ht] using SameRecord.refl cid s
    | some next =>
      cases hd : s.dropLostClients event context.metadata next with
      | none => simpa only [processEvent, hv, ht, hd] using SameRecord.refl cid s
      | some emn =>
        obtain ⟨event', metadata', next'⟩ := emn
        obtain ⟨ht', hevent⟩ := dropLostClients_spec ht hd
        have hresult : event' = .configurationSucceeded ∨ event' = .configurationFailed := by
          rcases hevent with rfl | ⟨-, rfl⟩
          · rw [(validated_spec hv).1] at he
            exact he.imp Option.some.inj Option.some.inj
          · exact .inr rfl
        have hnext : next' ≠ .finalizing := by
          rintro rfl
          rcases transitionTable_finalizing ht' with rfl | rfl | rfl | rfl | rfl <;>
            rcases hresult with h | h <;> cases h
        simp only [processEvent, hv, ht, hd]
        exact transition_result_sameRecord hresult hnext hpart hcid

theorem transition_start_sameRecord {targets : List ClientId} {requested : Option ServerFSM}
    (hpart : context.metadata.isPartial = some true)
    (hentry : context.metadata.targetClients = .ids (targets.map .bytes))
    (hcid : cid ∉ targets) :
    SameRecord cid s (s.transition .configurationStarted .configuring context requested).2 ∧
      ((s.transition .configurationStarted .configuring context requested).1 = true →
        (s.transition .configurationStarted .configuring context
          requested).2.pendingConfigurationPartial = true) := by
  unfold transition
  cases h₁ : s.notePending .configurationStarted .configuring context requested with
  | none => exact ⟨.refl cid s, fun h => by cases h⟩
  | some s₁ =>
    obtain rfl := notePending_of_ne (by decide) h₁
    simp only [resolveNext_of_ne, ne_eq, reduceCtorEq, not_false_eq_true, applyEvent]
    cases h₃ : (s₁.noteSource .configurationStarted .configuring).applyConfigurationStarted
        context with
    | none => exact ⟨.refl cid s₁, fun h => by cases h⟩
    | some s₃ =>
      obtain ⟨hsame, hflag⟩ := applyConfigurationStarted_sameRecord hpart hentry hcid h₃
      have hcommit : (s₃.commit s₁.runState .configurationStarted .configuring
          context).pendingConfigurationPartial = s₃.pendingConfigurationPartial :=
        if_neg (by simp)
      exact ⟨hsame, fun _ => hcommit.trans hflag⟩

/-- The start of a partial configuration leaves a client alone that is no target. -/
theorem processEvent_start_sameRecord (s : ServerState) (mode : String) {targets : List ClientId}
    (now : Nat) (hcid : cid ∉ targets) :
    SameRecord cid s (s.processEvent (startReport mode targets true now)).2 ∧
      ((s.processEvent (startReport mode targets true now)).1 = true →
        (s.processEvent (startReport mode targets true now)).2.pendingConfigurationPartial =
          true) := by
  cases hv : (startReport mode targets true now).validated with
  | none =>
    simp only [processEvent, hv]
    exact ⟨.refl cid s, fun h => by cases h⟩
  | some ec =>
    obtain ⟨event, context⟩ := ec
    obtain ⟨hevent, hmetadata, -⟩ := validated_spec hv
    obtain rfl : .configurationStarted = event := Option.some.inj hevent
    cases ht : transitionTable s.runState .configurationStarted with
    | none =>
      simp only [processEvent, hv, ht]
      exact ⟨.refl cid s, fun h => by cases h⟩
    | some next =>
      obtain ⟨hrun, rfl⟩ := transitionTable_configurationStarted ht
      rw [processEvent_configurationStarted hv hrun]
      exact transition_start_sameRecord (congrArg _ hmetadata) (congrArg _ hmetadata) hcid

/-! ## What else is done meanwhile -/

theorem toClientId_ne {x : PyId} {i : ClientId} (hx : x ≠ .bytes cid)
    (h : x.toClientId = some i) : i ≠ cid := by
  rintro rfl
  exact hx (toClientId_eq_some.1 h).1

theorem step_spares {op : ServerOp} (h : op.Spares cid) :
    SameRecord cid s (s.step op) ∧
      (s.step op).pendingConfigurationPartial = s.pendingConfigurationPartial := by
  cases op with
  | processClientEvent c =>
    simp only [step, processClientEvent]
    split
    · next i event reason source hi hevent hreason hsource =>
      split
      · exact ⟨.refl cid s, rfl⟩
      · split
        · exact ⟨.refl cid s, rfl⟩
        · exact ⟨sameRecord_modify (toClientId_ne h hi) _, rfl⟩
    · exact ⟨.refl cid s, rfl⟩
  | addControlClient clientId identity now =>
    simp only [step, addControlClient]
    split
    · exact ⟨.refl cid s, rfl⟩
    · next i hi =>
      have hne : cid ≠ i := (toClientId_ne h hi).symm
      cases identity with
      | none => exact ⟨by simp [SameRecord, get?_withRecord, hne], rfl⟩
      | some identity => exact ⟨by simp [SameRecord, get?_withRecord, hne], rfl⟩
  | addAcquisitionClient clientId =>
    simp only [step, addAcquisitionClient]
    split
    · exact ⟨.refl cid s, rfl⟩
    · next i hi =>
      split
      · exact ⟨.refl cid s, rfl⟩
      · split
        · exact ⟨.refl cid s, rfl⟩
        · exact ⟨sameRecord_modify (toClientId_ne h hi) _, rfl⟩
  | addMonitoringClient clientId =>
    simp only [step, addMonitoringClient]
    split
    · exact ⟨.refl cid s, rfl⟩
    · next i hi =>
      split
      · exact ⟨.refl cid s, rfl⟩
      · split
        · exact ⟨.refl cid s, rfl⟩
        · exact ⟨sameRecord_modify (toClientId_ne h hi) _, rfl⟩
  | removeClient i =>
    simp only [step, removeClient]
    split
    · exact ⟨.refl cid s, rfl⟩
    · refine ⟨?_, rfl⟩
      unfold SameRecord
      rw [Dict.get?_erase, if_neg (Ne.symm h)]
  | removeAcquisitionClient i => exact ⟨sameRecord_modify h _, rfl⟩
  | removeMonitoringClient i => exact ⟨sameRecord_modify h _, rfl⟩
  | removeOperationalClient i => exact ⟨sameRecord_modify h _, rfl⟩
  | setClientHvParameters i acqInfo => exact ⟨sameRecord_modify h _, rfl⟩
  | setCalibrationExcludedChannels i channels => exact ⟨sameRecord_modify h _, rfl⟩
  | setConfigurationIdentity i multipmtId batchId =>
    simp only [step, setConfigurationIdentity]
    split
    · exact ⟨.refl cid s, rfl⟩
    · split
      · exact ⟨sameRecord_modify h _, rfl⟩
      · exact ⟨.refl cid s, rfl⟩
  | setMode mode =>
    simp only [step, setMode]
    split <;> exact ⟨.refl cid s, rfl⟩
  | clearPendingTransition => exact ⟨.refl cid s, rfl⟩
  | _ => exact h.elim

/-- In a partial configuration the client is left alone, and it is not under configuration. -/
structure LeftAlone (cid : ClientId) (s s' : ServerState) : Prop where
  record : SameRecord cid s s'
  isPartial : s'.pendingConfigurationPartial = true
  notConfiguring : cid ∉ s'.listClientsInState .configuring

theorem SameRecord.not_configuring (h : SameRecord cid s s')
    (hcid : cid ∉ s.listClientsInState .configuring) :
    cid ∉ s'.listClientsInState .configuring := by
  intro hmem
  obtain ⟨r, hr, hstate⟩ := Dict.mem_keysWhere.1 hmem
  exact hcid (Dict.mem_keysWhere.2 ⟨r, h.symm.trans hr, hstate⟩)

theorem LeftAlone.runOps (h : LeftAlone cid s s₁) {ops : List ServerOp}
    (hops : ∀ op ∈ ops, op.Spares cid) : LeftAlone cid s (s₁.runOps ops) :=
  run_invariant (I := LeftAlone cid s) (C := fun _ op => op.Spares cid)
    (fun s₂ _ h₂ hop =>
      have hstep := step_spares (s := s₂) hop
      ⟨h₂.record.trans hstep.1, hstep.2.trans h₂.isPartial,
        hstep.1.not_configuring h₂.notConfiguring⟩)
    h (meets_of_forall hops s₁)

theorem reportConfiguration_sameRecord (h : LeftAlone cid s s₁) (mode : String)
    (successful failed : List ClientId) {between : List ServerOp}
    (hbetween : ∀ op ∈ between, op.Spares cid) (now : Nat) :
    SameRecord cid s (s₁.reportConfiguration mode successful failed between now) := by
  have hresult {s₂ : ServerState} (h₂ : LeftAlone cid s s₂) {c : EventCall}
      (he : c.event = some .configurationSucceeded ∨ c.event = some .configurationFailed) :
      SameRecord cid s (s₂.processEvent c).2 :=
    h₂.record.trans (processEvent_result_sameRecord he h₂.isPartial h₂.notConfiguring)
  unfold reportConfiguration
  split
  · exact hresult h (.inr rfl)
  · dsimp only
    split
    · exact hresult h (.inl rfl)
    · next hrejected =>
      rw [processEvent_rejected (by simp [successReport]) (Bool.eq_false_iff.2 hrejected)]
      exact hresult (h.runOps hbetween) (.inr rfl)

/-- A partial configuration leaves a client alone that is no target and not under configuration,
whatever comes of it, if nothing else is done about the client meanwhile. -/
theorem configureClients_sameRecord (s : ServerState) (mode : String)
    {attempts : List (ClientId × Bool)} {during between : List ServerOp} (now : Nat)
    (htarget : ∀ a ∈ attempts, a.1 ≠ cid) (hcid : cid ∉ s.listClientsInState .configuring)
    (hduring : ∀ op ∈ during, op.Spares cid) (hbetween : ∀ op ∈ between, op.Spares cid) :
    SameRecord cid s (s.configureClients mode attempts true during between now) := by
  have hnot : cid ∉ attempts.map Prod.fst := by
    intro hmem
    obtain ⟨a, ha, heq⟩ := List.mem_map.1 hmem
    exact htarget a ha heq
  obtain ⟨hsame, hpart⟩ := processEvent_start_sameRecord s mode now hnot
  unfold configureClients
  split
  · exact .refl cid s
  · dsimp only
    split
    · next hstarted =>
      have hstart : LeftAlone cid s _ := ⟨hsame, hpart hstarted, hsame.not_configuring hcid⟩
      exact reportConfiguration_sameRecord (hstart.runOps hduring) mode _ _ hbetween now
    · exact hsame

/-! ## The states of the server -/

theorem isSent_act {op : ServerOp} {a : Fleet.Act ClientId} (hop : op.IsSent) (ha : op.Acts a) :
    a.IsSent := by
  cases op with
  | processEvent c =>
    cases a with
    | move event next => exact fun heq => hop (Eq.trans ha (congrArg some heq))
    | _ => trivial
  | processClientEvent c =>
    rcases ha with rfl | ⟨i, event, -, hevent, rfl⟩
    · trivial
    · exact fun heq => hop (hevent.trans (congrArg some heq))
  | addControlClient _ _ _ => rcases ha with rfl | ⟨i, -, -, rfl⟩ <;> trivial
  | addAcquisitionClient _ | addMonitoringClient _ =>
    rcases ha with rfl | ⟨i, -, rfl⟩ <;> trivial
  | setOperationalClients _ => rcases ha with rfl | rfl <;> trivial
  | _ => cases ha; trivial

theorem settled_runOps (mode : String) {ops : List ServerOp} (h : ∀ op ∈ ops, op.IsSent) :
    ((init mode).runOps ops).fleet.Settled := by
  have hinit : (init mode).fleet.PendingAllowed ∧ (init mode).fleet.Settled :=
    ⟨nofun, fun _ _ _ hm => by cases hm⟩
  refine (run_invariant (I := fun s : ServerState => s.fleet.PendingAllowed ∧ s.fleet.Settled)
    (fun s op ⟨hp, hsettled⟩ hop => ?_) hinit (meets_of_forall h _)).2
  obtain ⟨a, ha, he, hf⟩ := s.step_act op hp
  rw [hf]
  exact ⟨pendingAllowed_after ha hp, Fleet.settled_after he (isSent_act hop ha) hsettled⟩

/-- A partial configuration of a server that is ready leaves the other clients alone. A client that
is no target keeps its record, whatever comes of the configuration and whatever other clients are
lost or admitted meanwhile; one that was ready and operational is so afterwards. -/
theorem configureClients_leaves_others {initialMode : String} {ops : List ServerOp}
    (mode : String) {attempts : List (ClientId × Bool)} {during between : List ServerOp} (now : Nat)
    (hrun : ((init initialMode).runOps ops).runState = .ready)
    (htarget : ∀ a ∈ attempts, a.1 ≠ cid)
    (hsent : (∀ op ∈ ops, op.IsSent) ∨
      cid ∉ ((init initialMode).runOps ops).listClientsInState .configuring)
    (hduring : ∀ op ∈ during, op.Spares cid) (hbetween : ∀ op ∈ between, op.Spares cid) :
    let s := (init initialMode).runOps ops
    let s' := s.configureClients mode attempts true during between now
    s'.clients.get? cid = s.clients.get? cid ∧
      (cid ∈ s.listClientsInState .ready ∧ cid ∈ s.operationalClientIds →
        cid ∈ s'.listClientsInState .ready ∧ cid ∈ s'.operationalClientIds) := by
  intro s s'
  have hcid : cid ∉ s.listClientsInState .configuring := by
    rcases hsent with hsent | hcid
    · intro hmem
      obtain ⟨m, hm, hstate⟩ := mem_listClientsInState.1 hmem
      exact settled_runOps initialMode hsent (.inl hrun) cid m hm hstate
    · exact hcid
  have hsame : SameRecord cid s s' :=
    configureClients_sameRecord s mode now htarget hcid hduring hbetween
  refine ⟨hsame, fun ⟨hready, hoperational⟩ => ?_⟩
  obtain ⟨r, hr, hstate⟩ := Dict.mem_keysWhere.1 hready
  obtain ⟨r', hr', hflag⟩ := Dict.mem_keysWhere.1 hoperational
  exact ⟨Dict.mem_keysWhere.2 ⟨r, Eq.trans hsame hr, hstate⟩,
    Dict.mem_keysWhere.2 ⟨r', Eq.trans hsame hr', hflag⟩⟩

/-- The server is ready with the clients `A` and `B`, both operational. -/
def readyTwo : List ServerOp :=
  configuringTwo ++ [.processEvent (successReport "test" [[65], [66]] [] 0)]

theorem readyTwo_isSent : ∀ op ∈ readyTwo, op.IsSent := by
  simp [readyTwo, configuringTwo, successReport, ServerOp.IsSent]

/-- `B` is configured and lost meanwhile, `A` is left alone. -/
theorem configureClients_leaves_others_readyTwo :
    let s' := ((init "test").runOps readyTwo).configureClients "test" [([66], true)] true
      [.removeAcquisitionClient [66], .removeClient [66]] [] 0
    [65] ∈ s'.listClientsInState .ready ∧ [65] ∈ s'.operationalClientIds := by
  have hduring : ∀ op ∈ [ServerOp.removeAcquisitionClient [66], .removeClient [66]],
      op.Spares [65] := by
    simp [ServerOp.Spares]
  have htarget : ∀ a ∈ [(([66] : ClientId), true)], a.1 ≠ [65] := by simp
  have hrun : ((init "test").runOps readyTwo).runState = .ready := by decide
  have hleft := configureClients_leaves_others "test" 0 hrun htarget (.inl readyTwo_isSent)
    hduring (List.forall_mem_nil _)
  exact hleft.2 (by decide)

end ServerState

end MultiDAQ.Server
