import MultiDAQ.Server.Registry
import MultiDAQ.Server.Verify.Events

/-!
# The server refines the fleet

`step_act`: one operation of the server is one action of the fleet, taken where it is enabled and
named by the operation (`ServerOp.Acts`). A property of fleets that every enabled action keeps so
holds in every reachable state of the server (`reachable_fleet_invariant`).
-/

namespace MultiDAQ.Server

open MultiDAQ.Lib

/-- The actions an operation can come to. -/
def ServerOp.Acts : ServerOp → Fleet.Act ClientId → Prop
  | .processEvent c, a => a.OfEvent c.event
  | .processClientEvent c, a => a = .idle ∨
      ∃ cid event, c.clientId.toClientId = some cid ∧ c.event = some event ∧
        a = .clientEvent cid event
  | .resetToDisconnected _ _ _, a => a = .reset
  | .clearPendingTransition, a => a = .clearPending
  | .addControlClient clientId identity _, a => a = .idle ∨
      ∃ cid, clientId = .bytes cid ∧ cid ≠ [] ∧ a = .enlist cid (identity.map (·.macAddress))
  | .removeClient cid, a => a = .forget cid
  | .addAcquisitionClient clientId, a => a = .idle ∨
      ∃ cid, clientId = .bytes cid ∧ a = .joinAcquisition cid
  | .removeAcquisitionClient cid, a => a = .leaveAcquisition cid
  | .clearAcquisitionClients, a => a = .clearAcquisition
  | .addMonitoringClient clientId, a => a = .idle ∨
      ∃ cid, clientId = .bytes cid ∧ a = .joinMonitoring cid
  | .removeMonitoringClient cid, a => a = .leaveMonitoring cid
  | .clearMonitoringClients, a => a = .clearMonitoring
  | .setOperationalClients ids, a => a = .idle ∨ a = .setOperational { i | i ∈ ids }
  | .removeOperationalClient cid, a => a = .dropOperational cid
  | .clearOperationalClients, a => a = .clearOperational
  | .setMode _, a => a = .idle
  | .setClientHvParameters _ _, a => a = .idle
  | .setCalibrationExcludedChannels _ _, a => a = .idle
  | .setConfigurationIdentity _ _ _, a => a = .idle

/-- The terminal state a finalization is to end in is one it may end in. -/
def Fleet.PendingAllowed {ι : Type} (f : Fleet ι) : Prop :=
  ∀ t ∈ f.pending, t ∈ allowedPendingTerminalStates

namespace Fleet

variable {ι : Type} {f : Fleet ι} {a : Act ι}

/-- A configuration is to return to `CONNECTED` or to `READY` if it fails. -/
def SourceOk (f : Fleet ι) : Prop := ∀ r ∈ f.source, r = .connected ∨ r = .ready

theorem sourceOk_after [DecidableEq ι] (he : f.Enabled a) (h : f.SourceOk) :
    (f.after a).SourceOk := by
  cases a with
  | noteSource => rintro r ⟨⟩; exact he
  | configure targets isPartial => rintro r ⟨⟩; exact he.1
  | configured _ _ | configurationFailed => rintro r ⟨⟩
  | _ => exact h

end Fleet

namespace ServerState

variable {s : ServerState}

/-! ## Client events -/

theorem processClientEvent_act (c : ClientEventCall) :
    ∃ a, (ServerOp.processClientEvent c).Acts a ∧ s.fleet.Enabled a ∧
      (s.processClientEvent c).1 = a.accepted ∧
      (s.processClientEvent c).2.fleet = s.fleet.after a := by
  unfold processClientEvent
  split
  · next cid event reason source hcid hevent hreason hsource =>
    simp only
    split
    · exact ⟨.idle, .inl rfl, trivial, rfl, rfl⟩
    · next r hr =>
      split
      · exact ⟨.idle, .inl rfl, trivial, rfl, rfl⟩
      · next next hnext =>
        refine ⟨.clientEvent cid event,
          .inr ⟨cid, event, hcid, hevent, rfl⟩, ⟨r.member, ?_, ?_⟩,
          rfl, ?_⟩
        · simp [hr]
        · simpa [ClientRecord.member] using Option.isSome_of_eq_some hnext
        · refine Fleet.ext rfl rfl rfl rfl (fun i => ?_) fun _ => rfl
          by_cases hi : i = cid
          · subst hi
            simp [Fleet.after, hr, ClientRecord.applyClientEvent, ClientRecord.member, hnext]
          · cases hg : s.clients.get? i <;> simp [Fleet.after, hi, hg]
  · exact ⟨.idle, .inl rfl, trivial, rfl, rfl⟩

/-! ## The registry -/

/-- The index of a registration. -/
theorem get?_indexMac (index : Dict String ClientId) (cid : ClientId) (identity : Identity)
    (mac : String) :
    (indexMac index cid identity).get? mac =
      if indexedMac (some identity.macAddress) = some mac then some cid else index.get? mac := by
  unfold indexMac indexedMac
  cases identity.macAddress with
  | none => simp
  | some v =>
    by_cases ht : v.truthy = true
    · have hcomm : v.text = mac ↔ mac = v.text := ⟨Eq.symm, Eq.symm⟩
      simp [ht, hcomm]
    · simp [ht]

theorem get?_withRecord (clients : Dict ClientId ClientRecord) (cid i : ClientId) (now : Nat) :
    (withRecord clients cid now).get? i =
      if i = cid then some ((clients.get? cid).getD { connectedAt := now })
      else clients.get? i := by
  unfold withRecord
  by_cases hi : i = cid
  · subst hi
    unfold Dict.contains
    cases hg : clients.get? i <;> simp [hg]
  · cases clients.contains cid <;> simp [hi]

theorem fleet_addControlClient {clientId : PyId} {cid : ClientId}
    (h : clientId.toClientId = some cid) (identity : Option Identity) (now : Nat) :
    ((s.addControlClient clientId identity now).getD s).fleet =
      s.fleet.after (.enlist cid (identity.map (·.macAddress))) := by
  unfold addControlClient
  rw [h]
  cases identity with
  | none =>
    refine Fleet.ext rfl rfl rfl rfl (fun i => ?_) fun mac => rfl
    simp only [Option.getD_some, fleet_member, Dict.get?_modify, get?_withRecord, Fleet.after]
    by_cases hi : i = cid
    · cases hg : s.clients.get? cid <;> simp [hi] <;> rfl
    · simp [hi]
  | some identity =>
    refine Fleet.ext rfl rfl rfl rfl (fun i => ?_) fun mac => ?_
    · simp only [Option.getD_some, fleet_member, Dict.get?_modify, get?_withRecord, Fleet.after]
      by_cases hi : i = cid
      · cases hg : s.clients.get? cid <;> simp [hi] <;> rfl
      · simp [hi]
    · simp only [Option.getD_some, fleet_index, get?_indexMac, Fleet.after, Option.map_some]

theorem get?_unindexMac (index : Dict String ClientId) (cid : ClientId) (r : ClientRecord)
    (mac : String) :
    (unindexMac index cid r).get? mac =
      if index.get? mac = some cid ∧ ∃ v, r.member.mac = some v ∧ v.text = mac then none
      else index.get? mac := by
  unfold unindexMac ClientRecord.member
  cases hv : r.identity.bind (·.macAddress) with
  | none => simp
  | some v =>
    simp only [Option.some.injEq, exists_eq_left']
    by_cases hm : v.text = mac
    · subst hm
      by_cases hi : index.get? v.text = some cid <;> simp [hi]
    · by_cases hi : index.get? v.text = some cid <;> simp [hi, hm, Ne.symm hm]

theorem fleet_removeClient (cid : ClientId) :
    (s.removeClient cid).fleet = s.fleet.after (.forget cid) := by
  unfold removeClient
  cases hr : s.clients.get? cid with
  | none =>
    refine Fleet.ext rfl rfl rfl rfl (fun i => ?_) fun mac => ?_
    · by_cases hi : i = cid
      · subst hi; simp [Fleet.after, hr]
      · simp [Fleet.after, hi]
    · simp [Fleet.after, hr]
  | some r =>
    refine Fleet.ext rfl rfl rfl rfl (fun i => ?_) fun mac => ?_
    · by_cases hi : i = cid <;> simp [Fleet.after, hi]
    · simp [Fleet.after, hr, get?_unindexMac]

theorem fleet_clearAcquisitionClients :
    s.clearAcquisitionClients.fleet = s.fleet.after .clearAcquisition :=
  fleet_mapVals fun _ r => by
    cases h : r.onAcquisitionPlane <;> simp [h, ClientRecord.member]

/-- Joining a plane is refused unless the client is on the control plane. -/
theorem joins {cid : ClientId} {r : ClientRecord} (hr : s.clients.get? cid = some r)
    (hc : r.onControlPlane = true) : ∃ m, s.fleet.member cid = some m ∧ m.onControl = true :=
  ⟨r.member, by simp [hr], hc⟩

theorem addAcquisitionClient_act (clientId : PyId) :
    ∃ a, (ServerOp.addAcquisitionClient clientId).Acts a ∧ s.fleet.Enabled a ∧
      ((s.addAcquisitionClient clientId).getD s).fleet = s.fleet.after a := by
  unfold addAcquisitionClient
  split
  · exact ⟨.idle, .inl rfl, trivial, rfl⟩
  · next cid hcid =>
    split
    · exact ⟨.idle, .inl rfl, trivial, rfl⟩
    · next r hr =>
      split
      · exact ⟨.idle, .inl rfl, trivial, rfl⟩
      · next hc =>
        exact ⟨.joinAcquisition cid, .inr ⟨cid, (toClientId_eq_some.1 hcid).1, rfl⟩,
          joins hr (by simpa using hc),
          fleet_modify fun _ => rfl⟩

theorem addMonitoringClient_act (clientId : PyId) :
    ∃ a, (ServerOp.addMonitoringClient clientId).Acts a ∧ s.fleet.Enabled a ∧
      ((s.addMonitoringClient clientId).getD s).fleet = s.fleet.after a := by
  unfold addMonitoringClient
  split
  · exact ⟨.idle, .inl rfl, trivial, rfl⟩
  · next cid hcid =>
    split
    · exact ⟨.idle, .inl rfl, trivial, rfl⟩
    · next r hr =>
      split
      · exact ⟨.idle, .inl rfl, trivial, rfl⟩
      · next hc =>
        exact ⟨.joinMonitoring cid, .inr ⟨cid, (toClientId_eq_some.1 hcid).1, rfl⟩,
          joins hr (by simpa using hc),
          fleet_modify fun _ => rfl⟩

theorem setOperationalClients_act (ids : List ClientId) :
    ∃ a, (ServerOp.setOperationalClients ids).Acts a ∧ s.fleet.Enabled a ∧
      ((s.setOperationalClients ids).getD s).fleet = s.fleet.after a := by
  unfold setOperationalClients
  split
  · next hall =>
    refine ⟨.setOperational { i | i ∈ ids }, .inr rfl, fun i hi => ?_, ?_⟩
    · exact mem_commonPlaneClientIds.1 (List.contains_iff_mem.1 (List.all_eq_true.1 hall i hi))
    · refine (fleet_setOperational ids).trans (Fleet.update_congr _ fun i m _ => ?_)
      by_cases hi : i ∈ ids <;> simp [hi]
  · exact ⟨.idle, .inl rfl, trivial, rfl⟩

/-- The updates of one record that the fleet does not see. -/
theorem fleet_modify_same {cid : ClientId} {f : ClientRecord → ClientRecord}
    (h : ∀ r, (f r).member = r.member) :
    { s with clients := s.clients.modify cid f }.fleet = s.fleet := by
  refine (fleet_modify (s := s) (g := fun m => m) h).trans
    ((Fleet.update_congr _ fun i m _ => ?_).trans s.fleet.update_id)
  simp

/-! ## Every operation -/

/-- One operation of the server is one action of the fleet. -/
theorem step_act (op : ServerOp) (hpending : s.fleet.PendingAllowed) :
    ∃ a, op.Acts a ∧ s.fleet.Enabled a ∧ (s.step op).fleet = s.fleet.after a := by
  cases op with
  | processEvent c =>
    obtain ⟨a, ha, he, -, hf⟩ := s.processEvent_act c hpending
    exact ⟨a, ha, he, hf⟩
  | processClientEvent c =>
    obtain ⟨a, ha, he, -, hf⟩ := s.processClientEvent_act c
    exact ⟨a, ha, he, hf⟩
  | resetToDisconnected reason source now =>
    refine ⟨.reset, rfl, trivial, ?_⟩
    have h : s.clearOperational.fleet = _ := fleet_clearOperational
    exact congrArg (fun f : Fleet ClientId => { f with
      runState := .disconnected, pending := none }) h
  | clearPendingTransition => exact ⟨.clearPending, rfl, trivial, rfl⟩
  | addControlClient clientId identity now =>
    cases h : clientId.toClientId with
    | none =>
      refine ⟨.idle, .inl rfl, trivial, ?_⟩
      simp [step, addControlClient, h, Fleet.after]
    | some cid =>
      obtain ⟨hid, hne⟩ := toClientId_eq_some.1 h
      exact ⟨_, .inr ⟨cid, hid, hne, rfl⟩, trivial, fleet_addControlClient h identity now⟩
  | removeClient cid => exact ⟨.forget cid, rfl, trivial, fleet_removeClient cid⟩
  | addAcquisitionClient clientId => exact addAcquisitionClient_act clientId
  | removeAcquisitionClient cid =>
    exact ⟨.leaveAcquisition cid, rfl, trivial, fleet_modify fun _ => rfl⟩
  | clearAcquisitionClients =>
    exact ⟨.clearAcquisition, rfl, trivial, fleet_clearAcquisitionClients⟩
  | addMonitoringClient clientId => exact addMonitoringClient_act clientId
  | removeMonitoringClient cid =>
    exact ⟨.leaveMonitoring cid, rfl, trivial, fleet_modify fun _ => rfl⟩
  | clearMonitoringClients => exact ⟨.clearMonitoring, rfl, trivial, fleet_mapVals fun _ _ => rfl⟩
  | setOperationalClients ids => exact setOperationalClients_act ids
  | removeOperationalClient cid =>
    exact ⟨.dropOperational cid, rfl, trivial, fleet_modify fun _ => rfl⟩
  | clearOperationalClients => exact ⟨.clearOperational, rfl, trivial, fleet_clearOperational⟩
  | setMode mode =>
    refine ⟨.idle, rfl, trivial, ?_⟩
    simp only [step, setMode]
    split <;> rfl
  | setClientHvParameters cid acqInfo =>
    exact ⟨.idle, rfl, trivial, fleet_modify_same fun _ => rfl⟩
  | setCalibrationExcludedChannels cid channels =>
    exact ⟨.idle, rfl, trivial, fleet_modify_same fun _ => rfl⟩
  | setConfigurationIdentity cid multipmtId batchId =>
    refine ⟨.idle, rfl, trivial, ?_⟩
    simp only [step, setConfigurationIdentity]
    split
    · rfl
    · split
      · exact fleet_modify_same fun _ => rfl
      · rfl

/-! ## Reachable states -/

theorem pendingAllowed_after {f : Fleet ClientId} {a : Fleet.Act ClientId} {op : ServerOp}
    (ha : op.Acts a) (h : f.PendingAllowed) : (f.after a).PendingAllowed := by
  have hnone : ∀ t ∈ (none : Option ServerFSM), t ∈ allowedPendingTerminalStates :=
    fun t ht => by cases ht
  cases a with
  | finalize event terminal =>
    have hterminal : terminal ∈ allowedPendingTerminalStates := by
      cases op <;> simp [ServerOp.Acts, Fleet.Act.OfEvent] at ha
      exact ha.2.1
    rintro t ⟨⟩
    exact hterminal
  | fatal =>
    show ∀ t ∈ (if f.runState = .finalizing then none else f.pending),
      t ∈ allowedPendingTerminalStates
    split
    · exact hnone
    · exact h
  | finalized => exact hnone
  | reset => exact hnone
  | clearPending => exact hnone
  | _ => exact h

theorem pendingAllowed_step (s : ServerState) (op : ServerOp) (h : s.fleet.PendingAllowed) :
    (s.step op).fleet.PendingAllowed := by
  obtain ⟨a, ha, -, hf⟩ := s.step_act op h
  rw [hf]
  exact pendingAllowed_after ha h

/-- Whatever enabled actions keep, holds of the fleet of every reachable state. -/
theorem reachable_fleet_invariant {I : Fleet ClientId → Prop} (h₀ : ∀ mode, I (init mode).fleet)
    (hstep : ∀ f op a, ServerOp.Acts op a → f.Enabled a → I f → I (f.after a))
    (h : s.IsReachable) : I s.fleet := by
  obtain ⟨mode, hs⟩ := h
  have hboth : s.fleet.PendingAllowed ∧ I s.fleet := by
    refine hs.invariant (I := fun s => s.fleet.PendingAllowed ∧ I s.fleet)
      (fun s op ⟨hp, hI⟩ => ?_) ⟨nofun, h₀ mode⟩
    obtain ⟨a, ha, he, hf⟩ := s.step_act op hp
    rw [hf]
    exact ⟨pendingAllowed_after ha hp, hstep _ op a ha he hI⟩
  exact hboth.2

theorem IsReachable.pendingAllowed (h : s.IsReachable) : s.fleet.PendingAllowed :=
  reachable_fleet_invariant (fun _ => nofun)
    (fun _ _ _ ha _ hp => pendingAllowed_after ha hp) h

theorem IsReachable.step (h : s.IsReachable) (op : ServerOp) : (s.step op).IsReachable := by
  obtain ⟨mode, ops, rfl⟩ := h
  exact ⟨mode, ops ++ [op], run_append _ _ _⟩

theorem IsReachable.runOps (h : s.IsReachable) (ops : List ServerOp) :
    (s.runOps ops).IsReachable := by
  obtain ⟨mode, ops', rfl⟩ := h
  exact ⟨mode, ops' ++ ops, run_append _ _ _⟩

end ServerState

end MultiDAQ.Server
