import MultiDAQ.Server.Verify.Refine

/-!
# Losses and readmissions

What the operations of the liveness service and of the registry do to a client under configuration:
they never put one under configuration, take one out of it only by losing it, and never make one
operational.
-/

namespace MultiDAQ.Server

open MultiDAQ.Lib

namespace Fleet

variable {ι : Type} [DecidableEq ι] {f : Fleet ι} {a : Act ι} {i : ι}

/-- The actions of losses and of admissions. -/
def Act.IsLiveness : Act ι → Prop
  | .idle => True
  | .clientEvent _ event => event = .acquisitionPlaneLost
  | .enlist _ _ => True
  | .forget _ => True
  | .joinAcquisition _ => True
  | .leaveAcquisition _ => True
  | .clearAcquisition => True
  | .joinMonitoring _ => True
  | .leaveMonitoring _ => True
  | .clearMonitoring => True
  | .dropOperational _ => True
  | .clearOperational => True
  | _ => False

/-- The action loses the client. -/
def Act.Loses (i : ι) : Act ι → Prop
  | .clientEvent j _ => j = i
  | .forget j => j = i
  | _ => False

/-- The client is registered, and under configuration or lost on the acquisition plane. -/
def Configured (f : Fleet ι) (i : ι) : Prop :=
  i ∈ f.inState .configuring ∨ i ∈ f.inState .error

theorem after_liveness_frame (ha : a.IsLiveness) :
    (f.after a).runState = f.runState ∧ (f.after a).source = f.source ∧
      (f.after a).isPartial = f.isPartial := by
  cases a <;> first | exact ⟨rfl, rfl, rfl⟩ | exact ha.elim

omit [DecidableEq ι] in
theorem mem_inState_update {g : ι → Member → Member} {state : ClientFSM} :
    i ∈ (f.update g).inState state ↔ ∃ m, f.member i = some m ∧ (g i m).state = state := by
  constructor
  · rintro ⟨m', hm', hs⟩
    obtain ⟨m, hm, rfl⟩ := Option.map_eq_some_iff.1 hm'
    exact ⟨m, hm, hs⟩
  · rintro ⟨m, hm, hs⟩
    exact ⟨g i m, congrArg (Option.map (g i)) hm, hs⟩

omit [DecidableEq ι] in
/-- An update that moves no client keeps the clients in a state. -/
theorem inState_update_same {g : ι → Member → Member} (h : ∀ i m, (g i m).state = m.state)
    (state : ClientFSM) : (f.update g).inState state = f.inState state := by
  ext i
  rw [mem_inState_update]
  exact exists_congr fun m => by rw [h]

/-- Admission keeps the state of a registered client, and starts a new one as `CONNECTED`. -/
theorem mem_inState_enlist {j : ι} {identity : Option (Option PyValue)} {state : ClientFSM}
    (hs : state ≠ .connected) :
    i ∈ (f.after (.enlist j identity)).inState state ↔ i ∈ f.inState state := by
  unfold inState
  simp only [after, Set.mem_ofPred_eq]
  by_cases hij : i = j
  · subst hij
    cases hm : f.member i with
    | none => simp [Member.admitted, Member.new, hs.symm]
    | some m => simp [Member.admitted]
  · simp [hij]

theorem mem_inState_forget {j : ι} {state : ClientFSM} :
    i ∈ (f.after (.forget j)).inState state ↔ i ∈ f.inState state ∧ i ≠ j := by
  unfold inState
  simp only [after, Set.mem_ofPred_eq]
  by_cases hij : i = j <;> simp [hij]

/-- The states a loss of the acquisition plane can lead to. -/
theorem acquisitionPlaneLost_ne {state : ClientFSM} :
    (transitionTableClient state .acquisitionPlaneLost).getD state ≠ .configuring := by
  cases state <;> decide

/-- A client is under configuration after the action exactly when it was, and is not lost by it. -/
theorem mem_configuring_after (ha : a.IsLiveness) :
    i ∈ (f.after a).inState .configuring ↔ i ∈ f.inState .configuring ∧ ¬a.Loses i := by
  cases a with
  | idle => simp [after, Act.Loses]
  | clientEvent j event =>
    obtain rfl : event = .acquisitionPlaneLost := ha
    simp only [after, mem_inState_update, Act.Loses]
    by_cases hij : i = j
    · subst hij
      simp [acquisitionPlaneLost_ne]
    · simp only [hij, if_false, Ne.symm hij, not_false_eq_true, and_true]
      rfl
  | enlist j identity =>
    rw [mem_inState_enlist (by decide)]
    simp [Act.Loses]
  | forget j =>
    rw [mem_inState_forget]
    simp [Act.Loses, eq_comm]
  | joinAcquisition _ | leaveAcquisition _ | clearAcquisition | joinMonitoring _
  | leaveMonitoring _ | clearMonitoring | dropOperational _ | clearOperational =>
    simp only [Act.Loses, not_false_eq_true, and_true]
    refine iff_of_eq (congrArg (i ∈ ·) (inState_update_same (fun j m => ?_) _))
    first | rfl | (split <;> rfl)
  | _ => exact ha.elim

theorem operational_after (ha : a.IsLiveness) (h : i ∈ (f.after a).operational) :
    i ∈ f.operational := by
  obtain ⟨m', hm', ho⟩ := h
  cases a with
  | idle => exact ⟨m', hm', ho⟩
  | enlist j identity =>
    simp only [after] at hm'
    split at hm'
    · next hij =>
      obtain rfl := Option.some.inj hm'
      cases hm : f.member j with
      | none => simp [hm, Member.admitted, Member.new] at ho
      | some m => exact ⟨m, hij ▸ hm, by simpa [hm, Member.admitted] using ho⟩
    · exact ⟨m', hm', ho⟩
  | forget j =>
    simp only [after] at hm'
    split at hm'
    · cases hm'
    · exact ⟨m', hm', ho⟩
  | clientEvent _ _ | joinAcquisition _ | leaveAcquisition _ | clearAcquisition
  | joinMonitoring _ | leaveMonitoring _ | dropOperational _ =>
    obtain ⟨m, hm, rfl⟩ := Option.map_eq_some_iff.1 hm'
    refine ⟨m, hm, ?_⟩
    dsimp only at ho
    split at ho <;> first | exact ho | cases ho
  | clearMonitoring =>
    obtain ⟨m, hm, rfl⟩ := Option.map_eq_some_iff.1 hm'
    exact ⟨m, hm, ho⟩
  | clearOperational =>
    obtain ⟨m, hm, rfl⟩ := Option.map_eq_some_iff.1 hm'
    cases ho
  | _ => exact ha.elim

theorem configured_after (ha : a.IsLiveness) (hne : a ≠ .forget i) (h : f.Configured i) :
    (f.after a).Configured i := by
  cases a with
  | idle => exact h
  | clientEvent j event =>
    obtain rfl : event = .acquisitionPlaneLost := ha
    unfold Configured at h ⊢
    simp only [after, mem_inState_update]
    by_cases hij : i = j
    · subst hij
      right
      simp only [if_true]
      rcases h with ⟨m, hm, hs⟩ | ⟨m, hm, hs⟩ <;> exact ⟨m, hm, by rw [hs]; rfl⟩
    · simp only [hij, if_false]
      exact h
  | enlist j identity =>
    unfold Configured at h ⊢
    rwa [mem_inState_enlist (by decide), mem_inState_enlist (by decide)]
  | forget j =>
    have hij : i ≠ j := fun hij => hne (hij ▸ rfl)
    unfold Configured at h ⊢
    rw [mem_inState_forget, mem_inState_forget]
    exact h.imp (⟨·, hij⟩) (⟨·, hij⟩)
  | joinAcquisition _ | leaveAcquisition _ | clearAcquisition | joinMonitoring _
  | leaveMonitoring _ | clearMonitoring | dropOperational _ | clearOperational =>
    unfold Configured at h ⊢
    simp only [after]
    rw [inState_update_same (fun j m => ?_), inState_update_same (fun j m => ?_)]
    · exact h
    all_goals first | rfl | (split <;> rfl)
  | _ => exact ha.elim

/-- Only an admission registers a client. -/
theorem member_none_after (h : f.member i = none) (hne : ∀ identity, a ≠ .enlist i identity) :
    (f.after a).member i = none := by
  cases a with
  | enlist j identity =>
    have hij : i ≠ j := fun hij => hne identity (hij ▸ rfl)
    simp [after, hij, h]
  | forget j => by_cases hij : i = j <;> simp [after, hij, h]
  | idle | move _ _ | noteSource | clearPending => exact h
  | _ => exact congrArg (Option.map _) h

end Fleet

/-! ## Operations -/

/-- The operations of other threads while clients are configured: those of the liveness service and
of the registry. The liveness service is the only one that sends client events. -/
def ServerOp.IsLiveness : ServerOp → Prop
  | .processEvent _ => False
  | .processClientEvent c => c.event = some .acquisitionPlaneLost ∧
      (nonBlank c.reason).isSome ∧ (nonBlank c.source).isSome
  | .resetToDisconnected _ _ _ => False
  | .clearPendingTransition => False
  | .setOperationalClients _ => False
  | _ => True

/-- The operation forgets the client. -/
def ServerOp.Forgets (cid : ClientId) : ServerOp → Prop
  | .removeClient c => c = cid
  | _ => False

/-- The operation loses the client: it is forgotten, or told of the loss of its acquisition
plane. -/
def ServerOp.Loses (cid : ClientId) : ServerOp → Prop
  | .removeClient c => c = cid
  | .processClientEvent c => c.clientId = .bytes cid
  | _ => False

namespace ServerState

variable {s : ServerState} {op : ServerOp} {cid : ClientId}

theorem isLiveness_act {a : Fleet.Act ClientId} (hop : op.IsLiveness) (ha : op.Acts a) :
    a.IsLiveness := by
  cases op with
  | processEvent _ | resetToDisconnected _ _ _ | clearPendingTransition
  | setOperationalClients _ => exact hop.elim
  | processClientEvent c =>
    rcases ha with rfl | ⟨cid, event, -, hevent, rfl⟩
    · trivial
    · exact Option.some.inj (hevent.symm.trans hop.1)
  | addControlClient _ _ _ => rcases ha with rfl | ⟨cid, -, -, rfl⟩ <;> trivial
  | addAcquisitionClient _ | addMonitoringClient _ =>
    rcases ha with rfl | ⟨cid, -, rfl⟩ <;> trivial
  | _ => cases ha; trivial

/-- The client event of a loss is accepted for a client under configuration. -/
theorem processClientEvent_configuring {c : ClientEventCall}
    (hop : (ServerOp.processClientEvent c).IsLiveness) (hcid : c.clientId.toClientId = some cid)
    (h : cid ∈ s.fleet.inState .configuring) : (s.processClientEvent c).1 = true := by
  obtain ⟨hevent, hreason, hsource⟩ := hop
  obtain ⟨reason, hreason⟩ := Option.isSome_iff_exists.1 hreason
  obtain ⟨source, hsource⟩ := Option.isSome_iff_exists.1 hsource
  obtain ⟨m, hm, hs⟩ := h
  obtain ⟨r, hr, rfl⟩ := Option.map_eq_some_iff.1 hm
  have hstate : r.state = .configuring := hs
  simp [processClientEvent, hcid, hevent, hreason, hsource, hr, hstate, transitionTableClient]

theorem mem_configuring_step (hids : s.fleet.member [] = none) (hop : op.IsLiveness)
    (hpending : s.fleet.PendingAllowed) :
    cid ∈ (s.step op).fleet.inState .configuring ↔
      cid ∈ s.fleet.inState .configuring ∧ ¬op.Loses cid := by
  by_cases hevent : ∃ c, op = .processClientEvent c
  · obtain ⟨c, rfl⟩ := hevent
    obtain ⟨a, ha, he, hacc, hf⟩ := s.processClientEvent_act c
    have hlive := isLiveness_act hop ha
    rw [show (s.step (.processClientEvent c)).fleet = _ from hf, Fleet.mem_configuring_after hlive]
    refine and_congr_right fun hconf => not_congr ?_
    have hne : cid ≠ [] := by
      rintro rfl
      obtain ⟨m, hm, -⟩ := hconf
      exact absurd (hids.symm.trans hm) nofun
    constructor
    · intro hloses
      rcases ha with rfl | ⟨cid', event, hcid', -, rfl⟩
      · exact hloses.elim
      · exact hloses ▸ (toClientId_eq_some.1 hcid').1
    · intro hloses
      have hcid : c.clientId.toClientId = some cid := toClientId_eq_some.2 ⟨hloses, hne⟩
      have htrue := processClientEvent_configuring hop hcid hconf
      rcases ha with rfl | ⟨cid', event, hcid', -, rfl⟩
      · rw [htrue] at hacc
        cases hacc
      · exact Option.some.inj (hcid'.symm.trans hcid)
  · obtain ⟨a, ha, he, hf⟩ := s.step_act op hpending
    rw [hf, Fleet.mem_configuring_after (isLiveness_act hop ha)]
    refine and_congr_right fun _ => not_congr ?_
    cases op with
    | processClientEvent c => exact absurd ⟨c, rfl⟩ hevent
    | processEvent _ | resetToDisconnected _ _ _ | clearPendingTransition
    | setOperationalClients _ => exact hop.elim
    | addControlClient _ _ _ => rcases ha with rfl | ⟨cid', -, -, rfl⟩ <;> exact Iff.rfl
    | addAcquisitionClient _ | addMonitoringClient _ =>
      rcases ha with rfl | ⟨cid', -, rfl⟩ <;> exact Iff.rfl
    | _ => cases ha; exact Iff.rfl

/-! ## Runs -/

/-- What the operations of other threads keep of a server that configures: no client has the empty
id, and the bookkeeping of the configuration. -/
structure Configuring (s : ServerState) (source : Option ServerFSM) (isPartial : Bool) :
    Prop where
  pending : s.fleet.PendingAllowed
  ids : s.fleet.member [] = none
  runState : s.runState = .configuring
  source : s.pendingConfigurationSource = source
  isPartial : s.pendingConfigurationPartial = isPartial

variable {source : Option ServerFSM} {isPartial : Bool} {ops : List ServerOp}

theorem member_nil_after {a : Fleet.Act ClientId} (ha : op.Acts a) (h : s.fleet.member [] = none) :
    (s.fleet.after a).member [] = none := by
  refine Fleet.member_none_after h fun identity heq => ?_
  subst heq
  cases op <;> simp [ServerOp.Acts, Fleet.Act.OfEvent] at ha

theorem Configuring.step (h : s.Configuring source isPartial) (hop : op.IsLiveness) :
    (s.step op).Configuring source isPartial := by
  obtain ⟨a, ha, -, hf⟩ := s.step_act op h.pending
  obtain ⟨hrun, hsource, hpartial⟩ :=
    Fleet.after_liveness_frame (f := s.fleet) (isLiveness_act hop ha)
  rw [← hf] at hrun hsource hpartial
  refine ⟨hf ▸ pendingAllowed_after ha h.pending, hf ▸ member_nil_after ha h.ids,
    hrun.trans h.runState, hsource.trans h.source, hpartial.trans h.isPartial⟩

theorem Configuring.runOps (h : s.Configuring source isPartial) (hops : ∀ op ∈ ops, op.IsLiveness) :
    (s.runOps ops).Configuring source isPartial :=
  run_invariant (I := fun s => s.Configuring source isPartial) (fun _ _ => Configuring.step) h
    (meets_of_forall hops s)

/-- After a run a client is under configuration exactly when it was, and has not been lost. -/
theorem mem_configuring_runOps (h : s.Configuring source isPartial)
    (hops : ∀ op ∈ ops, op.IsLiveness) :
    cid ∈ (s.runOps ops).fleet.inState .configuring ↔
      cid ∈ s.fleet.inState .configuring ∧ ∀ op ∈ ops, ¬op.Loses cid := by
  induction ops generalizing s with
  | nil => simp
  | cons op ops ih =>
    have hop := hops op List.mem_cons_self
    show cid ∈ ((s.step op).runOps ops).fleet.inState .configuring ↔ _
    rw [ih (h.step hop) fun o ho => hops o (List.mem_cons_of_mem _ ho),
      mem_configuring_step h.ids hop h.pending, List.forall_mem_cons, and_assoc]

theorem not_operational_runOps (h : s.Configuring source isPartial)
    (hops : ∀ op ∈ ops, op.IsLiveness) (hcid : cid ∉ s.fleet.operational) :
    cid ∉ (s.runOps ops).fleet.operational := by
  induction ops generalizing s with
  | nil => exact hcid
  | cons op ops ih =>
    have hop := hops op List.mem_cons_self
    refine ih (h.step hop) (fun o ho => hops o (List.mem_cons_of_mem _ ho)) fun ho => hcid ?_
    obtain ⟨a, ha, -, hf⟩ := s.step_act op h.pending
    exact Fleet.operational_after (isLiveness_act hop ha) (hf ▸ ho)

theorem configured_runOps (h : s.Configuring source isPartial)
    (hops : ∀ op ∈ ops, op.IsLiveness) (hforgets : ∀ op ∈ ops, ¬op.Forgets cid)
    (hcid : s.fleet.Configured cid) : (s.runOps ops).fleet.Configured cid := by
  induction ops generalizing s with
  | nil => exact hcid
  | cons op ops ih =>
    have hop := hops op List.mem_cons_self
    refine ih (h.step hop) (fun o ho => hops o (List.mem_cons_of_mem _ ho))
      (fun o ho => hforgets o (List.mem_cons_of_mem _ ho)) ?_
    obtain ⟨a, ha, -, hf⟩ := s.step_act op h.pending
    rw [hf]
    refine Fleet.configured_after (isLiveness_act hop ha) ?_ hcid
    rintro rfl
    refine hforgets op List.mem_cons_self ?_
    cases op <;> simp [ServerOp.Acts, Fleet.Act.OfEvent] at ha
    exact ha.symm

end ServerState

end MultiDAQ.Server
