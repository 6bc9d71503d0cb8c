import MultiDAQ.Server.Verify.Refine

/-!
# Client states and the run state

The liveness service handles the loss of an acquisition plane in two steps: the client is told
(`ACQUISITION_PLANE_LOST`), then it is removed from the plane, which also takes its operational flag.
Any event can fall between the two. Outside of a half-processed loss every operational client is in
the state the run state calls for; and a client is acquiring or finalizing only as long as the
server is, unless an event puts it back there between the two steps of its loss.
-/

namespace MultiDAQ.Server

open MultiDAQ.Lib

/-- The state of the operational clients in each run state. -/
def ServerFSM.clientState : ServerFSM → ClientFSM
  | .acquiring => .acquiring
  | .finalizing => .finalizing
  | _ => .ready

namespace Fleet

variable {ι : Type} [DecidableEq ι] {f : Fleet ι} {a : Act ι} {lost : Set ι}

/-- Every operational client that is not lost agrees with the run state. -/
def Agrees (f : Fleet ι) (lost : Set ι) : Prop :=
  ∀ i m, f.member i = some m → m.operational = true → i ∉ lost → m.state = f.runState.clientState

/-- A client acquires or finalizes only as an operational client of a server that does. -/
def BusyOk (f : Fleet ι) : Prop :=
  ∀ i m, f.member i = some m →
    (m.state = .acquiring → m.operational = true ∧ f.runState = .acquiring) ∧
    (m.state = .finalizing → m.operational = true ∧ f.runState = .finalizing)

/-- The actions of the interleaving. -/
def Act.Interleaves (lost : Set ι) : Act ι → Prop
  | .clientEvent i event => event = .acquisitionPlaneLost ∧ i ∈ lost
  | .clearAcquisition => False
  | .setOperational _ => False
  | .dropOperational _ => False
  | .clearOperational => False
  | .reset => False
  | _ => True

/-- The action takes no client out of an acquisition or a finalization that it is in. -/
def Act.KeepsBusy (f : Fleet ι) : Act ι → Prop
  | .leaveAcquisition i =>
    ∀ m, f.member i = some m → m.state ≠ .acquiring ∧ m.state ≠ .finalizing
  | _ => True

omit [DecidableEq ι] in
theorem Agrees.mono {lost' : Set ι} (h : f.Agrees lost) (hl : lost ⊆ lost') : f.Agrees lost' :=
  fun i m hm ho hi => h i m hm ho fun hi' => hi (hl hi')

omit [DecidableEq ι] in
/-- The events that only move the run state do not change what it calls for. -/
theorem clientState_of_move {event : ServerFSMEvent} {next : ServerFSM}
    (he : f.Enabled (.move event next)) :
    f.runState.clientState = .ready ∧ next.clientState = .ready := by
  obtain ⟨ht, hne, -, -, -, h₄, h₅, h₆, h₇⟩ := he
  cases hr : f.runState <;> rw [hr] at ht <;> cases event <;> cases ht <;>
    simp_all [ServerFSM.clientState]

omit [DecidableEq ι] in
/-- A finalization does not end in an acquisition or in another finalization. -/
theorem clientState_pending (hp : f.PendingAllowed) :
    (f.pending.getD .ready).clientState = .ready := by
  cases hpending : f.pending with
  | none => rfl
  | some t =>
    have ht : t ∈ allowedPendingTerminalStates := hp t hpending
    cases t with
    | acquiring | finalizing => exact absurd ht (by decide)
    | _ => rfl

omit [DecidableEq ι] in
theorem clientState_source (hs : f.SourceOk) :
    (f.source.getD .connected).clientState = .ready := by
  cases hsource : f.source with
  | none => rfl
  | some r => rcases hs r hsource with rfl | rfl <;> rfl

theorem Member.finalized_operational {m : Member} {terminal : ServerFSM}
    (h : (m.finalized terminal).operational = true) (ht : terminal ∈ allowedPendingTerminalStates) :
    (m.finalized terminal).state = .ready := by
  cases terminal with
  | ready => rfl
  | disconnected | controlConnected | connected | error => cases h
  | _ => exact absurd ht (by decide)

theorem agrees_after (he : f.Enabled a) (ha : a.Interleaves lost) (hp : f.PendingAllowed)
    (hs : f.SourceOk) (h : f.Agrees lost) : (f.after a).Agrees lost := by
  intro i m' hm' ho hi
  -- an update that keeps the operational flag and the run state
  have hkeep {m : Member} (hm : f.member i = some m) (hm_o : m.operational = true)
      (hs : m'.state = m.state) (hr : (f.after a).runState.clientState = f.runState.clientState) :
      m'.state = (f.after a).runState.clientState := by
    rw [hs, hr]
    exact h i m hm hm_o hi
  cases a with
  | idle | clearPending | noteSource => exact h i m' hm' ho hi
  | move event next =>
    have hmove := clientState_of_move he
    exact hkeep hm' ho rfl (hmove.2.trans hmove.1.symm)
  | configure targets isPartial =>
    obtain ⟨m, hm, rfl⟩ := Option.map_eq_some_iff.1 hm'
    have hready : f.runState.clientState = .ready := by
      rcases he.1 with hr | hr <;> rw [hr] <;> rfl
    by_cases ht : i ∈ targets
    · simp [ht] at ho
    · cases isPartial <;> simp [ht] at ho
      exact hkeep hm ho (by simp [ht]) hready.symm
  | configured successful failed =>
    obtain ⟨m, hm, rfl⟩ := Option.map_eq_some_iff.1 hm'
    obtain ⟨hrun, -, hdisjoint, hunion, -⟩ := he
    by_cases hs : i ∈ successful
    · have hf : i ∉ failed := Set.disjoint_left.1 hdisjoint hs
      simp only [hs, hf, if_true, if_false]
      rfl
    · simp only [hs, if_false] at ho
      split at ho
      · have hf : i ∉ failed := by
          intro hf
          have hc : i ∈ f.inState .configuring := hunion ▸ Set.mem_union_right _ hf
          obtain ⟨m₀, hm₀, hc⟩ := hc
          obtain rfl := Option.some.inj (hm.symm.trans hm₀)
          rw [h i m hm ho hi, hrun] at hc
          cases hc
        refine hkeep hm ho (by simp [hs, hf]) ?_
        rw [hrun]; rfl
      · cases ho
  | configurationFailed =>
    obtain ⟨m, hm, rfl⟩ := Option.map_eq_some_iff.1 hm'
    have hrun : f.runState = .configuring := he
    have hready : (f.after .configurationFailed).runState.clientState = .ready :=
      clientState_source hs
    by_cases hc : f.isPartial = true ∧ m.state ≠ .configuring
    · simp only [hc, if_true, and_self, ne_eq, not_false_eq_true] at ho
      refine hkeep hm ho (by simp [hc.2]) ?_
      rw [hready, hrun]; rfl
    · simp only [hc, if_false] at ho
      cases ho
  | acquire active =>
    obtain ⟨m, hm, rfl⟩ := Option.map_eq_some_iff.1 hm'
    have hactive : i ∈ active := by simpa using ho
    simp only [hactive, if_true]
    rfl
  | fatal =>
    obtain ⟨m, hm, rfl⟩ := Option.map_eq_some_iff.1 hm'
    cases ho
  | finalize event terminal =>
    obtain ⟨m, hm, rfl⟩ := Option.map_eq_some_iff.1 hm'
    have hm_o : m.operational = true := ho
    simp only [hm_o, if_true]
    rfl
  | finalized =>
    obtain ⟨m, hm, rfl⟩ := Option.map_eq_some_iff.1 hm'
    have hready : (f.after .finalized).runState.clientState = .ready := clientState_pending hp
    rw [hready]
    have hallowed : f.pending.getD .ready ∈ allowedPendingTerminalStates := by
      cases hpending : f.pending with
      | none => decide
      | some t => exact hp t hpending
    by_cases hm_o : m.operational = true
    · simp only [hm_o, if_true] at ho ⊢
      exact Member.finalized_operational ho hallowed
    · simp [hm_o] at ho
  | clientEvent j event =>
    obtain ⟨m, hm, rfl⟩ := Option.map_eq_some_iff.1 hm'
    have hj : i ≠ j := by
      rintro rfl
      exact hi ha.2
    simp only [hj, if_false] at ho ⊢
    exact h i m hm ho hi
  | enlist j identity =>
    simp only [after] at hm'
    split at hm'
    · next hj =>
      obtain rfl := Option.some.inj hm'
      cases hm : f.member j with
      | none => simp [hm, Member.admitted, Member.new] at ho
      | some m =>
        simp only [hm, Member.admitted, Option.getD_some] at ho ⊢
        exact h j m hm ho (hj ▸ hi)
    · exact h i m' hm' ho hi
  | forget j =>
    simp only [after] at hm'
    split at hm'
    · cases hm'
    · exact h i m' hm' ho hi
  | joinAcquisition j | joinMonitoring j | leaveMonitoring j =>
    obtain ⟨m, hm, rfl⟩ := Option.map_eq_some_iff.1 hm'
    by_cases hj : i = j <;> simp only [hj, if_true, if_false] at ho ⊢ <;>
      exact h i m hm ho hi
  | clearMonitoring =>
    obtain ⟨m, hm, rfl⟩ := Option.map_eq_some_iff.1 hm'
    exact h i m hm ho hi
  | leaveAcquisition j =>
    obtain ⟨m, hm, rfl⟩ := Option.map_eq_some_iff.1 hm'
    by_cases hj : i = j
    · simp [hj] at ho
    · simp only [hj, if_false] at ho ⊢
      exact h i m hm ho hi
  | _ => exact ha.elim

omit [DecidableEq ι] in
/-- An update that makes no client busy and takes no flag of a busy one. -/
theorem busyOk_update {g : ι → Member → Member} (h : f.BusyOk)
    (hs : ∀ i m, f.member i = some m → (g i m).state = .acquiring ∨ (g i m).state = .finalizing →
      (g i m).state = m.state ∧ (m.operational = true → (g i m).operational = true)) :
    (f.update g).BusyOk := by
  intro i m' hm'
  obtain ⟨m, hm, rfl⟩ := Option.map_eq_some_iff.1 hm'
  obtain ⟨hacq, hfin⟩ := h i m hm
  refine ⟨fun hst => ?_, fun hst => ?_⟩
  · obtain ⟨heq, ho⟩ := hs i m hm (.inl hst)
    obtain ⟨ho', hr⟩ := hacq (heq ▸ hst)
    exact ⟨ho ho', hr⟩
  · obtain ⟨heq, ho⟩ := hs i m hm (.inr hst)
    obtain ⟨ho', hr⟩ := hfin (heq ▸ hst)
    exact ⟨ho ho', hr⟩

omit [DecidableEq ι] in
/-- In the other run states no client is busy. -/
theorem BusyOk.idle (h : f.BusyOk) (h₁ : f.runState ≠ .acquiring) (h₂ : f.runState ≠ .finalizing)
    {i : ι} {m : Member} (hm : f.member i = some m) :
    m.state ≠ .acquiring ∧ m.state ≠ .finalizing :=
  ⟨fun hs => h₁ ((h i m hm).1 hs).2, fun hs => h₂ ((h i m hm).2 hs).2⟩

omit [DecidableEq ι] in
/-- A fleet without busy clients. -/
theorem busyOk_of_idle (h : ∀ i m, f.member i = some m →
    m.state ≠ .acquiring ∧ m.state ≠ .finalizing) : f.BusyOk :=
  fun i m hm => ⟨fun hs => absurd hs (h i m hm).1, fun hs => absurd hs (h i m hm).2⟩

theorem Member.finalized_idle (m : Member) {terminal : ServerFSM}
    (ht : terminal ∈ allowedPendingTerminalStates) :
    (m.finalized terminal).state ≠ .acquiring ∧ (m.finalized terminal).state ≠ .finalizing := by
  cases terminal with
  | controlConnected => cases h : m.onControl <;> simp [Member.finalized, h]
  | configuring | acquiring | finalizing => exact absurd ht (by decide)
  | _ => simp [Member.finalized]

theorem busyOk_after (he : f.Enabled a) (ha : a.Interleaves lost) (hp : f.PendingAllowed)
    (hk : a.KeepsBusy f) (h : f.BusyOk) : (f.after a).BusyOk := by
  -- a client that takes no part in the acquisition is not busy
  have hnot {i : ι} {m : Member} (hm : f.member i = some m) (ho : m.operational = false) :
      m.state ≠ .acquiring ∧ m.state ≠ .finalizing := by
    constructor <;> intro hst
    · exact absurd ((h i m hm).1 hst).1 (by simp [ho])
    · exact absurd ((h i m hm).2 hst).1 (by simp [ho])
  cases a with
  | idle | clearPending | noteSource => exact h
  | move event next =>
    have hmove := (clientState_of_move he).1
    refine busyOk_of_idle fun i m hm => h.idle ?_ ?_ hm
    · intro hr; rw [hr] at hmove; cases hmove
    · intro hr; rw [hr] at hmove; cases hmove
  | configure targets isPartial =>
    refine busyOk_of_idle fun i m' hm' => ?_
    obtain ⟨m, hm, rfl⟩ := Option.map_eq_some_iff.1 hm'
    by_cases ht : i ∈ targets
    · simp [ht]
    · simp only [ht, if_false]
      rcases he.1 with hr | hr <;> exact h.idle (by rw [hr]; decide) (by rw [hr]; decide) hm
  | configured successful failed =>
    refine busyOk_of_idle fun i m' hm' => ?_
    obtain ⟨m, hm, rfl⟩ := Option.map_eq_some_iff.1 hm'
    by_cases hf : i ∈ failed
    · simp [hf]
    · by_cases hs : i ∈ successful
      · simp [hf, hs]
      · simp only [hf, hs, if_false]
        exact h.idle (by rw [he.1]; decide) (by rw [he.1]; decide) hm
  | configurationFailed =>
    have hrun : f.runState = .configuring := he
    refine busyOk_of_idle fun i m' hm' => ?_
    obtain ⟨m, hm, rfl⟩ := Option.map_eq_some_iff.1 hm'
    by_cases hc : m.state = .configuring
    · simp [hc]
    · simp only [hc, if_false]
      exact h.idle (by rw [hrun]; decide) (by rw [hrun]; decide) hm
  | acquire active =>
    intro i m' hm'
    obtain ⟨m, hm, rfl⟩ := Option.map_eq_some_iff.1 hm'
    by_cases hi : i ∈ active
    · simp only [hi, decide_true, if_true]
      exact ⟨fun _ => ⟨trivial, rfl⟩, fun hst => by cases hst⟩
    · simp only [hi, if_false]
      obtain ⟨h₁, h₂⟩ := h.idle (by rw [he.1]; decide) (by rw [he.1]; decide) hm
      exact ⟨fun hst => absurd hst h₁, fun hst => absurd hst h₂⟩
  | fatal =>
    refine busyOk_of_idle fun i m' hm' => ?_
    obtain ⟨m, hm, rfl⟩ := Option.map_eq_some_iff.1 hm'
    cases ho : m.operational
    · simpa [ho] using hnot hm ho
    · simp [ho]
  | finalize event terminal =>
    intro i m' hm'
    obtain ⟨m, hm, rfl⟩ := Option.map_eq_some_iff.1 hm'
    cases ho : m.operational
    · simp only [ho, Bool.false_eq_true, if_false]
      exact ⟨fun hst => absurd hst (hnot hm ho).1, fun hst => absurd hst (hnot hm ho).2⟩
    · simp only [ho, if_true]
      exact ⟨fun hst => (by cases hst), fun _ => ⟨trivial, rfl⟩⟩
  | finalized =>
    have hallowed : f.pending.getD .ready ∈ allowedPendingTerminalStates := by
      cases hpending : f.pending with
      | none => decide
      | some t => exact hp t hpending
    refine busyOk_of_idle fun i m' hm' => ?_
    obtain ⟨m, hm, rfl⟩ := Option.map_eq_some_iff.1 hm'
    cases ho : m.operational
    · simpa [ho] using hnot hm ho
    · simpa [ho] using Member.finalized_idle m hallowed
  | clientEvent j event =>
    obtain ⟨rfl, -⟩ := ha
    refine busyOk_update h fun i m hm hst => ?_
    by_cases hj : i = j
    · simp only [hj, if_true] at hst ⊢
      cases hm : m.state <;> simp [hm, transitionTableClient] at hst
    · simp [hj]
  | enlist j identity =>
    intro i m' hm'
    simp only [after] at hm'
    split at hm'
    · obtain rfl := Option.some.inj hm'
      cases hm : f.member j with
      | none => constructor <;> intro hst <;> cases hst
      | some m => exact h j m hm
    · exact h i m' hm'
  | forget j =>
    intro i m' hm'
    simp only [after] at hm'
    split at hm'
    · cases hm'
    · exact h i m' hm'
  | joinAcquisition j | joinMonitoring j | leaveMonitoring j =>
    refine busyOk_update h fun i m hm hst => ?_
    by_cases hj : i = j <;> simp [hj]
  | clearMonitoring => exact busyOk_update h fun i m hm hst => ⟨rfl, id⟩
  | leaveAcquisition j =>
    refine busyOk_update h fun i m hm hst => ?_
    by_cases hj : i = j
    · simp only [hj, if_true] at hst
      obtain ⟨h₁, h₂⟩ := hk m (hj ▸ hm)
      exact absurd hst (by simp [h₁, h₂])
    · simp [hj]
  | _ => exact ha.elim

end Fleet

/-! ## Interleavings with the liveness service -/

/-- The server, with the clients whose loss of the acquisition plane has been told to them and that
have not been removed from the plane yet. -/
structure LivenessState where
  server : ServerState
  lost : List ClientId

namespace LivenessState

open ServerState (fleet_runState)

/-- The state after one operation. -/
def step (l : LivenessState) (op : ServerOp) : LivenessState where
  server := l.server.step op
  lost :=
    match op with
    | .processClientEvent c =>
      match c.clientId.toClientId with
      | some cid => cid :: l.lost
      | none => l.lost
    | .removeAcquisitionClient cid => l.lost.filter (· ≠ cid)
    | _ => l.lost

/-- The interleavings of events with registrations and with the two steps of a loss, in this
order. -/
def Interleaves (l : LivenessState) : ServerOp → Prop
  | .processClientEvent c => c.event = some .acquisitionPlaneLost
  | .removeAcquisitionClient cid => cid ∈ l.lost
  | .clearAcquisitionClients => False
  | .setOperationalClients _ => False
  | .removeOperationalClient _ => False
  | .clearOperationalClients => False
  | .resetToDisconnected _ _ _ => False
  | _ => True

/-- No event has put a lost client back into an acquisition or a finalization before its second
step. -/
def KeepsBusy (l : LivenessState) : ServerOp → Prop
  | .removeAcquisitionClient cid => ∀ r, l.server.clients.get? cid = some r →
      r.state ≠ .acquiring ∧ r.state ≠ .finalizing
  | _ => True

/-- The operational clients of a run state are in `state`. -/
def OperationalIn (l : LivenessState) (state : ClientFSM) : Prop :=
  ∀ cid r, l.server.clients.get? cid = some r → r.operational = true → cid ∉ l.lost →
    r.state = state

variable {l : LivenessState}

theorem interleaves_act {op : ServerOp} {a : Fleet.Act ClientId} (hop : l.Interleaves op)
    (ha : op.Acts a) : a.Interleaves { i | i ∈ (l.step op).lost } := by
  cases op with
  | processEvent c => cases a <;> trivial
  | processClientEvent c =>
    rcases ha with rfl | ⟨cid, event, hcid, hevent, rfl⟩
    · trivial
    · refine ⟨Option.some.inj (hevent.symm.trans hop), ?_⟩
      simp [step, hcid]
  | addControlClient _ _ _ => rcases ha with rfl | ⟨cid, -, -, rfl⟩ <;> trivial
  | addAcquisitionClient _ | addMonitoringClient _ =>
    rcases ha with rfl | ⟨cid, -, rfl⟩ <;> trivial
  | clearAcquisitionClients | setOperationalClients _ | removeOperationalClient _
  | clearOperationalClients | resetToDisconnected _ _ _ => exact hop.elim
  | _ => cases ha; trivial

theorem keepsBusy_act {op : ServerOp} {a : Fleet.Act ClientId} (hop : l.KeepsBusy op)
    (ha : op.Acts a) : a.KeepsBusy l.server.fleet := by
  cases op with
  | removeAcquisitionClient cid =>
    cases ha
    intro m hm
    obtain ⟨r, hr, rfl⟩ := Option.map_eq_some_iff.1 hm
    exact hop r hr
  | processEvent c => cases a <;> trivial
  | processClientEvent c => rcases ha with rfl | ⟨cid, event, -, -, rfl⟩ <;> trivial
  | addControlClient _ _ _ => rcases ha with rfl | ⟨cid, -, -, rfl⟩ <;> trivial
  | addAcquisitionClient _ | addMonitoringClient _ =>
    rcases ha with rfl | ⟨cid, -, rfl⟩ <;> trivial
  | setOperationalClients _ => rcases ha with rfl | rfl <;> trivial
  | _ => cases ha; trivial

/-- What an interleaving keeps. -/
structure Inv (l : LivenessState) : Prop where
  pending : l.server.fleet.PendingAllowed
  source : l.server.fleet.SourceOk
  agrees : l.server.fleet.Agrees { i | i ∈ l.lost }

theorem lost_subset_step {op : ServerOp} (hop : ∀ cid, op ≠ .removeAcquisitionClient cid) :
    { i | i ∈ l.lost } ⊆ { i | i ∈ (l.step op).lost } := by
  intro i hi
  cases op with
  | removeAcquisitionClient cid => exact absurd rfl (hop cid)
  | processClientEvent c =>
    simp only [step]
    cases c.clientId.toClientId with
    | none => exact hi
    | some cid => exact List.mem_cons_of_mem _ hi
  | _ => exact hi

theorem Inv.step (h : l.Inv) {op : ServerOp} (hop : l.Interleaves op) : (l.step op).Inv := by
  obtain ⟨a, ha, he, hf⟩ := l.server.step_act op h.pending
  have hfleet : (l.step op).server.fleet = l.server.fleet.after a := hf
  refine ⟨?_, ?_, ?_⟩ <;> rw [hfleet]
  · exact ServerState.pendingAllowed_after ha h.pending
  · exact Fleet.sourceOk_after he h.source
  · by_cases hremove : ∃ cid, op = .removeAcquisitionClient cid
    · -- the second step of a loss: the client is no longer operational
      obtain ⟨cid, rfl⟩ := hremove
      cases ha
      have hagrees := Fleet.agrees_after he trivial h.pending h.source h.agrees
      intro i m hm ho hi
      refine hagrees i m hm ho fun hlost => ?_
      by_cases hcid : i = cid
      · obtain ⟨m₀, -, rfl⟩ := Option.map_eq_some_iff.1 hm
        simp [hcid] at ho
      · exact hi (List.mem_filter.2 ⟨hlost, by simpa using hcid⟩)
    · exact Fleet.agrees_after he (interleaves_act hop ha) h.pending h.source
        (h.agrees.mono (lost_subset_step fun cid hc => hremove ⟨cid, hc⟩))

/-- No client is registered at the start. -/
theorem not_member_init {mode : String} {i : ClientId} {m : Member} :
    (ServerState.init mode).fleet.member i ≠ some m := nofun

theorem inv_init (mode : String) : Inv ⟨.init mode, []⟩ :=
  ⟨nofun, nofun, fun _ _ hm => (not_member_init hm).elim⟩

theorem inv_run {mode : String} {ops : List ServerOp}
    (h : Meets LivenessState.step Interleaves ⟨.init mode, []⟩ ops) :
    (run LivenessState.step ⟨.init mode, []⟩ ops).Inv :=
  run_invariant (fun _ _ hi hop => hi.step hop) (inv_init mode) h

theorem busyOk_run {mode : String} {ops : List ServerOp}
    (h : Meets LivenessState.step (fun l op => l.Interleaves op ∧ l.KeepsBusy op)
      ⟨.init mode, []⟩ ops) :
    (run LivenessState.step ⟨.init mode, []⟩ ops).server.fleet.BusyOk := by
  have hinit : Inv ⟨.init mode, []⟩ ∧ (ServerState.init mode).fleet.BusyOk :=
    ⟨inv_init mode, fun _ _ hm => (not_member_init hm).elim⟩
  refine (run_invariant (I := fun l => l.Inv ∧ l.server.fleet.BusyOk) ?_ hinit h).2
  intro l op ⟨hinv, hbusy⟩ ⟨hop, hkeep⟩
  obtain ⟨a, ha, he, hf⟩ := l.server.step_act op hinv.pending
  have hfleet : (l.step op).server.fleet = l.server.fleet.after a := hf
  refine ⟨hinv.step hop, ?_⟩
  rw [hfleet]
  exact Fleet.busyOk_after he (interleaves_act hop ha) hinv.pending (keepsBusy_act hkeep ha) hbusy

/-- Outside of a half-processed loss the operational clients agree with the run state; and when no
event puts a lost client back into an acquisition or a finalization before its second step, no
client is left acquiring or finalizing in `READY`. -/
theorem clients_agree {mode : String} {ops : List ServerOp}
    (h : Meets LivenessState.step Interleaves ⟨.init mode, []⟩ ops) :
    let l := run LivenessState.step ⟨.init mode, []⟩ ops
    (l.server.runState = .acquiring → l.OperationalIn .acquiring) ∧
    (l.server.runState = .finalizing → l.OperationalIn .finalizing) ∧
    (l.server.runState = .ready ∨ l.server.runState = .configuring → l.OperationalIn .ready) ∧
    (Meets LivenessState.step KeepsBusy ⟨.init mode, []⟩ ops → l.server.runState = .ready →
      ∀ cid r, l.server.clients.get? cid = some r →
        r.state ≠ .acquiring ∧ r.state ≠ .finalizing) := by
  have hinv := inv_run h
  intro l
  have hoperational {state : ClientFSM} (hs : l.server.runState.clientState = state) :
      l.OperationalIn state := fun cid r hr ho hlost =>
    (hinv.agrees cid r.member
      (show l.server.fleet.member cid = some r.member by simp [hr]) ho hlost).trans hs
  refine ⟨fun hr => hoperational (by rw [hr]; rfl), fun hr => hoperational (by rw [hr]; rfl),
    fun hr => hoperational ?_, fun hkeep hr cid r hg => ?_⟩
  · rcases hr with hr | hr <;> rw [hr] <;> rfl
  · have hbusy := busyOk_run (h.and hkeep)
    exact hbusy.idle (by rw [fleet_runState, hr]; decide) (by rw [fleet_runState, hr]; decide)
      (show l.server.fleet.member cid = some r.member by simp [hg])

/-- A server that is `READY` with one client, told of the loss of its acquisition plane. -/
def readyThenLost : List ServerOp :=
  [.processEvent { event := some .controlConnectionSucceeded, reason := some "connect"
                   source := some "connection" },
   .processEvent { event := some .acquisitionConnectionSucceeded, reason := some "connect"
                   source := some "connection" },
   .addControlClient (.bytes [65]) none 0, .addAcquisitionClient (.bytes [65]),
   .processEvent { event := some .configurationStarted, reason := some "configure"
                   source := some "startup_service" },
   .processEvent { event := some .configurationSucceeded, reason := some "configured"
                   source := some "startup_service"
                   metadata := { successfulClients := .ids [.bytes [65]] } },
   .processClientEvent { clientId := .bytes [65], event := some .acquisitionPlaneLost
                         reason := some "lost", source := some "client_liveness_service" }]

/-- Between the two steps of a loss an operational client is `CONNECTED` while the server is
`READY`. -/
theorem operational_client_connected_in_ready :
    ¬∀ (mode : String) (ops : List ServerOp),
      Meets LivenessState.step Interleaves ⟨.init mode, []⟩ ops →
      (run LivenessState.step ⟨.init mode, []⟩ ops).server.runState = .ready →
      ∀ cid r, (run LivenessState.step ⟨.init mode, []⟩ ops).server.clients.get? cid = some r →
        r.operational = true → r.state = .ready := by
  intro h
  have hoperational : ((run LivenessState.step ⟨.init "test", []⟩ readyThenLost).server.clients.get?
      [65]).map (·.operational) = some true := by decide
  have hconnected : ((run LivenessState.step ⟨.init "test", []⟩ readyThenLost).server.clients.get?
      [65]).map (·.state) = some .connected := by decide
  obtain ⟨r, hr, ho⟩ := Option.map_eq_some_iff.1 hoperational
  have hready := h "test" readyThenLost ⟨trivial, trivial, trivial, trivial, trivial, trivial,
    rfl, trivial⟩ (by decide) [65] r hr ho
  rw [hr, Option.map_some, hready] at hconnected
  cases hconnected

/-- A whole loss, processed while the server acquires. -/
def lostWhileAcquiring : List ServerOp :=
  readyThenLost.take 6 ++
  [.processEvent { event := some .acquisitionStarted, reason := some "start"
                   source := some "acquisition" },
   .processClientEvent { clientId := .bytes [65], event := some .acquisitionPlaneLost
                         reason := some "lost", source := some "client_liveness_service" },
   .removeAcquisitionClient [65],
   .processEvent { event := some .stopRequested, reason := some "stop", source := some "user" },
   .processEvent { event := some .finalizationSucceeded, reason := some "done"
                   source := some "receiver" }]

/-- The client is left in `ERROR` then. -/
theorem clients_agree_lostWhileAcquiring :
    ∃ r, (run LivenessState.step ⟨.init "test", []⟩ lostWhileAcquiring).server.clients.get?
        [65] = some r ∧ r.state ≠ .acquiring ∧ r.state ≠ .finalizing := by
  have h : Meets LivenessState.step Interleaves ⟨.init "test", []⟩ lostWhileAcquiring :=
    ⟨trivial, trivial, trivial, trivial, trivial, trivial, trivial, rfl, List.mem_cons_self,
      trivial, trivial, trivial⟩
  have hkeep : Meets LivenessState.step KeepsBusy ⟨.init "test", []⟩ lostWhileAcquiring := by
    refine ⟨trivial, trivial, trivial, trivial, trivial, trivial, trivial, trivial, ?_, trivial,
      trivial, trivial⟩
    intro r hr
    have hstate : ((run LivenessState.step ⟨.init "test", []⟩
        (lostWhileAcquiring.take 8)).server.clients.get? [65]).map (·.state) = some .error := by
      decide
    rw [show (run LivenessState.step ⟨.init "test", []⟩
      (lostWhileAcquiring.take 8)).server.clients.get? [65] = some r from hr] at hstate
    have herror : r.state = .error := Option.some.inj hstate
    rw [herror]
    decide
  have hknown : ((run LivenessState.step ⟨.init "test", []⟩
      lostWhileAcquiring).server.clients.get? [65]).isSome = true := by decide
  obtain ⟨r, hr⟩ := Option.isSome_iff_exists.1 hknown
  exact ⟨r, hr, (clients_agree h).2.2.2 hkeep (by decide) [65] r hr⟩

end LivenessState

end MultiDAQ.Server
