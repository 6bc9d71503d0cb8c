import MultiDAQ.Server.Verify.Refine

/-!
# Finalization and shutdown

A pending transition exists only in `FINALIZING`. A disconnect that is accepted while the server
acquires or finalizes makes the finalization end in `DISCONNECTED`: whatever operations follow, the
run state stays `FINALIZING` until a finalization event moves it there.
-/

namespace MultiDAQ.Server

open MultiDAQ.Lib

namespace Fleet

variable {ι : Type} [DecidableEq ι] {f : Fleet ι} {a : Act ι}

/-- A terminal state is pending only while the fleet is finalizing. -/
def PendingOk (f : Fleet ι) : Prop := f.pending.isSome → f.runState = .finalizing

omit [DecidableEq ι] in
/-- No move leaves `FINALIZING`. -/
theorem not_move_of_finalizing (hrun : f.runState = .finalizing) {event : ServerFSMEvent}
    {next : ServerFSM} : ¬f.Enabled (.move event next) := by
  rintro ⟨ht, hne, -, -, -, -, h₅, h₆, h₇⟩
  rw [hrun] at ht
  cases event <;> simp_all [transitionTable]

theorem pendingOk_after (he : f.Enabled a) (h : f.PendingOk) : (f.after a).PendingOk := by
  have hnone {r : ServerFSM} (hne : f.runState = r) (hr : r ≠ .finalizing) : f.pending = none := by
    by_contra hp
    exact hr (hne ▸ h (Option.isSome_iff_ne_none.2 hp))
  cases a with
  | move event next =>
    intro hp
    exact absurd he (not_move_of_finalizing (h hp))
  | configure targets isPartial =>
    intro hp
    rcases he.1 with hr | hr <;> exact absurd (h hp) (by rw [hr]; decide)
  | configured successful failed => exact fun hp => absurd (h hp) (by rw [he.1]; decide)
  | configurationFailed => exact fun hp => absurd (h hp) (by rw [show f.runState = _ from he]; decide)
  | acquire active => exact fun hp => absurd (h hp) (by rw [he.1]; decide)
  | fatal =>
    intro hp
    by_cases hrun : f.runState = .finalizing
    · simp [after, hrun] at hp
    · simp only [after, hrun, if_false] at hp
      exact absurd (h hp) hrun
  | finalize event terminal => exact fun _ => rfl
  | finalized | reset | clearPending =>
    intro hp
    cases hp
  | _ => exact h

/-- A finalization that is to end in `DISCONNECTED`. -/
def ShuttingDown (f : Fleet ι) : Prop :=
  f.runState = .finalizing ∧ f.pending = some .disconnected

/-- The actions that take a pending shutdown away. -/
def Act.Forces : Act ι → Prop
  | .fatal => True
  | .reset => True
  | .clearPending => True
  | .finalize event terminal => event = .disconnectRequested ∧ terminal ≠ .disconnected
  | _ => False

theorem shuttingDown_after (he : f.Enabled a) (h : f.ShuttingDown) (hf : ¬a.Forces) :
    (f.after a).ShuttingDown ∨ a = .finalized ∧ (f.after a).runState = .disconnected := by
  obtain ⟨hrun, hpending⟩ := h
  cases a with
  | move event next => exact absurd he (not_move_of_finalizing hrun)
  | configure targets isPartial =>
    rcases he.1 with hr | hr <;> exact absurd (hrun.symm.trans hr) (by decide)
  | configured successful failed => exact absurd (hrun.symm.trans he.1) (by decide)
  | configurationFailed => exact absurd (hrun.symm.trans he) (by decide)
  | acquire active => exact absurd (hrun.symm.trans he.1) (by decide)
  | fatal | reset | clearPending => exact absurd trivial hf
  | finalize event terminal =>
    have hevent : event = .disconnectRequested := by
      have ht : transitionTable f.runState event = some .finalizing := he
      rw [hrun] at ht
      cases event <;> simp_all [transitionTable]
    refine .inl ⟨rfl, ?_⟩
    by_contra hne
    exact hf ⟨hevent, fun ht => hne (ht ▸ rfl)⟩
  | finalized =>
    refine .inr ⟨rfl, ?_⟩
    simp [after, hpending]
  | _ => exact .inl ⟨hrun, hpending⟩

end Fleet

namespace ServerState

variable {s s' : ServerState}

/-! ## The pending transition -/

/-- The three fields of a pending transition are set together. -/
structure PendingSync (s : ServerState) : Prop where
  event : s.pendingEvent.isSome = s.pendingTerminalState.isSome
  context : s.pendingContext.isSome = s.pendingTerminalState.isSome

theorem PendingSync.clientsOnly (h : s.PendingSync) (hs : ClientsOnly s s') : s'.PendingSync := by
  obtain ⟨d, p, rfl⟩ := hs
  exact ⟨h.event, h.context⟩

theorem PendingSync.commit (h : s.PendingSync) (present : ServerFSM) (event : ServerFSMEvent)
    (next : ServerFSM) (context : EventContext) :
    (s.commit present event next context).PendingSync := by
  unfold ServerState.commit
  by_cases hf : present = .finalizing ∧ (event = .finalizationSucceeded ∨
      event = .finalizationFailed ∨ event = .fatalError)
  · constructor <;> simp [hf]
  · constructor <;> simp only [hf, if_false]
    · exact h.event
    · exact h.context

theorem PendingSync.transition (h : s.PendingSync) (event : ServerFSMEvent) (next : ServerFSM)
    (context : EventContext) (requested : Option ServerFSM) :
    (s.transition event next context requested).2.PendingSync := by
  unfold ServerState.transition
  cases h₁ : s.notePending event next context requested with
  | none => exact h
  | some s₁ =>
    have hs₁ : s₁.PendingSync := by
      unfold notePending at h₁
      split at h₁
      · cases h₁; exact ⟨rfl, rfl⟩
      · split at h₁ <;> cases h₁
        exact h
    have hs₂ : (s₁.noteSource event next).PendingSync := by
      unfold noteSource
      split
      · exact ⟨hs₁.event, hs₁.context⟩
      · exact hs₁
    simp only
    split
    · exact hs₂
    · next h₃ => exact (hs₂.clientsOnly (applyEvent_clientsOnly h₃)).commit _ _ _ _

theorem PendingSync.processEvent (h : s.PendingSync) (c : EventCall) :
    (s.processEvent c).2.PendingSync := by
  unfold ServerState.processEvent
  split
  · exact h
  · split
    · exact h
    · split
      · exact h
      · exact h.transition _ _ _ _

theorem PendingSync.processClientEvent (h : s.PendingSync) (c : ClientEventCall) :
    (s.processClientEvent c).2.PendingSync := by
  unfold ServerState.processClientEvent
  split
  · simp only
    split
    · exact h
    · split
      · exact h
      · exact ⟨h.event, h.context⟩
  · exact h

theorem PendingSync.step (h : s.PendingSync) (op : ServerOp) : (s.step op).PendingSync := by
  cases op with
  | processEvent c => exact h.processEvent c
  | processClientEvent c => exact h.processClientEvent c
  | resetToDisconnected _ _ _ | clearPendingTransition => exact ⟨rfl, rfl⟩
  | addControlClient clientId identity now =>
    simp only [ServerState.step, addControlClient]
    cases clientId.toClientId with
    | none => exact h
    | some cid => cases identity <;> exact ⟨h.event, h.context⟩
  | removeClient cid =>
    simp only [ServerState.step, removeClient]
    split
    · exact h
    · exact ⟨h.event, h.context⟩
  | addAcquisitionClient clientId =>
    simp only [ServerState.step, addAcquisitionClient]
    cases clientId.toClientId with
    | none => exact h
    | some cid =>
      simp only
      split
      · exact h
      · split
        · exact h
        · exact ⟨h.event, h.context⟩
  | addMonitoringClient clientId =>
    simp only [ServerState.step, addMonitoringClient]
    cases clientId.toClientId with
    | none => exact h
    | some cid =>
      simp only
      split
      · exact h
      · split
        · exact h
        · exact ⟨h.event, h.context⟩
  | setOperationalClients ids =>
    simp only [ServerState.step, setOperationalClients]
    split
    · exact ⟨h.event, h.context⟩
    · exact h
  | setMode mode =>
    simp only [ServerState.step, setMode]
    split
    · exact ⟨h.event, h.context⟩
    · exact h
  | setConfigurationIdentity cid multipmtId batchId =>
    simp only [ServerState.step, setConfigurationIdentity]
    split
    · exact h
    · split
      · exact ⟨h.event, h.context⟩
      · exact h
  | _ => exact ⟨h.event, h.context⟩

/-- A pending transition exists only while the server is finalizing. -/
theorem IsReachable.finalizing_of_pending (h : s.IsReachable)
    (hp : s.pendingEvent.isSome ∨ s.pendingTerminalState.isSome ∨ s.pendingContext.isSome) :
    s.runState = .finalizing := by
  have hok : s.fleet.PendingOk :=
    reachable_fleet_invariant (fun _ => nofun)
      (fun _ _ _ _ he hI => Fleet.pendingOk_after he hI) h
  have hsync : s.PendingSync := by
    obtain ⟨mode, hs⟩ := h
    exact hs.invariant (fun _ op hs => hs.step op) ⟨rfl, rfl⟩
  refine hok ?_
  rcases hp with hp | hp | hp
  · exact hsync.event ▸ hp
  · exact hp
  · exact hsync.context ▸ hp

/-! ## Shutdown -/

/-- The operation is no forced reset of the state and no `FATAL_ERROR` that is accepted. -/
def Unforced (s : ServerState) : ServerOp → Prop
  | .processEvent c => ¬(c.event = some .fatalError ∧ (s.processEvent c).1 = true)
  | .resetToDisconnected _ _ _ => False
  | .clearPendingTransition => False
  | _ => True

/-- The completion of a finalization: an accepted event that moves the server on. -/
def CompletesIn (s : ServerState) (terminal : ServerFSM) (op : ServerOp) : Prop :=
  ∃ c, op = .processEvent c ∧
    (c.event = some .finalizationSucceeded ∨ c.event = some .finalizationFailed) ∧
    (s.processEvent c).1 = true ∧ (s.processEvent c).2.runState = terminal

theorem not_forces_of_event {c : EventCall} {a : Fleet.Act ClientId} (ha : a.OfEvent c.event)
    (hacc : (s.processEvent c).1 = a.accepted) (h : s.Unforced (.processEvent c)) :
    ¬a.Forces := by
  cases a with
  | fatal => exact fun _ => h ⟨ha, hacc⟩
  | finalize event terminal => exact fun hf => hf.2 (ha.2.2 hf.1)
  | reset | clearPending => exact ha.elim
  | _ => exact id

/-- The operations of the registry neither force a finalization nor complete it. -/
theorem not_forces_of_registry {op : ServerOp} {a : Fleet.Act ClientId} (ha : op.Acts a)
    (hop : ∀ c, op ≠ .processEvent c) (h : s.Unforced op) : ¬a.Forces ∧ a ≠ .finalized := by
  cases op with
  | processEvent c => exact absurd rfl (hop c)
  | resetToDisconnected _ _ _ | clearPendingTransition => exact h.elim
  | processClientEvent c =>
    rcases ha with rfl | ⟨cid, event, -, -, rfl⟩ <;> exact ⟨id, nofun⟩
  | addControlClient _ _ _ =>
    rcases ha with rfl | ⟨cid, -, -, rfl⟩ <;> exact ⟨id, nofun⟩
  | addAcquisitionClient _ | addMonitoringClient _ =>
    rcases ha with rfl | ⟨cid, -, rfl⟩ <;> exact ⟨id, nofun⟩
  | setOperationalClients _ => rcases ha with rfl | rfl <;> exact ⟨id, nofun⟩
  | _ => cases ha; exact ⟨id, nofun⟩

/-- One operation keeps a pending shutdown, or completes it. -/
theorem shuttingDown_step {op : ServerOp} (hpending : s.fleet.PendingAllowed)
    (h : s.fleet.ShuttingDown) (hop : s.Unforced op) :
    (s.step op).fleet.ShuttingDown ∨ s.CompletesIn .disconnected op := by
  by_cases hevent : ∃ c, op = .processEvent c
  · obtain ⟨c, rfl⟩ := hevent
    obtain ⟨a, ha, he, hacc, hf⟩ := s.processEvent_act c hpending
    rcases Fleet.shuttingDown_after he h (not_forces_of_event ha hacc hop) with hs | ⟨rfl, hrun⟩
    · exact .inl (hf ▸ hs)
    · exact .inr ⟨c, rfl, ha, hacc, (congrArg Fleet.runState hf).trans hrun⟩
  · obtain ⟨a, ha, he, hf⟩ := s.step_act op hpending
    obtain ⟨hforces, hne⟩ := not_forces_of_registry ha (fun c hc => hevent ⟨c, hc⟩) hop
    rcases Fleet.shuttingDown_after he h hforces with hs | ⟨rfl, -⟩
    · exact .inl (hf ▸ hs)
    · exact absurd rfl hne

/-- A disconnect that is accepted while the server acquires or finalizes starts a shutdown. -/
theorem shuttingDown_of_disconnect {c : EventCall} (hpending : s.fleet.PendingAllowed)
    (hrun : s.runState = .acquiring ∨ s.runState = .finalizing)
    (hc : c.event = some .disconnectRequested) (hacc : (s.processEvent c).1 = true) :
    (s.processEvent c).2.fleet.ShuttingDown := by
  obtain ⟨a, ha, he, hacc', hf⟩ := s.processEvent_act c hpending
  rw [hc] at ha
  rw [hf]
  cases a with
  | finalize event terminal =>
    have ht : terminal = .disconnected := ha.2.2 (Option.some.inj ha.1).symm
    exact ⟨rfl, congrArg some ht⟩
  | move event next =>
    obtain rfl := Option.some.inj ha
    have ht : transitionTable s.runState .disconnectRequested = some next := he.1
    rcases hrun with hr | hr <;> rw [hr] at ht <;> exact absurd (Option.some.inj ht).symm he.2.1
  | idle => simp [hacc, Fleet.Act.accepted] at hacc'
  | finalized | configurationFailed => rcases ha with ha | ha <;> cases ha
  | _ => cases ha

/-- A shutdown request is never lost. A pending transition exists only in `FINALIZING`; and after a
disconnect that is accepted while the server acquires or finalizes, every run without a fatal error
or a forced reset stays in `FINALIZING`, or leaves it by a completion that ends in
`DISCONNECTED`. -/
theorem shutdown_not_lost :
    (∀ s : ServerState, s.IsReachable →
      s.pendingEvent.isSome ∨ s.pendingTerminalState.isSome ∨ s.pendingContext.isSome →
      s.runState = .finalizing) ∧
    ∀ (s : ServerState) (c : EventCall) (ops : List ServerOp), s.IsReachable →
      (s.runState = .acquiring ∨ s.runState = .finalizing) →
      c.event = some .disconnectRequested → (s.processEvent c).1 = true →
      Meets step Unforced (s.processEvent c).2 ops →
      (∀ pre, pre <+: ops → ((s.processEvent c).2.runOps pre).runState = .finalizing ∧
        ((s.processEvent c).2.runOps pre).pendingTerminalState = some .disconnected) ∨
      ∃ pre op post, ops = pre ++ op :: post ∧
        (∀ p, p <+: pre → ((s.processEvent c).2.runOps p).runState = .finalizing) ∧
        ((s.processEvent c).2.runOps pre).CompletesIn .disconnected op := by
  refine ⟨fun s hs hp => hs.finalizing_of_pending hp, ?_⟩
  intro s c ops hs hrun hc hacc hops
  have hstart := shuttingDown_of_disconnect hs.pendingAllowed hrun hc hacc
  have hallowed : (s.processEvent c).2.fleet.PendingAllowed :=
    (hs.step (.processEvent c)).pendingAllowed
  have hstep (t : ServerState) (op : ServerOp)
      (h : t.fleet.PendingAllowed ∧ t.fleet.ShuttingDown) (hop : t.Unforced op) :
      ((t.step op).fleet.PendingAllowed ∧ (t.step op).fleet.ShuttingDown) ∨
        t.CompletesIn .disconnected op := by
    obtain ⟨a, ha, -, hf⟩ := t.step_act op h.1
    have hp : (t.step op).fleet.PendingAllowed := hf ▸ pendingAllowed_after ha h.1
    exact (shuttingDown_step h.1 h.2 hop).imp_left fun hd => ⟨hp, hd⟩
  rcases run_until hstep ⟨hallowed, hstart⟩ hops with hall | ⟨pre, op, post, heq, hpre, hex⟩
  · exact .inl fun pre hpre => (hall pre hpre).2
  · exact .inr ⟨pre, op, post, heq, fun p hp => (hpre p hp).2.1, hex⟩

/-- A server that acquires with one client. -/
def acquiringOps : List ServerOp :=
  [.processEvent { event := some .controlConnectionSucceeded, reason := some "connect"
                   source := some "connection" },
   .processEvent { event := some .acquisitionConnectionSucceeded, reason := some "connect"
                   source := some "connection" },
   .addControlClient (.bytes [65]) none 0, .addAcquisitionClient (.bytes [65]),
   .processEvent { event := some .configurationStarted, reason := some "configure"
                   source := some "startup_service" },
   .processEvent { event := some .configurationSucceeded, reason := some "configured"
                   source := some "startup_service"
                   metadata := { successfulClients := .ids [.bytes [65]] } },
   .processEvent { event := some .acquisitionStarted, reason := some "start"
                   source := some "acquisition" }]

def disconnectCall : EventCall where
  event := some .disconnectRequested
  reason := some "disconnect"
  source := some "shutdown"

/-- A stop request, which is rejected, a loss, and the end of the finalization. -/
def finishOps : List ServerOp :=
  [.processEvent { event := some .stopRequested, reason := some "stop", source := some "user" },
   .removeClient [65],
   .processEvent { event := some .finalizationSucceeded, reason := some "done"
                   source := some "receiver" }]

theorem shutdown_not_lost_finishOps :
    (∀ pre, pre <+: finishOps →
      ((((init "test").runOps acquiringOps).processEvent disconnectCall).2.runOps pre).runState =
        .finalizing ∧
      ((((init "test").runOps acquiringOps).processEvent
        disconnectCall).2.runOps pre).pendingTerminalState = some .disconnected) ∨
    ∃ pre op post, finishOps = pre ++ op :: post ∧
      (∀ p, p <+: pre → ((((init "test").runOps acquiringOps).processEvent
        disconnectCall).2.runOps p).runState = .finalizing) ∧
      ((((init "test").runOps acquiringOps).processEvent disconnectCall).2.runOps
        pre).CompletesIn .disconnected op :=
  shutdown_not_lost.2 _ disconnectCall finishOps ⟨"test", acquiringOps, rfl⟩ (by decide)
    (by decide) (by decide)
    ⟨(by rintro ⟨h, -⟩; cases h), trivial, (by rintro ⟨h, -⟩; cases h), trivial⟩

end ServerState

end MultiDAQ.Server
