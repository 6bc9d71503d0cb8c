import MultiDAQ.Server.Verify.HandshakeOrder
import MultiDAQ.Server.Verify.Refine

/-!
# The ids of the detectors on the control plane

Before it admits a client, a handshake checks that no other client has its multipmt id. The handlers
of the sessions check it again in the step that leads to the admission; `handshake_core` does not.
The ids stay unique as long as neither of the two admits a client while the other one is between its
check and its admission (`Apart`), which the owner of the socket rules out: the I/O loop has it after
`handshake_core`.
-/

namespace MultiDAQ.Server

open MultiDAQ.Lib MultiDAQ.Common

namespace ServerState

variable {s s' : ServerState} {cid other : ClientId} {text : String}

/-! ## What the operations do to the identities -/

theorem notePending_clients {event : ServerFSMEvent} {next : ServerFSM} {context : EventContext}
    {requested : Option ServerFSM} (h : s.notePending event next context requested = some s') :
    s'.clients = s.clients := by
  unfold notePending at h
  split at h
  · cases h
    rfl
  · split at h
    · cases h
    · cases h
      rfl

theorem noteSource_clients (event : ServerFSMEvent) (next : ServerFSM) :
    (s.noteSource event next).clients = s.clients := by
  unfold noteSource
  split <;> rfl

theorem processEvent_identitiesKept (c : EventCall) :
    IdentitiesKept s.clients (s.processEvent c).2.clients := by
  unfold processEvent
  split
  next => exact .refl _
  next =>
    split
    next => exact .refl _
    next =>
      split
      next => exact .refl _
      next =>
        unfold transition
        split
        next => exact .refl _
        next s₁ hnote =>
          have hsource : IdentitiesKept s.clients s₁.clients :=
            (notePending_clients hnote).symm ▸ .refl _
          dsimp only
          split
          next =>
            rw [noteSource_clients]
            exact hsource
          next s₃ happly =>
            have hrecords := (applyEvent_recordsOnly happly).2
            rw [noteSource_clients] at hrecords
            exact hsource.trans hrecords

theorem processClientEvent_identitiesKept (c : ClientEventCall) :
    IdentitiesKept s.clients (s.processClientEvent c).2.clients := by
  unfold processClientEvent
  split
  next =>
    dsimp only
    split
    next => exact .refl _
    next =>
      split
      next => exact .refl _
      next => exact identitiesKept_modify _ _ fun _ => rfl
  next => exact .refl _

theorem removeClient_identitiesKept (cid : ClientId) :
    IdentitiesKept s.clients (s.removeClient cid).clients := by
  unfold removeClient
  split
  · exact .refl _
  · intro other r' h
    have h : (s.clients.erase cid).get? other = some r' := h
    rw [Dict.get?_erase] at h
    split at h
    · cases h
    · exact ⟨r', h, rfl⟩

/-- An operation that may raise, and leaves the state as it was then. -/
theorem getD_identitiesKept {o : Option ServerState}
    (h : ∀ s', o = some s' → IdentitiesKept s.clients s'.clients) :
    IdentitiesKept s.clients (o.getD s).clients := by
  cases o with
  | none => exact .refl _
  | some s' => exact h s' rfl

/-- Only the registration of a client changes an identity. -/
theorem step_identitiesKept (op : ServerOp)
    (hop : ∀ clientId identity now, op ≠ .addControlClient clientId identity now) :
    IdentitiesKept s.clients (s.step op).clients := by
  cases op with
  | processEvent c => exact processEvent_identitiesKept c
  | processClientEvent c => exact processClientEvent_identitiesKept c
  | addControlClient clientId identity now => exact absurd rfl (hop clientId identity now)
  | removeClient cid => exact removeClient_identitiesKept cid
  | addAcquisitionClient clientId =>
    refine getD_identitiesKept fun s' h => ?_
    unfold addAcquisitionClient at h
    split at h
    · cases h
    · split at h
      · cases h
      · split at h
        · cases h
        · cases h
          exact identitiesKept_modify _ _ fun _ => rfl
  | addMonitoringClient clientId =>
    refine getD_identitiesKept fun s' h => ?_
    unfold addMonitoringClient at h
    split at h
    · cases h
    · split at h
      · cases h
      · split at h
        · cases h
        · cases h
          exact identitiesKept_modify _ _ fun _ => rfl
  | setOperationalClients ids =>
    refine getD_identitiesKept fun s' h => ?_
    unfold setOperationalClients at h
    split at h
    · cases h
      exact (recordsOnly_setOperational s ids).2
    · cases h
  | setMode mode =>
    refine getD_identitiesKept fun s' h => ?_
    unfold setMode at h
    dsimp only at h
    split at h
    · cases h
      exact .refl _
    · cases h
  | setConfigurationIdentity cid multipmtId batchId =>
    show IdentitiesKept s.clients (s.setConfigurationIdentity cid multipmtId batchId).2.clients
    unfold setConfigurationIdentity
    split
    · exact .refl _
    · split
      · exact identitiesKept_modify _ _ fun _ => rfl
      · exact .refl _
  | clearPendingTransition => exact .refl _
  | clearAcquisitionClients => exact identitiesKept_mapVals _ fun _ r => by split <;> rfl
  | resetToDisconnected | clearMonitoringClients | clearOperationalClients =>
    exact identitiesKept_mapVals _ fun _ _ => rfl
  | _ => exact identitiesKept_modify _ _ fun _ => rfl

/-! ## Multipmt ids -/

/-- The client is registered with this multipmt id. -/
def HasMultipmtId (s : ServerState) (cid : ClientId) (text : String) : Prop :=
  ∃ r identity, s.clients.get? cid = some r ∧ r.identity = some identity ∧
    identity.multipmtText = text

/-- No other client is registered with this multipmt id. -/
def FreeFor (s : ServerState) (cid : ClientId) (text : String) : Prop :=
  ∀ other, s.HasMultipmtId other text → other = cid

theorem HasMultipmtId.of_kept (hk : IdentitiesKept s.clients s'.clients)
    (h : s'.HasMultipmtId cid text) : s.HasMultipmtId cid text := by
  obtain ⟨r', identity, hr', hi, ht⟩ := h
  obtain ⟨r, hr, hsame⟩ := hk cid r' hr'
  exact ⟨r, identity, hr, hsame.trans hi, ht⟩

theorem FreeFor.of_kept (hk : IdentitiesKept s.clients s'.clients) (h : s.FreeFor cid text) :
    s'.FreeFor cid text :=
  fun other hother => h other (hother.of_kept hk)

theorem mem_multipmtId {cid : ClientId} :
    cid ∈ s.clients.keysWhere (fun r => r.identity.any fun i => i.multipmtText = text) ↔
      s.HasMultipmtId cid text := by
  rw [Dict.mem_keysWhere]
  constructor
  · rintro ⟨r, hr, hany⟩
    obtain ⟨identity, hi, ht⟩ := (Option.any_eq_true _ _).1 hany
    exact ⟨r, identity, hr, hi, of_decide_eq_true ht⟩
  · rintro ⟨r, identity, hr, hi, ht⟩
    exact ⟨r, hr, (Option.any_eq_true _ _).2 ⟨identity, hi, decide_eq_true ht⟩⟩

/-- The search finds a client with the id if there is one. -/
theorem getClientIdByMultipmtId_spec (s : ServerState) (text : String) :
    match s.getClientIdByMultipmtId text with
    | none => ∀ cid, ¬ s.HasMultipmtId cid text
    | some cid => s.HasMultipmtId cid text := by
  unfold getClientIdByMultipmtId
  cases h : s.clients.keysWhere fun r => r.identity.any fun i => i.multipmtText = text with
  | nil =>
    intro cid hcid
    have hmem := mem_multipmtId.2 hcid
    rw [h] at hmem
    cases hmem
  | cons cid rest =>
    refine mem_multipmtId.1 ?_
    rw [h]
    exact List.mem_cons_self

/-- The registered clients have different multipmt ids. -/
structure MultipmtIdsUnique (s : ServerState) : Prop where
  identified : ∀ cid ∈ s.controlClientIds, ∃ text, s.HasMultipmtId cid text
  unique : ∀ cid text, s.HasMultipmtId cid text → s.FreeFor cid text
  found : ∀ cid text, s.HasMultipmtId cid text → s.getClientIdByMultipmtId text = some cid

theorem found_of_unique (h : ∀ cid text, s.HasMultipmtId cid text → s.FreeFor cid text)
    (hcid : s.HasMultipmtId cid text) : s.getClientIdByMultipmtId text = some cid := by
  have hspec := getClientIdByMultipmtId_spec s text
  cases hfound : s.getClientIdByMultipmtId text with
  | none =>
    rw [hfound] at hspec
    exact absurd hcid (hspec cid)
  | some other =>
    rw [hfound] at hspec
    rw [h cid text hcid other hspec]

/-- An identity that passes the check has a multipmt id that no other client has. -/
theorem freeFor_of_validate (h : ∀ cid text, s.HasMultipmtId cid text → s.FreeFor cid text)
    {identity : Identity} (hv : s.validateHandshakeIdentity cid (some identity) = true) :
    s.FreeFor cid identity.multipmtText := by
  intro other hother
  have hfound := found_of_unique h hother
  simp only [validateHandshakeIdentity, hfound, Bool.and_eq_true] at hv
  exact of_decide_eq_true hv.2

/-- The records after a registration. -/
theorem get?_addControlClient {identity : Identity} {now : Nat}
    (h : s.addControlClient (.bytes cid) (some identity) now = some s') (other : ClientId) :
    (other = cid → ∃ r, s'.clients.get? other = some r ∧ r.identity = some identity) ∧
      (other ≠ cid → s'.clients.get? other = s.clients.get? other) := by
  unfold addControlClient at h
  split at h
  next => cases h
  next found hfound =>
    obtain rfl : cid = found := by
      obtain ⟨heq, -⟩ := toClientId_eq_some.1 hfound
      exact PyId.bytes.inj heq
    obtain rfl := Option.some.inj h
    simp only [Dict.get?_modify, get?_withRecord]
    constructor
    · rintro rfl
      simp
    · intro hne
      simp [hne]

theorem hasMultipmtId_addControlClient {identity : Identity} {now : Nat}
    (h : s.addControlClient (.bytes cid) (some identity) now = some s') :
    s'.HasMultipmtId other text ↔
      other = cid ∧ identity.multipmtText = text ∨ other ≠ cid ∧ s.HasMultipmtId other text := by
  obtain ⟨hself, hother⟩ := get?_addControlClient h other
  by_cases heq : other = cid
  · obtain ⟨r, hr, hi⟩ := hself heq
    constructor
    · rintro ⟨r', identity', hr', hi', ht⟩
      obtain rfl := Option.some.inj (hr.symm.trans hr')
      obtain rfl := Option.some.inj (hi.symm.trans hi')
      exact .inl ⟨heq, ht⟩
    · rintro (⟨-, ht⟩ | ⟨hne, -⟩)
      · exact ⟨r, identity, hr, hi, ht⟩
      · exact absurd heq hne
  · unfold HasMultipmtId
    rw [hother heq]
    simp [heq]

theorem mem_controlClientIds {cid : ClientId} :
    cid ∈ s.controlClientIds ↔ ∃ r, s.clients.get? cid = some r ∧ r.onControlPlane = true :=
  Dict.mem_keysWhere

end ServerState

/-- The client whose identity `handshake_core` has checked, and the identity. -/
def BlockingHandshake.identified : BlockingHandshake → Option (ClientId × Identity)
  | .sentEnd cid identity _ | .admitting cid identity => some (cid, identity)
  | _ => none

namespace ControlPlane

variable {s : ControlPlane}

/-- The I/O loop and `handshake_core` are not both between the check of an identity and the admission
of the client. -/
def Apart (s : ControlPlane) : ControlAction → Prop
  | .admitClient _ | .admitBlocking _ => s.io = .idle ∨ s.blocking.identified = none
  | _ => True

instance (s : ControlPlane) : (a : ControlAction) → Decidable (Apart s a)
  | .admitClient _ | .admitBlocking _ => inferInstanceAs (Decidable (_ ∨ _))
  | .receive .. | .expire _ | .clearSessions | .receiveBlocking .. | .other _ | .restart _ =>
    .isTrue trivial

/-- The ids are unique, and the id that is about to be admitted is free. -/
structure IdsTracked (s : ControlPlane) : Prop where
  identified : ∀ cid r, s.serverState.clients.get? cid = some r → r.identity.isSome
  unique : ∀ cid text, s.serverState.HasMultipmtId cid text → s.serverState.FreeFor cid text
  io : ∀ cid identity, s.io = .admitting cid identity →
    s.serverState.FreeFor cid identity.multipmtText
  blocking : ∀ cid identity, s.blocking.identified = some (cid, identity) →
    s.serverState.FreeFor cid identity.multipmtText

theorem IdsTracked.multipmtIdsUnique (h : IdsTracked s) : s.serverState.MultipmtIdsUnique where
  identified := fun cid hcid => by
    obtain ⟨r, hr, -⟩ := ServerState.mem_controlClientIds.1 hcid
    obtain ⟨identity, hi⟩ := Option.isSome_iff_exists.1 (h.identified cid r hr)
    exact ⟨_, r, identity, hr, hi, rfl⟩
  unique := h.unique
  found := fun _ _ => ServerState.found_of_unique h.unique

/-- Steps that keep the identities keep the ids unique. -/
theorem IdsTracked.of_kept {s' : ControlPlane} (h : IdsTracked s)
    (hk : ServerState.IdentitiesKept s.serverState.clients s'.serverState.clients)
    (hio : ∀ cid identity, s'.io = .admitting cid identity →
      s.serverState.FreeFor cid identity.multipmtText)
    (hb : ∀ cid identity, s'.blocking.identified = some (cid, identity) →
      s.serverState.FreeFor cid identity.multipmtText) : IdsTracked s' where
  identified := fun cid r' hr' => by
    obtain ⟨r, hr, hsame⟩ := hk cid r' hr'
    exact hsame ▸ h.identified cid r hr
  unique := fun cid text hcid => (h.unique cid text (hcid.of_kept hk)).of_kept hk
  io := fun cid identity hother => (hio cid identity hother).of_kept hk
  blocking := fun cid identity hother => (hb cid identity hother).of_kept hk

/-- A step that leaves the server state alone. -/
theorem IdsTracked.of_eq {s' : ControlPlane} (h : IdsTracked s)
    (hs : s'.serverState = s.serverState)
    (hio : ∀ cid identity, s'.io = .admitting cid identity →
      s.serverState.FreeFor cid identity.multipmtText)
    (hb : ∀ cid identity, s'.blocking.identified = some (cid, identity) →
      s.serverState.FreeFor cid identity.multipmtText) : IdsTracked s' :=
  h.of_kept (hs ▸ .refl _) hio hb

/-- The admission of a client whose id is free, while no other one is about to be admitted. -/
theorem IdsTracked.add (h : IdsTracked s) {s' : ControlPlane} {cid : ClientId} {identity : Identity}
    {now : Nat} (hfree : s.serverState.FreeFor cid identity.multipmtText)
    (hadd : s.serverState.addControlClient (.bytes cid) (some identity) now = some s'.serverState)
    (hio : s'.io = .idle) (hb : s'.blocking.identified = none) : IdsTracked s' where
  identified := fun other r hr => by
    obtain ⟨hself, hother⟩ := ServerState.get?_addControlClient hadd other
    by_cases heq : other = cid
    · obtain ⟨r', hr', hi⟩ := hself heq
      obtain rfl := Option.some.inj (hr.symm.trans hr')
      rw [hi]
      rfl
    · exact h.identified other r ((hother heq).symm.trans hr)
  unique := fun c₁ text h₁ c₂ h₂ => by
    rw [ServerState.hasMultipmtId_addControlClient hadd] at h₁ h₂
    rcases h₁ with ⟨rfl, rfl⟩ | ⟨hne₁, h₁⟩
    · rcases h₂ with ⟨rfl, -⟩ | ⟨hne₂, h₂⟩
      · rfl
      · exact absurd (hfree c₂ h₂) hne₂
    · rcases h₂ with ⟨rfl, rfl⟩ | ⟨-, h₂⟩
      · exact absurd (hfree c₁ h₁) hne₁
      · exact h.unique c₁ text h₁ c₂ h₂
  io := fun _ _ hother => absurd (hio.symm.trans hother) nofun
  blocking := fun _ _ hother => absurd (hb.symm.trans hother) nofun

/-! ## The handlers -/

theorem IdsTracked.drop (h : IdsTracked s) (cid : ClientId) : IdsTracked (s.drop cid) :=
  h.of_eq rfl h.io h.blocking

theorem IdsTracked.dropWhere (h : IdsTracked s) (p : ControlHandshakeSession → Bool) :
    IdsTracked (s.dropWhere p) :=
  List.foldlRecOn _ ControlPlane.drop h fun _ h cid _ => h.drop cid

section Answers

variable {cid : ClientId} {session : ControlHandshakeSession} {message : HandshakeMessage}
  {turn : HandshakeTurn}

theorem IdsTracked.onHello (h : IdsTracked s) : IdsTracked (s.onHello cid message turn) := by
  unfold ControlPlane.onHello
  split
  · exact h.drop cid
  · split
    · exact h.drop cid
    · exact h.of_eq rfl h.io h.blocking

theorem IdsTracked.onReady (h : IdsTracked s) :
    IdsTracked (s.onReady cid session message turn) := by
  unfold ControlPlane.onReady
  split
  · exact h.drop cid
  · split
    · exact h.drop cid
    · exact h.of_eq rfl h.io h.blocking

theorem IdsTracked.onStartupAck (h : IdsTracked s) :
    IdsTracked (s.onStartupAck cid session message turn) := by
  unfold ControlPlane.onStartupAck
  split
  · exact h.drop cid
  · split
    · exact h.drop cid
    · split
      · exact h.drop cid
      · exact h.of_eq rfl h.io h.blocking

/-- The id is free when the I/O loop goes on to the admission. -/
theorem IdsTracked.onEnd (h : IdsTracked s) : IdsTracked (s.onEnd cid session message) := by
  unfold ControlPlane.onEnd
  split
  · exact h.drop cid
  · split
    · exact h.drop cid
    next hv =>
      split
      · exact h.drop cid
      next identity hs =>
        refine h.of_eq rfl (fun other identity' hother => ?_) h.blocking
        obtain ⟨rfl, rfl⟩ := ControlIo.admitting.inj hother
        rw [hs] at hv
        exact ServerState.freeFor_of_validate h.unique (by simpa using hv)

theorem IdsTracked.handleHandshakeMessage (h : IdsTracked s) :
    IdsTracked (s.handleHandshakeMessage cid message turn) := by
  unfold ControlPlane.handleHandshakeMessage
  split
  next => exact h
  next => exact h.onHello
  next => exact h.onReady
  next => exact h.onStartupAck
  next => exact h.onEnd
  next => exact h

end Answers

theorem IdsTracked.admitSession (h : IdsTracked s) {now : Nat}
    (hapart : s.io = .idle ∨ s.blocking.identified = none) : IdsTracked (s.admitSession now) := by
  unfold ControlPlane.admitSession
  split
  next => exact h
  next cid identity hio =>
    split
    next => exact h.of_eq rfl (fun _ _ hother => (nomatch hother)) h.blocking
    next serverState hadd =>
      have hb := hapart.resolve_left fun hidle => nomatch hidle.symm.trans hio
      exact h.add (h.io cid identity hio) hadd rfl hb

/-! ## `handshake_core` -/

theorem IdsTracked.abort (h : IdsTracked s) (cid : ClientId) : IdsTracked (s.abort cid) :=
  h.of_eq rfl h.io fun _ _ hother => (nomatch hother)

/-- `handshake_core` goes on with an identity only if its id is free. -/
theorem IdsTracked.receiveBlocking (h : IdsTracked s)
    (received : Option (ClientId × HandshakeMessage)) (turn : HandshakeTurn) :
    IdsTracked (s.receiveBlocking received turn) := by
  unfold ControlPlane.receiveBlocking
  split
  next => exact h
  next =>
    split
    · exact h.of_eq rfl h.io fun _ _ hother => (nomatch hother)
    · exact h
  next cid _ _ => exact h.abort cid
  next cid _ _ => exact h.abort cid
  next cid _ _ _ => exact h.abort cid
  next cid requestId sender message hb =>
    split
    · exact h.of_eq rfl h.io fun _ _ hother => (nomatch hother)
    · exact h.abort cid
  next cid requestId sender message hb =>
    split
    · exact h.abort cid
    next identity _ =>
      split
      next hc =>
        refine h.of_eq rfl h.io fun other identity' hother => ?_
        obtain ⟨rfl, rfl⟩ := Prod.mk.inj (Option.some.inj hother)
        exact ServerState.freeFor_of_validate h.unique hc.2.2.1
      next => exact h.abort cid
  next cid identity requestId sender message hb =>
    split
    · refine h.of_eq rfl h.io fun other identity' hother => h.blocking other identity' ?_
      rw [hb]
      exact hother
    · exact h.abort cid
  next => exact h

theorem IdsTracked.admitBlocking (h : IdsTracked s) {now : Nat}
    (hapart : s.io = .idle ∨ s.blocking.identified = none) : IdsTracked (s.admitBlocking now) := by
  unfold ControlPlane.admitBlocking
  split
  next cid identity hb =>
    have hidentified : s.blocking.identified = some (cid, identity) := by rw [hb]; rfl
    split
    next => exact h.abort cid
    next serverState hadd =>
      have hio := hapart.resolve_right fun hnone => nomatch hnone.symm.trans hidentified
      exact h.add (h.blocking cid identity hidentified) hadd hio rfl
  next => exact h

/-! ## Runs -/

theorem IdsTracked.step (h : IdsTracked s) {a : ControlAction} (ha : Apart s a) :
    IdsTracked (s.step a) := by
  cases a with
  | receive cid message turn =>
    show IdsTracked (if s.io = .idle ∧ message.msgType = .handshake then _ else s)
    split
    · exact h.handleHandshakeMessage
    · exact h
  | admitClient now => exact h.admitSession ha
  | expire now =>
    show IdsTracked (if s.io = .idle then _ else s)
    split
    · exact h.dropWhere _
    · exact h
  | clearSessions => exact h.dropWhere _
  | receiveBlocking received turn => exact h.receiveBlocking received turn
  | admitBlocking now => exact h.admitBlocking ha
  | other op =>
    by_cases hop : ∃ clientId identity now, op = .addControlClient clientId identity now
    · obtain ⟨clientId, identity, now, rfl⟩ := hop
      exact h
    · have hne : ∀ clientId identity now, op ≠ .addControlClient clientId identity now :=
        fun clientId identity now heq => hop ⟨clientId, identity, now, heq⟩
      have hstep : s.step (.other op) = { s with serverState := s.serverState.step op } := by
        cases op with
        | addControlClient clientId identity now => exact absurd rfl (hne clientId identity now)
        | _ => rfl
      rw [hstep]
      exact h.of_kept (ServerState.step_identitiesKept op hne) h.io h.blocking
  | restart mode =>
    exact {
      identified := fun _ _ hr => (nomatch hr)
      unique := fun _ _ ⟨_, _, hr, _⟩ => (nomatch hr)
      io := fun _ _ hother => (nomatch hother)
      blocking := fun _ _ hother => (nomatch hother) }

/-- If the I/O loop and `handshake_core` are kept apart, the clients on the control plane have
different multipmt ids, and the search for an id finds its client. -/
theorem multipmtIds_unique (mode : String) (as : List ControlAction)
    (has : Meets ControlPlane.step Apart (started mode) as) :
    (run ControlPlane.step (started mode) as).serverState.MultipmtIdsUnique := by
  have hstart : IdsTracked (started mode) := {
    identified := fun _ _ hr => (nomatch hr)
    unique := fun _ _ ⟨_, _, hr, _⟩ => (nomatch hr)
    io := fun _ _ hother => (nomatch hother)
    blocking := fun _ _ hother => (nomatch hother) }
  exact (run_invariant (fun _ _ h ha => h.step ha) hstart has).multipmtIdsUnique

/-- Two clients with one identity go through the handshake side by side. -/
def sideBySide : List ControlAction := [
  .receive [1] (handshakeMessage .hello none) { requestId := "s1" },
  .receive [2] (handshakeMessage .hello none) { requestId := "t1" },
  .receive [1] (handshakeMessage .ready (some "s1")) { requestId := "s2" },
  .receive [2] (handshakeMessage .ready (some "t1")) { requestId := "t2" },
  .receive [1] (handshakeMessage .startupAck (some "s2")) { requestId := "s3", macClientId := some 0 },
  .receive [2] (handshakeMessage .startupAck (some "t2")) { requestId := "t3", macClientId := some 0 },
  .receive [1] (handshakeMessage .conclusion (some "s3")) { requestId := "s4" },
  .admitClient 0,
  .receive [2] (handshakeMessage .conclusion (some "t3")) { requestId := "t4" },
  .admitClient 0]

/-- The one whose handshake ends first is admitted. -/
theorem multipmtIds_unique_sideBySide :
    (run ControlPlane.step (started "test") sideBySide).serverState.controlClientIds = [[1]] ∧
      (run ControlPlane.step (started "test") sideBySide).serverState.MultipmtIdsUnique :=
  ⟨by decide +kernel, multipmtIds_unique "test" sideBySide (by decide +kernel)⟩

/-- `handshake_core` goes through the handshake of one client. Before the last message, the I/O loop
admits another one with the same identity. -/
def interleaved : List ControlAction := [
  .receiveBlocking (some ([1], handshakeMessage .hello none)) { requestId := "b1" },
  .receiveBlocking (some ([1], handshakeMessage .ready (some "b1"))) { requestId := "b2" },
  .receiveBlocking (some ([1], handshakeMessage .startupAck (some "b2")))
    { requestId := "b3", macClientId := some 0 },
  .receive [2] (handshakeMessage .hello none) { requestId := "t1" },
  .receive [2] (handshakeMessage .ready (some "t1")) { requestId := "t2" },
  .receive [2] (handshakeMessage .startupAck (some "t2")) { requestId := "t3", macClientId := some 0 },
  .receive [2] (handshakeMessage .conclusion (some "t3")) { requestId := "t4" },
  .admitClient 0,
  .receiveBlocking (some ([1], handshakeMessage .conclusion (some "b3"))) { requestId := "b4" },
  .admitBlocking 0]

/-- Both clients are admitted with the id. -/
theorem multipmtId_shared :
    (run ControlPlane.step (started "test") interleaved).serverState.controlClientIds =
        [[2], [1]] ∧
      ¬ (run ControlPlane.step (started "test") interleaved).serverState.MultipmtIdsUnique := by
  refine ⟨by decide +kernel, fun h => ?_⟩
  have hfirst : (run ControlPlane.step (started "test") interleaved).serverState.HasMultipmtId
      [1] "7" := ServerState.mem_multipmtId.1 (by decide +kernel)
  have hsecond : (run ControlPlane.step (started "test") interleaved).serverState.HasMultipmtId
      [2] "7" := ServerState.mem_multipmtId.1 (by decide +kernel)
  exact absurd (h.unique [1] "7" hfirst [2] hsecond) (by decide)

end ControlPlane

end MultiDAQ.Server
