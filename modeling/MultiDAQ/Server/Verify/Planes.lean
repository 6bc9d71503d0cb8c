import MultiDAQ.Server.Verify.Refine

/-!
# Planes and the client index

An operational client is on the control and on the acquisition plane, and no client is on another
plane without being on the control plane: that holds of every fleet the server can come to. What a
client leaves behind when it is forgotten depends on the index by MAC address, which is only right
as long as no client registers again under another address (`ServerState.KeepsMac`).
-/

namespace MultiDAQ.Server

open MultiDAQ.Lib

/-! ## Planes -/

/-- The planes of one member go with each other. -/
structure Member.PlanesOk (m : Member) : Prop where
  operational : m.operational = true → m.onControl = true ∧ m.onAcquisition = true
  control : m.onAcquisition = true ∨ m.onMonitoring = true → m.onControl = true

/-- A member that keeps its two command planes and gains no flag. -/
theorem Member.PlanesOk.mono {m m' : Member} (h : m.PlanesOk)
    (ho : m'.operational = true → m.operational = true) (hc : m'.onControl = m.onControl)
    (ha : m'.onAcquisition = m.onAcquisition)
    (hm : m'.onMonitoring = true → m.onMonitoring = true) : m'.PlanesOk := by
  refine ⟨fun h' => ?_, fun h' => ?_⟩
  · rw [hc, ha]; exact h.operational (ho h')
  · rw [hc]; exact h.control (h'.imp (ha ▸ ·) hm)

theorem Member.PlanesOk.finalized {m : Member} (h : m.PlanesOk) (terminal : ServerFSM) :
    (m.finalized terminal).PlanesOk := by
  cases terminal <;> exact h.mono (by simp [Member.finalized]) rfl rfl id

theorem Member.finalized_mac (m : Member) (terminal : ServerFSM) :
    (m.finalized terminal).mac = m.mac := by
  cases terminal <;> rfl

namespace Fleet

variable {ι : Type} [DecidableEq ι] {f : Fleet ι}

/-- An enabled action keeps the planes of every member. -/
theorem planesOk_after {a : Act ι} (he : f.Enabled a) (h : f.All fun _ m => m.PlanesOk) :
    (f.after a).All fun _ m => m.PlanesOk := by
  -- the actions that update the members, with the three that grant a flag first
  cases a with
  | configured successful failed =>
    refine h.update fun i m hm hp => ⟨fun ho => ?_, hp.control⟩
    by_cases hi : i ∈ successful
    · obtain ⟨m', hm', hc⟩ := he.2.2.2.2 hi
      exact Option.some.inj (hm.symm.trans hm') ▸ hc
    · simp only [hi, if_false] at ho
      split at ho
      · exact hp.operational ho
      · cases ho
  | acquire active =>
    refine h.update fun i m hm hp => hp.mono (fun ho => ?_) rfl rfl id
    have hi : i ∈ active := by simpa using ho
    obtain ⟨m', hm', ho'⟩ := he.2.2.1 hi
    exact Option.some.inj (hm.symm.trans hm') ▸ ho'
  | setOperational ids =>
    refine h.update fun i m hm hp => ⟨fun ho => ?_, hp.control⟩
    have hi : i ∈ ids := by simpa using ho
    obtain ⟨m', hm', hc⟩ := he hi
    exact Option.some.inj (hm.symm.trans hm') ▸ hc
  | joinAcquisition i =>
    refine h.update fun j m hm hp => ?_
    split
    · next hj =>
      obtain ⟨m', hm', hc⟩ := he
      obtain rfl : m = m' := Option.some.inj (hm.symm.trans (hj ▸ hm'))
      exact ⟨fun _ => ⟨hc, rfl⟩, fun _ => hc⟩
    · exact hp
  | joinMonitoring i =>
    refine h.update fun j m hm hp => ?_
    split
    · next hj =>
      obtain ⟨m', hm', hc⟩ := he
      obtain rfl : m = m' := Option.some.inj (hm.symm.trans (hj ▸ hm'))
      exact ⟨hp.operational, fun _ => hc⟩
    · exact hp
  | enlist i identity =>
    intro j m hj
    simp only [after] at hj
    split at hj
    · obtain rfl := Option.some.inj hj
      refine ⟨fun ho => ⟨rfl, ?_⟩, fun _ => rfl⟩
      cases hm : f.member i with
      | none => simp [hm, Member.admitted, Member.new] at ho
      | some m₀ =>
        simp only [hm, Member.admitted, Option.getD_some] at ho ⊢
        exact ((h i m₀ hm).operational ho).2
    · exact h j m hj
  | forget i =>
    intro j m hj
    simp only [after] at hj
    split at hj
    · cases hj
    · exact h j m hj
  | leaveAcquisition i =>
    refine h.update fun j m _ hp => ?_
    split
    · refine ⟨fun ho => (by cases ho), fun hm => hp.control (.inr (hm.resolve_left ?_))⟩
      exact Bool.false_ne_true
    · exact hp
  | clearAcquisition =>
    refine h.update fun j m _ hp => ?_
    split
    · refine ⟨fun ho => (by cases ho), fun hm => hp.control (.inr (hm.resolve_left ?_))⟩
      exact Bool.false_ne_true
    · exact hp
  | finalized =>
    refine h.update fun i m _ hp => ?_
    split
    · exact hp.finalized _
    · exact hp
  | configure targets isPartial =>
    refine h.update fun i m _ hp => hp.mono (fun ho => ?_) rfl rfl id
    simp only at ho
    split at ho
    · exact ho
    · cases ho
  | configurationFailed =>
    refine h.update fun i m _ hp => hp.mono (fun ho => ?_) rfl rfl id
    simp only at ho
    split at ho
    · exact ho
    · cases ho
  | fatal | reset | clearOperational => 
    exact h.update fun i m _ hp => hp.mono (fun ho => (by cases ho)) rfl rfl id
  | clearMonitoring => 
    exact h.update fun i m _ hp => hp.mono id rfl rfl fun hm => by cases hm
  | finalize event terminal => exact h.update fun i m _ hp => hp.mono id rfl rfl id
  | leaveMonitoring i | dropOperational i | clientEvent i event =>
    refine h.update fun j m _ hp => ?_
    split
    · exact hp.mono (by simp) rfl rfl (by simp)
    · exact hp
  | idle | move event next | noteSource | clearPending => exact h

/-! ## The index -/

/-- An entry of the index is the MAC address of a registered client. -/
def IndexOk (f : Fleet ι) : Prop :=
  ∀ mac i, f.index mac = some i → ∃ m v, f.member i = some m ∧ m.mac = some v ∧ v.text = mac

/-- A registration under an index entry keeps the address of the entry. -/
def Act.KeepsMac (f : Fleet ι) : Act ι → Prop
  | .enlist i (some identity) =>
    ∀ mac, f.index mac = some i → ∃ v, identity = some v ∧ v.text = mac
  | _ => True

omit [DecidableEq ι] in
theorem indexedMac_eq_some {identity : Option (Option PyValue)} {mac : String}
    (h : indexedMac identity = some mac) :
    ∃ v, identity = some (some v) ∧ v.text = mac := by
  obtain ⟨v, hv, ht⟩ := Option.bind_eq_some_iff.1 h
  split at ht
  · rcases identity with _ | _ | w
    · cases hv
    · cases hv
    · exact ⟨w, rfl, Option.some.inj hv ▸ Option.some.inj ht⟩
  · cases ht

theorem indexOk_after {a : Act ι} (hk : a.KeepsMac f) (h : f.IndexOk) : (f.after a).IndexOk := by
  -- all but two actions keep the index and the address of every member
  have hsame (hindex : (f.after a).index = f.index)
      (hmac : ∀ i m, f.member i = some m → ∃ m', (f.after a).member i = some m' ∧ m'.mac = m.mac) :
      (f.after a).IndexOk := by
    intro mac i hi
    obtain ⟨m, v, hm, hv, ht⟩ := h mac i (hindex ▸ hi)
    obtain ⟨m', hm', hv'⟩ := hmac i m hm
    exact ⟨m', v, hm', hv'.trans hv, ht⟩
  cases a with
  | enlist i identity =>
    intro mac j hj
    simp only [after] at hj ⊢
    by_cases hmac : indexedMac identity = some mac
    · rw [if_pos hmac] at hj
      obtain rfl := Option.some.inj hj
      obtain ⟨v, rfl, ht⟩ := indexedMac_eq_some hmac
      exact ⟨_, v, if_pos rfl, rfl, ht⟩
    · rw [if_neg hmac] at hj
      obtain ⟨m, v, hm, hv, ht⟩ := h mac j hj
      by_cases hij : j = i
      · subst hij
        simp only [if_true, hm, Option.getD_some]
        cases identity with
        | none => exact ⟨_, v, rfl, hv, ht⟩
        | some identity =>
          obtain ⟨w, rfl, hw⟩ := hk mac hj
          exact ⟨_, w, rfl, rfl, hw⟩
      · exact ⟨m, v, by simp [hij, hm], hv, ht⟩
  | forget i =>
    intro mac j hj
    simp only [after] at hj ⊢
    split at hj
    · cases hj
    · next hne =>
      obtain ⟨m, v, hm, hv, ht⟩ := h mac j hj
      have hij : j ≠ i := by
        rintro rfl
        exact hne ⟨hj, m, v, hm, hv, ht⟩
      exact ⟨m, v, by simp [hij, hm], hv, ht⟩
  | idle | move event next | noteSource | clearPending =>
    exact hsame rfl fun i m hm => ⟨m, hm, rfl⟩
  | finalized =>
    refine hsame rfl fun i m hm => ⟨_, congrArg (Option.map _) hm, ?_⟩
    dsimp only
    split
    · exact Member.finalized_mac m _
    · rfl
  | configure _ _ | configured _ _ | configurationFailed | acquire _ | fatal | finalize _ _
  | reset | clearMonitoring | setOperational _ | clearOperational =>
    exact hsame rfl fun i m hm => ⟨_, congrArg (Option.map _) hm, rfl⟩
  | clientEvent _ _ | joinAcquisition _ | leaveAcquisition _ | clearAcquisition
  | joinMonitoring _ | leaveMonitoring _ | dropOperational _ =>
    refine hsame rfl fun i m hm => ⟨_, congrArg (Option.map _) hm, ?_⟩
    dsimp only
    split <;> rfl

end Fleet

namespace ServerState

variable {s : ServerState}

/-- The registry is consistent: the planes of every client go with each other, and nothing refers
to a client that is not registered. -/
structure RegistryOk (s : ServerState) : Prop where
  operational : ∀ cid r, s.clients.get? cid = some r → r.operational = true →
    r.onControlPlane = true ∧ r.onAcquisitionPlane = true
  control : ∀ cid r, s.clients.get? cid = some r →
    r.onAcquisitionPlane = true ∨ r.onMonitoringPlane = true → r.onControlPlane = true
  planes : ∀ cid, s.clients.get? cid = none → cid ∉ s.controlClientIds ∧
    cid ∉ s.acquisitionClientIds ∧ cid ∉ s.monitoringClientIds ∧ cid ∉ s.commonPlaneClientIds
  targets : ∀ cid, s.clients.get? cid = none →
    cid ∉ s.operationalClientIds ∧ ∀ state, cid ∉ s.listClientsInState state
  index : ∀ cid, s.clients.get? cid = none → ∀ mac, s.clientIdByMac.get? mac ≠ some cid

/-- A registration of a client that the index knows keeps the MAC address it is known under. -/
def KeepsMac (s : ServerState) (op : ServerOp) : Prop :=
  match op with
  | .addControlClient (.bytes cid) (some identity) _ =>
    ∀ mac, s.clientIdByMac.get? mac = some cid →
      ∃ v, identity.macAddress = some v ∧ v.text = mac
  | _ => True

theorem Acts.keepsMac {op : ServerOp} {a : Fleet.Act ClientId} (ha : op.Acts a)
    (hk : s.KeepsMac op) : a.KeepsMac s.fleet := by
  cases a with
  | enlist cid identity =>
    cases op <;> simp [ServerOp.Acts, Fleet.Act.OfEvent] at ha
    obtain ⟨rfl, -, rfl⟩ := ha
    next identity _ =>
    cases identity with
    | none => trivial
    | some identity => exact hk
  | _ => trivial

theorem not_mem_keysWhere {cid : ClientId} (h : s.clients.get? cid = none)
    (p : ClientRecord → Bool) : cid ∉ s.clients.keysWhere p := by
  intro hm
  obtain ⟨r, hr, -⟩ := Dict.mem_keysWhere.1 hm
  exact absurd (h.symm.trans hr) nofun

theorem registryOk_of_fleet (hp : s.fleet.All fun _ m => m.PlanesOk) (hi : s.fleet.IndexOk) :
    s.RegistryOk := by
  have hmember {cid : ClientId} {r : ClientRecord} (hr : s.clients.get? cid = some r) :
      r.member.PlanesOk := hp cid r.member (by simp [hr])
  refine ⟨fun cid r hr => (hmember hr).operational, fun cid r hr => (hmember hr).control,
    fun cid h => ⟨not_mem_keysWhere h _, not_mem_keysWhere h _, not_mem_keysWhere h _,
      not_mem_keysWhere h _⟩,
    fun cid h => ⟨not_mem_keysWhere h _, fun _ => not_mem_keysWhere h _⟩, fun cid h mac hm => ?_⟩
  obtain ⟨m, v, hreg, -⟩ := hi mac cid hm
  simp [h] at hreg

/-- In a run whose registrations keep the MAC address, the registry is consistent throughout. -/
theorem registryOk_along {mode : String} {ops pre : List ServerOp}
    (h : Meets step KeepsMac (init mode) ops) (hpre : pre <+: ops) :
    ((init mode).runOps pre).RegistryOk := by
  have hinv : ((init mode).runOps pre).fleet.PendingAllowed ∧
      ((init mode).runOps pre).fleet.All (fun _ m => m.PlanesOk) ∧
      ((init mode).runOps pre).fleet.IndexOk := by
    refine run_invariant_along (I := fun s => s.fleet.PendingAllowed ∧
      s.fleet.All (fun _ m => m.PlanesOk) ∧ s.fleet.IndexOk) ?_ ⟨nofun, nofun, nofun⟩ h hpre
    intro s op ⟨hpending, hplanes, hindex⟩ hk
    obtain ⟨a, ha, he, hf⟩ := s.step_act op hpending
    rw [hf]
    exact ⟨pendingAllowed_after ha hpending, Fleet.planesOk_after he hplanes,
      Fleet.indexOk_after (Acts.keepsMac ha hk) hindex⟩
  exact registryOk_of_fleet hinv.2.1 hinv.2.2

/-- A client that registers under one MAC address, then under another, and is removed. -/
def registeredTwice : List ServerOp :=
  [.addControlClient (.bytes [65]) (some { macAddress := some ⟨"00:11", true⟩ }) 0,
   .addControlClient (.bytes [65]) (some { macAddress := some ⟨"00:22", true⟩ }) 1,
   .removeClient [65]]

/-- The index still knows the client under its first address. -/
theorem removed_client_left_in_index :
    ¬∀ mode (ops : List ServerOp), ((init mode).runOps ops).RegistryOk := by
  intro h
  exact (h "test" registeredTwice).index [65] (by decide) "00:11" (by decide)

/-- A client that registers under one MAC address twice, and is removed. -/
def registeredAgain : List ServerOp :=
  [.addControlClient (.bytes [65]) (some { macAddress := some ⟨"00:11", true⟩ }) 0,
   .addControlClient (.bytes [65]) (some { macAddress := some ⟨"00:11", true⟩ }) 1,
   .removeClient [65]]

theorem registryOk_registeredAgain : ((init "test").runOps registeredAgain).RegistryOk := by
  have h : Meets step KeepsMac (init "test") registeredAgain := by
    refine ⟨nofun, fun mac hmac => ⟨_, rfl, ?_⟩, trivial, trivial⟩
    have hset : (Dict.empty.set "00:11" [65] : Dict String ClientId).get? mac = some [65] := hmac
    by_contra hne
    simp [Ne.symm hne] at hset
  exact registryOk_along h ⟨[], rfl⟩

end ServerState

end MultiDAQ.Server
