import Mathlib.Data.Set.List
import MultiDAQ.Lib.Conversion
import MultiDAQ.Server.Fleet
import MultiDAQ.Server.ProcessEvent

/-!
# What the elementary updates do to the fleet

`ServerState.fleet` reads the abstract fleet off a server state. The comprehensions over the clients
are its sets (`mem_commonPlaneClientIds` and the like), and each bulk update of `process_event` is
one `Fleet.update`.
-/

namespace MultiDAQ.Server

open MultiDAQ.Lib

/-- The part of a record the abstract server reads. -/
def ClientRecord.member (r : ClientRecord) : Member where
  state := r.state
  onControl := r.onControlPlane
  onAcquisition := r.onAcquisitionPlane
  onMonitoring := r.onMonitoringPlane
  operational := r.operational
  mac := r.identity.bind (·.macAddress)

@[simp] theorem ClientRecord.member_setState (r : ClientRecord) (state : ClientFSM)
    (context : EventContext) :
    (r.setState state context).member = { r.member with state := state } := rfl

/-- A finalization puts no client under configuration. -/
theorem Member.finalized_configuring {m : Member} {terminal : ServerFSM}
    (h : (m.finalized terminal).state = .configuring) : m.state = .configuring := by
  cases terminal with
  | controlConnected => cases hc : m.onControl <;> simp [Member.finalized, hc] at h
  | ready | disconnected | connected | error => cases h
  | configuring | acquiring | finalizing => exact h

/-- The fleet of a server state. -/
def ServerState.fleet (s : ServerState) : Fleet ClientId where
  runState := s.runState
  pending := s.pendingTerminalState
  source := s.pendingConfigurationSource
  isPartial := s.pendingConfigurationPartial
  member := fun cid => (s.clients.get? cid).map ClientRecord.member
  index := fun mac => s.clientIdByMac.get? mac

namespace Fleet

variable {ι : Type}

theorem ext {f g : Fleet ι} (h₁ : f.runState = g.runState) (h₂ : f.pending = g.pending)
    (h₃ : f.source = g.source) (h₄ : f.isPartial = g.isPartial)
    (h₅ : ∀ i, f.member i = g.member i) (h₆ : ∀ mac, f.index mac = g.index mac) : f = g := by
  cases f; cases g
  obtain rfl := funext h₅
  obtain rfl := funext h₆
  simp_all

@[simp] theorem update_update (f : Fleet ι) (g h : ι → Member → Member) :
    (f.update g).update h = f.update fun i m => h i (g i m) := by
  refine ext rfl rfl rfl rfl (fun i => ?_) fun _ => rfl
  simp [Function.comp_def]

theorem update_id (f : Fleet ι) : f.update (fun _ m => m) = f := by
  refine ext rfl rfl rfl rfl (fun i => ?_) fun _ => rfl
  simp

theorem update_congr (f : Fleet ι) {g h : ι → Member → Member}
    (e : ∀ i m, f.member i = some m → g i m = h i m) : f.update g = f.update h := by
  refine ext rfl rfl rfl rfl (fun i => ?_) fun _ => rfl
  cases hm : f.member i with
  | none => simp [hm]
  | some m => simp [hm, e i m hm]

/-- Every member satisfies `P`. -/
def All (f : Fleet ι) (P : ι → Member → Prop) : Prop := ∀ i m, f.member i = some m → P i m

theorem All.update {f : Fleet ι} {P Q : ι → Member → Prop} {g : ι → Member → Member} (h : f.All P)
    (hg : ∀ i m, f.member i = some m → P i m → Q i (g i m)) : (f.update g).All Q := by
  intro i m hm
  obtain ⟨m₀, hm₀, rfl⟩ := Option.map_eq_some_iff.1 hm
  exact hg i m₀ hm₀ (h i m₀ hm₀)

end Fleet

namespace ServerState

variable (s : ServerState)

@[simp] theorem fleet_runState : s.fleet.runState = s.runState := rfl

@[simp] theorem fleet_pending : s.fleet.pending = s.pendingTerminalState := rfl

@[simp] theorem fleet_source : s.fleet.source = s.pendingConfigurationSource := rfl

@[simp] theorem fleet_isPartial : s.fleet.isPartial = s.pendingConfigurationPartial := rfl

@[simp] theorem fleet_member (cid : ClientId) :
    s.fleet.member cid = (s.clients.get? cid).map ClientRecord.member := rfl

@[simp] theorem fleet_index (mac : String) :
    s.fleet.index mac = s.clientIdByMac.get? mac := rfl

/-! ## Comprehensions -/

theorem mem_keysWhere_fleet {p : ClientRecord → Bool} {q : Member → Prop}
    (hpq : ∀ r, p r = true ↔ q r.member) {cid : ClientId} :
    cid ∈ s.clients.keysWhere p ↔ ∃ m, s.fleet.member cid = some m ∧ q m := by
  rw [Dict.mem_keysWhere]
  cases h : s.clients.get? cid with
  | none => simp [h]
  | some r => simp [h, hpq]

variable {s}

theorem mem_commonPlaneClientIds {cid : ClientId} :
    cid ∈ s.commonPlaneClientIds ↔ cid ∈ s.fleet.common :=
  s.mem_keysWhere_fleet fun r => by
    simp [ClientRecord.onCommonPlanes, Member.onCommon, ClientRecord.member]

theorem mem_operationalClientIds {cid : ClientId} :
    cid ∈ s.operationalClientIds ↔ cid ∈ s.fleet.operational :=
  s.mem_keysWhere_fleet fun r => by simp [ClientRecord.member]

theorem mem_listClientsInState {state : ClientFSM} {cid : ClientId} :
    cid ∈ s.listClientsInState state ↔ cid ∈ s.fleet.inState state :=
  s.mem_keysWhere_fleet fun r => by simp [ClientRecord.member]

/-! ## Bulk updates -/

/-- An update of the clients that acts on the members as `g` is `Fleet.update g`. -/
theorem fleet_mapVals {f : ClientId → ClientRecord → ClientRecord}
    {g : ClientId → Member → Member} (h : ∀ cid r, (f cid r).member = g cid r.member) :
    { s with clients := s.clients.mapVals f }.fleet = s.fleet.update g := by
  refine Fleet.ext rfl rfl rfl rfl (fun cid => ?_) fun _ => rfl
  cases hr : s.clients.get? cid <;> simp [hr, h]

theorem fleet_modify {cid : ClientId} {f : ClientRecord → ClientRecord} {g : Member → Member}
    (h : ∀ r, (f r).member = g r.member) :
    { s with clients := s.clients.modify cid f }.fleet =
      s.fleet.update fun i m => if i = cid then g m else m :=
  fleet_mapVals fun i r => by split <;> simp [h]

theorem fleet_setOperational (ids : List ClientId) :
    (s.setOperational ids).fleet =
      s.fleet.update fun i m => { m with operational := ids.contains i } :=
  fleet_mapVals fun _ _ => rfl

@[simp] theorem fleet_clearOperational :
    s.clearOperational.fleet = s.fleet.update fun _ m => { m with operational := false } :=
  fleet_mapVals fun _ _ => rfl

theorem fleet_markOperational (ids : List ClientId) (value : Bool) :
    (s.markOperational ids value).fleet =
      s.fleet.update fun i m => if i ∈ ids then { m with operational := value } else m :=
  fleet_mapVals fun i r => by
    by_cases h : i ∈ ids <;> simp [h, ClientRecord.member]

theorem fleet_setClientState (cid : ClientId) (state : ClientFSM) (context : EventContext) :
    (s.setClientState cid state context).fleet =
      s.fleet.update fun i m => if i = cid then { m with state := state } else m :=
  fleet_modify fun _ => rfl

/-- A loop over `ids` whose body acts on one member as an idempotent `g` acts on all of them once. -/
theorem fleet_foldl {body : ServerState → ClientId → ServerState} {g : Member → Member}
    (hbody : ∀ s cid, (body s cid).fleet = s.fleet.update fun i m => if i = cid then g m else m)
    (hg : ∀ m, g (g m) = g m) : ∀ (ids : List ClientId) (s : ServerState),
    (ids.foldl body s).fleet = s.fleet.update fun i m => if i ∈ ids then g m else m
  | [], s => by simpa using (Fleet.update_id s.fleet).symm
  | cid :: ids, s => by
    rw [List.foldl_cons, fleet_foldl hbody hg ids, hbody, Fleet.update_update]
    refine Fleet.update_congr _ fun i m _ => ?_
    by_cases h₁ : i = cid <;> by_cases h₂ : i ∈ ids <;> simp [h₁, h₂, hg]

theorem fleet_setClientStates (ids : List ClientId) (state : ClientFSM) (context : EventContext) :
    (s.setClientStates ids state context).fleet =
      s.fleet.update fun i m => if i ∈ ids then { m with state := state } else m :=
  fleet_foldl (fun _ cid => fleet_setClientState cid state context) (fun _ => rfl) ids s

/-- The loops of a finalization, for a target that does not read what the loop has changed. -/
theorem fleet_releaseClients {target : ClientRecord → ClientFSM} {t : Member → ClientFSM}
    (ht : ∀ r, target r = t r.member)
    (hframe : ∀ m : Member, t { m with operational := false, state := t m } = t m)
    (ids : List ClientId) (context : EventContext) :
    (s.releaseClients ids target context).fleet = s.fleet.update fun i m =>
      if i ∈ ids then { m with operational := false, state := t m } else m :=
  fleet_foldl (g := fun m => { m with operational := false, state := t m })
    (fun _ _ => fleet_modify fun r => by
      rw [ClientRecord.member_setState, ht]; rfl)
    (fun m => by simp [hframe]) ids s

/-! ## What they leave alone -/

/-- Every record of `d'` is one of `d` as far as its identity goes. -/
def IdentitiesKept (d d' : Dict ClientId ClientRecord) : Prop :=
  ∀ cid r', d'.get? cid = some r' → ∃ r, d.get? cid = some r ∧ r.identity = r'.identity

theorem IdentitiesKept.refl (d : Dict ClientId ClientRecord) : IdentitiesKept d d :=
  fun _ r' h => ⟨r', h, rfl⟩

theorem IdentitiesKept.trans {d₁ d₂ d₃ : Dict ClientId ClientRecord} (h₁ : IdentitiesKept d₁ d₂)
    (h₂ : IdentitiesKept d₂ d₃) : IdentitiesKept d₁ d₃ := by
  intro cid r₃ hr₃
  obtain ⟨r₂, hr₂, h₃⟩ := h₂ cid r₃ hr₃
  obtain ⟨r₁, hr₁, h₂⟩ := h₁ cid r₂ hr₂
  exact ⟨r₁, hr₁, h₂.trans h₃⟩

theorem identitiesKept_mapVals (d : Dict ClientId ClientRecord)
    {f : ClientId → ClientRecord → ClientRecord} (hf : ∀ cid r, (f cid r).identity = r.identity) :
    IdentitiesKept d (d.mapVals f) := by
  intro cid r' h
  rw [Dict.get?_mapVals, Option.map_eq_some_iff] at h
  obtain ⟨r, hr, rfl⟩ := h
  exact ⟨r, hr, (hf cid r).symm⟩

theorem identitiesKept_modify (d : Dict ClientId ClientRecord) (cid : ClientId)
    {f : ClientRecord → ClientRecord} (hf : ∀ r, (f r).identity = r.identity) :
    IdentitiesKept d (d.modify cid f) := by
  refine identitiesKept_mapVals d fun other r => ?_
  split
  · exact hf r
  · rfl

/-- `s'` differs from `s` in the clients and in the kind of the pending configuration only. -/
def ClientsOnly (s s' : ServerState) : Prop :=
  ∃ clients isPartial, s' = { s with
    clients := clients, pendingConfigurationPartial := isPartial }

/-- Of the clients, the identities do not differ either. -/
def RecordsOnly (s s' : ServerState) : Prop :=
  ClientsOnly s s' ∧ IdentitiesKept s.clients s'.clients

theorem RecordsOnly.refl (s : ServerState) : RecordsOnly s s := ⟨⟨_, _, rfl⟩, .refl _⟩

theorem RecordsOnly.trans {s₁ s₂ s₃ : ServerState} (h₁ : RecordsOnly s₁ s₂)
    (h₂ : RecordsOnly s₂ s₃) : RecordsOnly s₁ s₃ := by
  refine ⟨?_, h₁.2.trans h₂.2⟩
  obtain ⟨d₁, p₁, rfl⟩ := h₁.1
  obtain ⟨d₂, p₂, rfl⟩ := h₂.1
  exact ⟨d₂, p₂, rfl⟩

theorem recordsOnly_pendingPartial (s : ServerState) (isPartial : Bool) :
    RecordsOnly s { s with pendingConfigurationPartial := isPartial } := ⟨⟨_, _, rfl⟩, .refl _⟩

theorem recordsOnly_mapVals (s : ServerState) {f : ClientId → ClientRecord → ClientRecord}
    (hf : ∀ cid r, (f cid r).identity = r.identity) :
    RecordsOnly s { s with clients := s.clients.mapVals f } :=
  ⟨⟨_, _, rfl⟩, identitiesKept_mapVals _ hf⟩

theorem recordsOnly_modify (s : ServerState) (cid : ClientId) {f : ClientRecord → ClientRecord}
    (hf : ∀ r, (f r).identity = r.identity) :
    RecordsOnly s { s with clients := s.clients.modify cid f } :=
  ⟨⟨_, _, rfl⟩, identitiesKept_modify _ _ hf⟩

theorem recordsOnly_setOperational (s : ServerState) (ids : List ClientId) :
    RecordsOnly s (s.setOperational ids) :=
  recordsOnly_mapVals s fun _ _ => rfl

theorem recordsOnly_clearOperational (s : ServerState) : RecordsOnly s s.clearOperational :=
  recordsOnly_mapVals s fun _ _ => rfl

theorem recordsOnly_markOperational (s : ServerState) (ids : List ClientId) (value : Bool) :
    RecordsOnly s (s.markOperational ids value) :=
  recordsOnly_mapVals s fun _ _ => by split <;> rfl

theorem recordsOnly_foldl {body : ServerState → ClientId → ServerState}
    (hbody : ∀ s cid, RecordsOnly s (body s cid)) : ∀ (ids : List ClientId) (s : ServerState),
    RecordsOnly s (ids.foldl body s)
  | [], s => .refl s
  | cid :: ids, s => (hbody s cid).trans (recordsOnly_foldl hbody ids _)

theorem recordsOnly_setClientStates (ids : List ClientId) (state : ClientFSM)
    (context : EventContext) : RecordsOnly s (s.setClientStates ids state context) := by
  refine recordsOnly_foldl (fun s cid => ?_) ids s
  exact recordsOnly_modify s cid (f := fun r => r.setState state context) fun _ => rfl

theorem recordsOnly_releaseClients (ids : List ClientId) (target : ClientRecord → ClientFSM)
    (context : EventContext) : RecordsOnly s (s.releaseClients ids target context) := by
  refine recordsOnly_foldl (fun s cid => ?_) ids s
  exact recordsOnly_modify s cid
    (f := fun r => { r with operational := false }.setState (target r) context) fun _ => rfl

end ServerState

/-! ## Lists of client ids -/

theorem toClientId_eq_some {x : PyId} {cid : ClientId} :
    x.toClientId = some cid ↔ x = .bytes cid ∧ cid ≠ [] := by
  rcases x with ⟨_ | ⟨b, bs⟩⟩ | r <;> simp [PyId.toClientId]
  rintro rfl; simp

theorem mapM_toClientId_eq_some {ids : List PyId} {l : List ClientId} :
    ids.mapM PyId.toClientId = some l ↔ ids = l.map .bytes ∧ ∀ cid ∈ l, cid ≠ [] :=
  mapM_eq_some_iff_of_form fun _ _ => toClientId_eq_some

/-- Normalization keeps exactly the ids of the list. -/
theorem mem_normalizeClientIds {ids : Option (List PyId)} {l : List ClientId}
    (h : normalizeClientIds ids = some l) {cid : ClientId} :
    cid ∈ l ↔ ∃ l', ids = some l' ∧ PyId.bytes cid ∈ l' := by
  cases ids with
  | none => simp [normalizeClientIds] at h; subst h; simp
  | some ids =>
    obtain ⟨hids, -⟩ := mapM_toClientId_eq_some.1 h
    simp only [Option.some.injEq, exists_eq_left']
    rw [← List.mem_eraseDups (l := ids), hids]
    simp

theorem ne_nil_of_mem_normalize {ids : Option (List PyId)} {l : List ClientId}
    (h : normalizeClientIds ids = some l) {cid : ClientId} (hcid : cid ∈ l) : cid ≠ [] := by
  cases ids with
  | none => simp [normalizeClientIds] at h; subst h; cases hcid
  | some ids => exact (mapM_toClientId_eq_some.1 h).2 cid hcid

/-- A list of non-empty ids is normalized without an error. -/
theorem normalizeClientIds_bytes {l : List ClientId} (h : ∀ cid ∈ l, cid ≠ []) :
    ∃ l', normalizeClientIds (some (l.map .bytes)) = some l' ∧ ∀ cid, cid ∈ l' ↔ cid ∈ l := by
  have hrange : (l.map PyId.bytes).eraseDups ∈ Set.range (List.map PyId.bytes) := by
    rw [Set.range_list_map]
    intro x hx
    obtain ⟨cid, -, rfl⟩ := List.mem_map.1 (List.mem_eraseDups.1 hx)
    exact ⟨cid, rfl⟩
  obtain ⟨l', hl'⟩ := hrange
  have hmem (cid : ClientId) : cid ∈ l' ↔ cid ∈ l := by
    have hbytes : PyId.bytes cid ∈ l'.map .bytes ↔ PyId.bytes cid ∈ l.map .bytes := by
      rw [hl', List.mem_eraseDups]
    simpa using hbytes
  refine ⟨l', ?_, hmem⟩
  exact mapM_toClientId_eq_some.2 ⟨hl'.symm, fun cid hcid => h cid ((hmem cid).1 hcid)⟩

theorem sameIds_iff {a b : List ClientId} : sameIds a b = true ↔ ∀ cid, cid ∈ a ↔ cid ∈ b := by
  simp only [sameIds, Bool.and_eq_true, List.all_eq_true, List.contains_iff_mem]
  exact ⟨fun h cid => ⟨h.1 cid, h.2 cid⟩, fun h => ⟨fun c => (h c).1, fun c => (h c).2⟩⟩

end MultiDAQ.Server
