import MultiDAQ.Server.Verify.Planes

/-!
# The index of the clients by MAC address

`client_id_by_mac` is kept by hand next to the table of the clients: `add_control_client` writes the
entry of the identity it is given, `_forget_client_locked` removes the entry of the identity it
finds. `macIndex_along_iff` says which runs keep the two in step, for the two ways in which a lookup
can be right: it answers exactly the client that has the address (`MacIndexExact`), or a client that
has it whenever there is one (`MacIndexServes`).
-/

namespace MultiDAQ.Server

open MultiDAQ.Lib

namespace Fleet

variable {ι : Type} {f : Fleet ι} {a : Act ι}

/-- The MAC address a registered client is to be found under. -/
def macOf (f : Fleet ι) (i : ι) : Option String := indexedMac ((f.member i).map (·.mac))

/-- A lookup answers a client exactly when it has the address. -/
def IndexExact (f : Fleet ι) : Prop := ∀ mac i, f.index mac = some i ↔ f.macOf i = some mac

/-- What a lookup answers is a client that has the address. -/
def IndexSound (f : Fleet ι) : Prop := ∀ mac i, f.index mac = some i → f.macOf i = some mac

/-- An address that a client has is answered. -/
def IndexTotal (f : Fleet ι) : Prop := ∀ mac i, f.macOf i = some mac → (f.index mac).isSome

/-- A registration with an identity over an entry of the same client for another address. -/
def LeavesStale (f : Fleet ι) : Act ι → Prop
  | .enlist i (some v) => ∃ mac, f.index mac = some i ∧ indexedMac (some v) ≠ some mac
  | _ => False

/-- A registration with an address that another client has. -/
def Duplicates (f : Fleet ι) : Act ι → Prop
  | .enlist i (some v) => ∃ mac j, indexedMac (some v) = some mac ∧ j ≠ i ∧ f.macOf j = some mac
  | _ => False

/-- The removal of the client that is answered for an address which another client has as well. -/
def Hides (f : Fleet ι) : Act ι → Prop
  | .forget i => ∃ mac j, f.index mac = some i ∧ j ≠ i ∧ f.macOf j = some mac
  | _ => False

/-- The actions that touch the index or the identity of a client. -/
def Act.Registers : Act ι → Prop
  | .enlist _ _ | .forget _ => True
  | _ => False

theorem IndexExact.sound (h : f.IndexExact) : f.IndexSound := fun mac i => (h mac i).1

theorem macOf_update {g : ι → Member → Member} (h : ∀ i m, (g i m).mac = m.mac) :
    (f.update g).macOf = f.macOf := by
  funext i
  unfold macOf
  cases hm : f.member i with
  | none => simp [hm]
  | some m => simp [hm, h]

variable [DecidableEq ι]

/-- An action that does not register leaves the index and the addresses as they are. -/
theorem macOf_after_of_not_registers (h : ¬a.Registers) :
    (f.after a).macOf = f.macOf ∧ (f.after a).index = f.index := by
  cases a with
  | enlist i identity | forget i => exact absurd trivial h
  | finalized =>
    refine ⟨?_, rfl⟩
    refine (macOf_update fun i m => ?_ : _ = f.macOf)
    split
    · exact Member.finalized_mac m _
    · rfl
  | idle | move _ _ | noteSource | clearPending => exact ⟨rfl, rfl⟩
  | clientEvent _ _ | joinAcquisition _ | leaveAcquisition _ | clearAcquisition
  | joinMonitoring _ | leaveMonitoring _ | dropOperational _ =>
    refine ⟨macOf_update fun i m => ?_, rfl⟩
    split <;> rfl
  | _ => exact ⟨macOf_update fun i m => rfl, rfl⟩

theorem macOf_enlist (i j : ι) (identity : Option (Option PyValue)) :
    (f.after (.enlist i identity)).macOf j =
      if j = i then (if identity = none then f.macOf i else indexedMac identity)
      else f.macOf j := by
  unfold macOf
  by_cases hj : j = i
  · subst hj
    cases identity with
    | none => cases hm : f.member j <;> simp [after, hm, Member.admitted, Member.new, indexedMac]
    | some v => cases hm : f.member j <;> simp [after, hm, Member.admitted]
  · simp [after, hj]

theorem macOf_forget (i j : ι) :
    (f.after (.forget i)).macOf j = if j = i then none else f.macOf j := by
  unfold macOf
  by_cases hj : j = i
  · simp [after, hj, indexedMac]
  · simp [after, hj]

theorem index_enlist (i : ι) (identity : Option (Option PyValue)) (mac : String) :
    (f.after (.enlist i identity)).index mac =
      if indexedMac identity = some mac then some i else f.index mac := rfl

/-- While every entry is sound, the entry that is removed is the one of the client. -/
theorem index_forget (h : f.IndexSound) (i : ι) (mac : String) :
    (f.after (.forget i)).index mac = if f.index mac = some i then none else f.index mac := by
  simp only [after]
  by_cases hi : f.index mac = some i
  · have hmac := h mac i hi
    unfold macOf indexedMac at hmac
    cases hm : f.member i with
    | none => simp [hm] at hmac
    | some m =>
      cases hv : m.mac with
      | none => simp [hm, hv] at hmac
      | some v =>
        have ht : v.text = mac := by
          simp only [hm, hv, Option.map_some, Option.getD_some, Option.bind_some] at hmac
          split at hmac
          · exact Option.some.inj hmac
          · cases hmac
        rw [if_pos ⟨hi, m, v, rfl, hv, ht⟩, if_pos hi]
  · rw [if_neg fun hc => hi hc.1, if_neg hi]

/-! ## One step -/

/-- A step keeps every entry sound exactly when it leaves no stale entry. -/
theorem indexSound_after_iff (h : f.IndexSound) :
    (f.after a).IndexSound ↔ ¬f.LeavesStale a := by
  by_cases ha : a.Registers
  swap
  · obtain ⟨hm, hi⟩ := macOf_after_of_not_registers (f := f) ha
    refine iff_of_true (fun mac i => by rw [hm, hi]; exact h mac i) ?_
    cases a <;> first | exact id | exact absurd trivial ha
  cases a with
  | enlist i identity =>
    cases identity with
    | none =>
      refine iff_of_true (fun mac j hj => ?_) id
      have hj' : f.index mac = some j := hj
      rw [macOf_enlist]
      by_cases hji : j = i
      · rw [if_pos hji, if_pos rfl, ← hji]; exact h mac j hj'
      · rw [if_neg hji]; exact h mac j hj'
    | some v =>
      constructor
      · rintro hs ⟨mac, hi, hne⟩
        have hstale := hs mac i (by rw [index_enlist, if_neg hne]; exact hi)
        rw [macOf_enlist, if_pos rfl, if_neg (Option.some_ne_none v)] at hstale
        exact hne hstale
      · intro hs mac j hj
        rw [index_enlist] at hj
        rw [macOf_enlist, if_neg (Option.some_ne_none v)]
        split at hj
        · next hmac =>
          rw [if_pos (Option.some.inj hj).symm]
          exact hmac
        · next hmac =>
          by_cases hji : j = i
          · exact absurd ⟨mac, hji ▸ hj, hmac⟩ hs
          · rw [if_neg hji]; exact h mac j hj
  | forget i =>
    refine iff_of_true (fun mac j hj => ?_) id
    rw [index_forget h] at hj
    split at hj
    · cases hj
    · next hi =>
      have hji : j ≠ i := by
        rintro rfl
        exact hi hj
      rw [macOf_forget, if_neg hji]
      exact h mac j hj
  | _ => exact absurd ha id

/-- A step keeps the index exact exactly when it leaves no stale entry and gives no address
twice. -/
theorem indexExact_after_iff (h : f.IndexExact) :
    (f.after a).IndexExact ↔ ¬(f.LeavesStale a ∨ f.Duplicates a) := by
  by_cases ha : a.Registers
  swap
  · obtain ⟨hm, hi⟩ := macOf_after_of_not_registers (f := f) ha
    refine iff_of_true (fun mac i => by rw [hm, hi]; exact h mac i) ?_
    cases a <;> first | exact not_or.2 ⟨id, id⟩ | exact absurd trivial ha
  rw [not_or, ← indexSound_after_iff h.sound]
  cases a with
  | enlist i identity =>
    cases identity with
    | none =>
      have hsame : (f.after (.enlist i none)).macOf = f.macOf := by
        funext j
        rw [macOf_enlist]
        by_cases hji : j = i
        · rw [if_pos hji, if_pos rfl, hji]
        · rw [if_neg hji]
      have hexact : (f.after (.enlist i none)).IndexExact := fun mac j => by
        rw [hsame]; exact h mac j
      exact iff_of_true hexact ⟨hexact.sound, id⟩
    | some v =>
      constructor
      · refine fun hs => ⟨hs.sound, ?_⟩
        rintro ⟨mac, j, hmac, hji, hj⟩
        have hentry := (hs mac j).2 (by rw [macOf_enlist, if_neg hji]; exact hj)
        rw [index_enlist, if_pos hmac] at hentry
        exact hji (Option.some.inj hentry).symm
      · rintro ⟨hs, hd⟩ mac j
        refine ⟨hs mac j, fun hj => ?_⟩
        rw [macOf_enlist, if_neg (Option.some_ne_none v)] at hj
        rw [index_enlist]
        by_cases hji : j = i
        · rw [if_pos hji] at hj
          rw [if_pos hj, hji]
        · rw [if_neg hji] at hj
          rw [if_neg fun hmac => hd ⟨mac, j, hmac, hji, hj⟩]
          exact (h mac j).2 hj
  | forget i =>
    refine ⟨fun hs => ⟨hs.sound, id⟩, fun ⟨hs, _⟩ mac j => ⟨hs mac j, fun hj => ?_⟩⟩
    rw [macOf_forget] at hj
    split at hj
    · cases hj
    · next hji =>
      have hentry := (h mac j).2 hj
      rw [index_forget h.sound, if_neg, hentry]
      rw [hentry]
      exact fun heq => hji (Option.some.inj heq)
  | _ => exact absurd ha id

/-- A step that leaves no stale entry keeps every address answered exactly when it hides no
client. -/
theorem indexServes_after_iff (h : f.IndexSound ∧ f.IndexTotal) :
    (f.after a).IndexSound ∧ (f.after a).IndexTotal ↔ ¬(f.LeavesStale a ∨ f.Hides a) := by
  obtain ⟨hsound, htotal⟩ := h
  rw [not_or, ← indexSound_after_iff hsound]
  refine and_congr_right fun _ => ?_
  by_cases ha : a.Registers
  swap
  · obtain ⟨hm, hi⟩ := macOf_after_of_not_registers (f := f) ha
    refine iff_of_true (fun mac i => by rw [hm, hi]; exact htotal mac i) ?_
    cases a <;> first | exact id | exact absurd trivial ha
  cases a with
  | enlist i identity =>
    refine iff_of_true (fun mac j hj => ?_) id
    rw [index_enlist]
    split
    · rfl
    · next hmac =>
      rw [macOf_enlist] at hj
      split at hj
      · split at hj
        · exact htotal mac i hj
        · exact absurd hj hmac
      · exact htotal mac j hj
  | forget i =>
    constructor
    · rintro ht ⟨mac, j, hi, hji, hj⟩
      have hsome := ht mac j (by rw [macOf_forget, if_neg hji]; exact hj)
      rw [index_forget hsound, if_pos hi] at hsome
      cases hsome
    · intro hh mac j hj
      rw [macOf_forget] at hj
      split at hj
      · cases hj
      · next hji =>
        rw [index_forget hsound, if_neg fun hi => hh ⟨mac, j, hi, hji, hj⟩]
        exact htotal mac j hj
  | _ => exact absurd ha id

end Fleet

/-! ## The operations of the server -/

namespace ServerState

variable {s : ServerState}

/-- The MAC address of the stored identity of a client, unless it is falsy. -/
def macOf (s : ServerState) (cid : ClientId) : Option String :=
  indexedMac ((s.clients.get? cid).map fun r => r.identity.bind (·.macAddress))

/-- A lookup answers `cid` exactly when `cid` is registered and has the address. -/
def MacIndexExact (s : ServerState) : Prop :=
  ∀ mac cid, s.getClientIdByMac mac = some cid ↔ s.macOf cid = some mac

/-- A lookup answers a client that has the address, whenever there is one. -/
def MacIndexServes (s : ServerState) : Prop :=
  (∀ mac cid, s.getClientIdByMac mac = some cid → s.macOf cid = some mac) ∧
    ∀ mac cid, s.macOf cid = some mac → (s.getClientIdByMac mac).isSome

/-- An identity is given for a client that is indexed under another address. -/
def LeavesStaleMac (s : ServerState) : ServerOp → Prop
  | .addControlClient clientId (some identity) _ => ∃ cid mac, clientId.toClientId = some cid ∧
      s.getClientIdByMac mac = some cid ∧ indexedMac (some identity.macAddress) ≠ some mac
  | _ => False

/-- An identity is given whose address another client has. -/
def DuplicatesMac (s : ServerState) : ServerOp → Prop
  | .addControlClient clientId (some identity) _ => ∃ cid mac other,
      clientId.toClientId = some cid ∧ indexedMac (some identity.macAddress) = some mac ∧
      other ≠ cid ∧ s.macOf other = some mac
  | _ => False

/-- The client that is answered for an address is removed while another client has it. -/
def HidesMac (s : ServerState) : ServerOp → Prop
  | .removeClient cid => ∃ mac other, s.getClientIdByMac mac = some cid ∧ other ≠ cid ∧
      s.macOf other = some mac
  | _ => False

theorem macOf_fleet (s : ServerState) (cid : ClientId) : s.fleet.macOf cid = s.macOf cid := by
  unfold Fleet.macOf macOf
  rw [fleet_member, Option.map_map]
  rfl

theorem indexExact_fleet : s.fleet.IndexExact ↔ s.MacIndexExact := by
  unfold Fleet.IndexExact MacIndexExact
  simp only [macOf_fleet]
  rfl

theorem indexServes_fleet : s.fleet.IndexSound ∧ s.fleet.IndexTotal ↔ s.MacIndexServes := by
  unfold Fleet.IndexSound Fleet.IndexTotal MacIndexServes
  simp only [macOf_fleet]
  rfl

/-- An operation comes to an action with the same effect on the index. -/
theorem macIndex_act (op : ServerOp) (hpending : s.fleet.PendingAllowed) :
    ∃ a, (s.step op).fleet = s.fleet.after a ∧
      (s.fleet.LeavesStale a ↔ s.LeavesStaleMac op) ∧
      (s.fleet.Duplicates a ↔ s.DuplicatesMac op) ∧ (s.fleet.Hides a ↔ s.HidesMac op) := by
  obtain ⟨a, ha, -, hf⟩ := s.step_act op hpending
  cases op with
  | addControlClient clientId identity now =>
    cases hcid : clientId.toClientId with
    | none =>
      refine ⟨.idle, by simp [step, addControlClient, hcid, Fleet.after], ?_⟩
      cases identity with
      | none => exact ⟨Iff.rfl, Iff.rfl, Iff.rfl⟩
      | some identity =>
        refine ⟨iff_of_false id ?_, iff_of_false id ?_, Iff.rfl⟩
        · rintro ⟨cid, mac, h, -⟩
          cases hcid.symm.trans h
        · rintro ⟨cid, mac, other, h, -⟩
          cases hcid.symm.trans h
    | some cid =>
      refine ⟨_, fleet_addControlClient hcid identity now, ?_⟩
      cases identity with
      | none => exact ⟨Iff.rfl, Iff.rfl, Iff.rfl⟩
      | some identity =>
        refine ⟨?_, ?_, Iff.rfl⟩
        · constructor
          · rintro ⟨mac, hmac, hne⟩
            exact ⟨cid, mac, hcid, hmac, hne⟩
          · rintro ⟨cid', mac, hcid', hmac, hne⟩
            obtain rfl := Option.some.inj (hcid.symm.trans hcid')
            exact ⟨mac, hmac, hne⟩
        · constructor
          · rintro ⟨mac, other, hmac, hne, hother⟩
            exact ⟨cid, mac, other, hcid, hmac, hne, (macOf_fleet s other).symm.trans hother⟩
          · rintro ⟨cid', mac, other, hcid', hmac, hne, hother⟩
            obtain rfl := Option.some.inj (hcid.symm.trans hcid')
            exact ⟨mac, other, hmac, hne, (macOf_fleet s other).trans hother⟩
  | removeClient cid =>
    refine ⟨_, fleet_removeClient cid, Iff.rfl, Iff.rfl, ?_⟩
    simp only [Fleet.Hides, HidesMac, macOf_fleet]
    rfl
  | _ =>
    have hnot : ¬a.Registers := by
      intro hr
      cases a with
      | enlist _ _ | forget _ => simp [ServerOp.Acts, Fleet.Act.OfEvent] at ha
      | _ => exact hr
    refine ⟨a, hf, iff_of_false ?_ id, iff_of_false ?_ id, iff_of_false ?_ id⟩
    all_goals
      cases a <;> first | exact id | exact absurd trivial hnot

theorem macIndexExact_step_iff (hpending : s.fleet.PendingAllowed) (h : s.MacIndexExact)
    (op : ServerOp) :
    (s.step op).MacIndexExact ↔ ¬(s.LeavesStaleMac op ∨ s.DuplicatesMac op) := by
  obtain ⟨a, hf, hstale, hdup, -⟩ := macIndex_act op hpending
  rw [← indexExact_fleet, hf, Fleet.indexExact_after_iff (indexExact_fleet.2 h), hstale, hdup]

theorem macIndexServes_step_iff (hpending : s.fleet.PendingAllowed) (h : s.MacIndexServes)
    (op : ServerOp) :
    (s.step op).MacIndexServes ↔ ¬(s.LeavesStaleMac op ∨ s.HidesMac op) := by
  obtain ⟨a, hf, hstale, -, hhides⟩ := macIndex_act op hpending
  rw [← indexServes_fleet, hf, Fleet.indexServes_after_iff (indexServes_fleet.2 h), hstale, hhides]

/-- A run keeps the index exact exactly when no registration changes an indexed address or gives one
that another client has; it keeps every address of a client answered by a client that has it exactly
when no registration changes an indexed address and no removal hides a client. -/
theorem macIndex_along_iff (mode : String) (ops : List ServerOp) :
    ((∀ pre, pre <+: ops → ((init mode).runOps pre).MacIndexExact) ↔
      Meets step (fun s op => ¬(s.LeavesStaleMac op ∨ s.DuplicatesMac op)) (init mode) ops) ∧
    ((∀ pre, pre <+: ops → ((init mode).runOps pre).MacIndexServes) ↔
      Meets step (fun s op => ¬(s.LeavesStaleMac op ∨ s.HidesMac op)) (init mode) ops) := by
  have hinit : (init mode).MacIndexExact := fun mac cid => ⟨nofun, nofun⟩
  constructor
  · exact run_invariant_iff pendingAllowed_step
      (fun s op hp hs => macIndexExact_step_iff (s := s) hp hs op) nofun hinit
  · exact run_invariant_iff pendingAllowed_step
      (fun s op hp hs => macIndexServes_step_iff (s := s) hp hs op) nofun ⟨nofun, nofun⟩

/-- Two clients register with one address, and the second is removed. -/
def sharedMac : List ServerOp :=
  [.addControlClient (.bytes [65]) (some { macAddress := some ⟨"00:11", true⟩ }) 0,
   .addControlClient (.bytes [66]) (some { macAddress := some ⟨"00:11", true⟩ }) 1,
   .removeClient [66]]

/-- The entry of the first address outlives the client; the client that is left is not found. -/
theorem macIndex_diverges :
    (¬∀ s : ServerState, s.IsReachable → s.MacIndexExact) ∧
      ¬∀ s : ServerState, s.IsReachable → s.MacIndexServes := by
  constructor
  · intro h
    have hentry := (h ((init "test").runOps registeredTwice) ⟨"test", registeredTwice, rfl⟩
      "00:11" [65]).1 (by decide)
    exact absurd hentry (by decide)
  · intro h
    have hentry := (h ((init "test").runOps sharedMac) ⟨"test", sharedMac, rfl⟩).2
      "00:11" [65] (by decide)
    exact absurd hentry (by decide)

end ServerState

end MultiDAQ.Server
