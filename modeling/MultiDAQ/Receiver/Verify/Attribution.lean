import Mathlib.Data.List.Chain
import Mathlib.Data.List.TakeWhile
import MultiDAQ.Receiver.Receive

/-!
# Attribution of the frames

`receive_data` reads every message as it would read it alone, with the batches of each message under
its own identity, exactly when no message that it discards whole is followed by another message, and
the identities of the messages that carry data fit the source id (`attributed_iff`). A discarded
payload leaves the frame index and the `more` flag as they are: when it was the last frame, the next
message is read as if it went on.
-/

namespace MultiDAQ.Receiver

open MultiDAQ.Lib

/-- A payload frame that is not enqueued. -/
def Part.Discarded (p : Part) : Prop := malformed p.data = true ∨ p.mallocOk = false

/-- A message with payload frames, all of which are discarded. -/
def Message.Spoils (m : Message) : Prop := m.payloads ≠ [] ∧ ∀ p ∈ m.payloads, p.Discarded

/-- The identity fits `source_id`: no NUL in it, and room for the final one. -/
def FitsSourceId (identity : Bytes) : Prop := identity.length < maxSourceIdLen ∧ 0 ∉ identity

/-- What becomes of the frames of an arrival that is read on its own. -/
def Arrival.alone (a : Arrival) : List Outcome := outputs receive .polling a.recvs

/-- The frames of an arrival are read as on its own, and its batches carry its identity and one of
its payloads, in the queue of its worker. -/
def Attributed (e : Arrival × List Outcome) : Prop :=
  e.2 = e.1.alone ∧ ∀ m, e.1 = .message m → ∀ worker batch, .enqueued worker batch ∈ e.2 →
    batch.sourceId = m.identity.data ∧ worker = workerOf m.identity.data ∧
    ∃ p ∈ m.payloads, batch.payload = p.data

/-- No message that is discarded whole is followed by another message. -/
def Synced (as : List Arrival) : Prop :=
  as.IsChain fun a b => ∀ m m', a = .message m → b = .message m' → ¬m.Spoils

/-! ## One message -/

/-- The state of the inner loop after an identity frame that others follow. -/
def Reading.afterIdentity (identity : Bytes) : Reading where
  more := true
  frameIdx := 1
  identityBuf := identity.take (maxSourceIdLen - 1)

/-- The batch a payload is enqueued in. -/
def Reading.batch (r : Reading) (p : Part) : Outcome :=
  .enqueued (workerOf r.identityBuf) { sourceId := cString r.identityBuf, payload := p.data }

section Frames

variable {r : Reading}

theorem receive_reading (r : Reading) (f : Frame) :
    receive (.reading r) (.frame f) =
      (if (readFrame r f).1.more then .reading (readFrame r f).1 else .polling,
        (readFrame r f).2) := rfl

theorem readFrame_discarded (h : r.frameIdx = 1) {f : Frame}
    (hf : malformed f.data = true ∨ f.mallocOk = false) : readFrame r f = (r, .discarded) := by
  unfold readFrame
  simp only [h, Nat.one_ne_zero, if_false, if_true]
  rcases hf with hf | hf
  · simp [hf]
  · by_cases hm : malformed f.data <;> simp [hm, hf]

theorem readFrame_enqueued (h : r.frameIdx = 1) {f : Frame} (hf : malformed f.data = false)
    (hm : f.mallocOk = true) :
    readFrame r f = ({ r with more := f.more, frameIdx := 2 },
      .enqueued (workerOf r.identityBuf)
        { sourceId := cString r.identityBuf, payload := f.data }) := by
  simp [readFrame, h, hf, hm]

theorem readFrame_ignored (h : 2 ≤ r.frameIdx) (f : Frame) :
    readFrame r f = ({ r with more := f.more, frameIdx := r.frameIdx + 1 }, .ignored) := by
  have h₀ : r.frameIdx ≠ 0 := by omega
  have h₁ : r.frameIdx ≠ 1 := by omega
  simp [readFrame, h₀, h₁]

/-- After its payload, the other frames of a message are ignored, and the last one ends it. -/
theorem receive_ignored : ∀ {ps : List Part} {r : Reading}, 2 ≤ r.frameIdx → ps ≠ [] →
    finalState receive (.reading r) (partFrames ps) = .polling ∧
    outputs receive (.reading r) (partFrames ps) = ps.map fun _ => .ignored
  | [], _, _, hne => absurd rfl hne
  | [p], r, h, _ => by simp [partFrames, receive_reading, readFrame_ignored h]
  | p :: q :: ps, r, h, _ => by
    obtain ⟨hfinal, hout⟩ := receive_ignored
      (r := { r with more := true, frameIdx := r.frameIdx + 1 }) (Nat.le_succ_of_le h)
      (List.cons_ne_nil q ps)
    rw [partFrames]
    simp [receive_reading, readFrame_ignored h, hfinal, hout]

/-- Discarded payloads leave the inner loop where it is. -/
theorem receive_discarded (h : r.frameIdx = 1) (hmore : r.more = true) : ∀ {ps : List Part},
    (∀ p ∈ ps, p.Discarded) →
    finalState receive (.reading r) (partFrames ps) = .reading r ∧
    outputs receive (.reading r) (partFrames ps) = ps.map fun _ => .discarded
  | [], _ => ⟨rfl, rfl⟩
  | p :: ps, hps => by
    obtain ⟨hp, hps⟩ := List.forall_mem_cons.1 hps
    obtain ⟨hfinal, hout⟩ := receive_discarded h hmore hps
    rw [partFrames]
    simp [receive_reading, readFrame_discarded (f := ⟨p.data, !ps.isEmpty, p.mallocOk⟩) h hp,
      hmore, hfinal, hout]

/-- The first payload that is not discarded is enqueued, and the message is read to its end. -/
theorem receive_payloads (h : r.frameIdx = 1) (hmore : r.more = true) : ∀ {ps : List Part},
    (∃ p ∈ ps, ¬p.Discarded) →
    finalState receive (.reading r) (partFrames ps) = .polling ∧
    ∃ p ∈ ps, ¬p.Discarded ∧ r.batch p ∈ outputs receive (.reading r) (partFrames ps) ∧
      ∀ o ∈ outputs receive (.reading r) (partFrames ps),
        o = .discarded ∨ o = r.batch p ∨ o = .ignored
  | [], hps => by simp at hps
  | p :: ps, hps => by
    rw [partFrames]
    by_cases hp : p.Discarded
    · have hps' : ∃ q ∈ ps, ¬q.Discarded := by
        obtain ⟨q, hq, hqd⟩ := hps
        refine ⟨q, (List.mem_cons.1 hq).resolve_left fun e => hqd (e ▸ hp), hqd⟩
      obtain ⟨hfinal, q, hq, hqd, hmem, hall⟩ := receive_payloads h hmore hps'
      simp only [finalState_cons, outputs_cons, receive_reading,
        readFrame_discarded (f := ⟨p.data, !ps.isEmpty, p.mallocOk⟩) h hp, hmore, if_true]
      refine ⟨hfinal, q, List.mem_cons_of_mem _ hq, hqd, List.mem_cons_of_mem _ hmem, ?_⟩
      rintro o (_ | ⟨_, ho⟩)
      · exact .inl rfl
      · exact hall o ho
    · have hok : malformed p.data = false ∧ p.mallocOk = true := by
        simpa [Part.Discarded] using hp
      simp only [finalState_cons, outputs_cons, receive_reading,
        readFrame_enqueued (f := ⟨p.data, !ps.isEmpty, p.mallocOk⟩) h hok.1 hok.2]
      by_cases hnil : ps = []
      · subst hnil
        exact ⟨rfl, p, List.mem_cons_self, hp, List.mem_cons_self,
          fun o ho => .inr (.inl (List.mem_singleton.1 ho))⟩
      · have hempty : (!ps.isEmpty) = true := by
          rw [List.isEmpty_eq_false_iff.2 hnil]; rfl
        obtain ⟨hfinal, hout⟩ := receive_ignored
          (r := { r with more := true, frameIdx := 2 }) (Nat.le_refl 2) hnil
        simp only [hempty, if_true]
        refine ⟨hfinal, p, List.mem_cons_self, hp, List.mem_cons_self, ?_⟩
        rw [hout]
        rintro o (_ | ⟨_, ho⟩)
        · exact .inr (.inl rfl)
        · obtain ⟨-, -, rfl⟩ := List.mem_map.1 ho
          exact .inr (.inr rfl)

end Frames

variable {m : Message} {as : List Arrival}

/-- Reading a message from the poll on: the identity frame, then the payloads under it. -/
theorem receive_message (hne : m.payloads ≠ []) :
    finalState receive .polling (Arrival.message m).recvs =
      finalState receive (.reading (.afterIdentity m.identity.data)) (partFrames m.payloads) ∧
    (Arrival.message m).alone = .identity ::
      outputs receive (.reading (.afterIdentity m.identity.data)) (partFrames m.payloads) := by
  have hempty : m.payloads.isEmpty = false := List.isEmpty_eq_false_iff.2 hne
  have hstep : receive .polling
      (.frame { data := m.identity.data, more := !m.payloads.isEmpty
                mallocOk := m.identity.mallocOk }) =
      (.reading (.afterIdentity m.identity.data), .identity) := by
    rw [hempty]; rfl
  simp only [Arrival.alone, Arrival.recvs, partFrames, finalState_cons, outputs_cons, hstep,
    and_self]

/-- A message that is discarded whole leaves the inner loop waiting for another payload. -/
theorem Message.Spoils.finalState (h : m.Spoils) :
    finalState receive .polling (Arrival.message m).recvs =
      .reading (.afterIdentity m.identity.data) :=
  (receive_message h.1).1.trans (receive_discarded rfl rfl h.2).1

/-- The payload of a message that is not discarded whole. -/
theorem Message.exists_payload (h : ¬m.Spoils) (hne : m.payloads ≠ []) :
    ∃ p ∈ m.payloads, ¬p.Discarded := by
  by_contra hall
  push Not at hall
  exact h ⟨hne, hall⟩

/-- Any other message is read to its end. -/
theorem finalState_of_not_spoils (h : ¬m.Spoils) :
    finalState receive .polling (Arrival.message m).recvs = .polling := by
  by_cases hne : m.payloads = []
  · obtain ⟨identity, payloads⟩ := m
    obtain rfl : payloads = [] := hne
    rfl
  · exact (receive_message hne).1.trans
      (receive_payloads rfl rfl (Message.exists_payload h hne)).1

/-- The batches of a message that is read on its own: a payload of it, under what the source id
keeps of its identity. -/
theorem alone_enqueued {worker : Nat} {batch : DataBatch}
    (h : .enqueued worker batch ∈ (Arrival.message m).alone) :
    batch.sourceId = cString (m.identity.data.take (maxSourceIdLen - 1)) ∧
      worker = workerOf (m.identity.data.take (maxSourceIdLen - 1)) ∧
      ∃ p ∈ m.payloads, ¬p.Discarded ∧ batch.payload = p.data := by
  by_cases hne : m.payloads = []
  · obtain ⟨identity, payloads⟩ := m
    obtain rfl : payloads = [] := hne
    obtain h | h := List.mem_cons.1 h
    · cases h
    · cases h
  · rw [(receive_message hne).2] at h
    obtain h | h := List.mem_cons.1 h
    · cases h
    · by_cases hs : m.Spoils
      · rw [(receive_discarded rfl rfl hs.2).2] at h
        obtain ⟨p, -, hp⟩ := List.mem_map.1 h
        cases hp
      · obtain ⟨-, p, hp, hpd, -, hall⟩ :=
          receive_payloads (r := .afterIdentity m.identity.data) rfl rfl
            (Message.exists_payload hs hne)
        obtain h | h | h := hall _ h
        · cases h
        · cases h
          exact ⟨rfl, rfl, p, hp, hpd, rfl⟩
        · cases h

/-- A message with a payload that is not discarded is enqueued. -/
theorem exists_enqueued (h : ∃ p ∈ m.payloads, ¬p.Discarded) :
    ∃ worker batch, .enqueued worker batch ∈ (Arrival.message m).alone := by
  have hne : m.payloads ≠ [] := by
    obtain ⟨p, hp, -⟩ := h
    exact List.ne_nil_of_mem hp
  obtain ⟨-, p, -, -, hmem, -⟩ :=
    receive_payloads (r := .afterIdentity m.identity.data) rfl rfl h
  have halone := List.mem_cons_of_mem Outcome.identity hmem
  rw [← (receive_message hne).2] at halone
  exact ⟨_, _, halone⟩

/-- The source id of a batch is the identity exactly when that fits. -/
theorem cString_take_iff {identity : Bytes} :
    cString (identity.take (maxSourceIdLen - 1)) = identity ↔ FitsSourceId identity := by
  constructor
  · intro h
    have hlen : identity.length ≤ maxSourceIdLen - 1 := by
      calc identity.length = (cString (identity.take (maxSourceIdLen - 1))).length := by rw [h]
        _ ≤ (identity.take (maxSourceIdLen - 1)).length := (List.takeWhile_sublist _).length_le
        _ ≤ maxSourceIdLen - 1 := List.length_take_le _ _
    refine ⟨by unfold maxSourceIdLen at hlen ⊢; omega, fun h₀ => ?_⟩
    rw [← h] at h₀
    simpa using List.mem_takeWhile_imp h₀
  · rintro ⟨hlen, h₀⟩
    rw [List.take_of_length_le (by unfold maxSourceIdLen at hlen ⊢; omega)]
    refine List.takeWhile_eq_self_iff.2 fun b hb => ?_
    simpa using fun e : b = 0 => h₀ (e ▸ hb)

/-! ## A sequence of arrivals -/

/-- A failed call starts the outer loop again, wherever the inner loop was. -/
theorem reception_failed (s : ReceiveState) (as : List Arrival) :
    reception s (.failed :: as) = reception .polling (.failed :: as) := rfl

/-- A message that the inner loop takes for the rest of another one: its identity frame is not read
as one. -/
theorem outputs_message_reading {r : Reading} (h : r.frameIdx = 1) :
    outputs receive (.reading r) (Arrival.message m).recvs ≠ (Arrival.message m).alone := by
  intro he
  have hhead := congrArg List.head? he
  have halone : (Arrival.message m).alone.head? = some .identity := rfl
  rw [halone] at hhead
  simp only [Arrival.recvs, partFrames, outputs_cons, List.head?_cons, receive_reading,
    Option.some.injEq] at hhead
  unfold readFrame at hhead
  simp only [h, Nat.one_ne_zero, if_false, if_true] at hhead
  split at hhead
  · cases hhead
  · split at hhead <;> cases hhead

/-- No message changes how the frames of another one are read, exactly when none that is discarded
whole is followed by a message. -/
theorem reception_alone_iff : ∀ as : List Arrival,
    (∀ e ∈ reception .polling as, e.2 = e.1.alone) ↔ Synced as
  | [] => by simp [reception, Synced]
  | .failed :: as => by
    have hsynced : Synced (.failed :: as) ↔ Synced as := by
      cases as with
      | nil => simp [Synced]
      | cons b as => simp [Synced, List.isChain_cons_cons]
    rw [hsynced, ← reception_alone_iff as]
    simp only [reception, List.forall_mem_cons]
    exact and_iff_right rfl
  | .message m :: as => by
    by_cases hs : m.Spoils
    · cases as with
      | nil =>
        simp only [reception, List.forall_mem_cons, List.not_mem_nil, false_implies,
          implies_true, and_true, Synced, List.isChain_singleton, iff_true]
        rfl
      | cons b as =>
        cases b with
        | failed =>
          have hsynced : Synced (.message m :: .failed :: as) ↔ Synced (.failed :: as) := by
            simp [Synced, List.isChain_cons_cons]
          rw [hsynced, ← reception_alone_iff (.failed :: as), reception, hs.finalState,
            reception_failed, List.forall_mem_cons]
          exact and_iff_right rfl
        | message m' =>
          refine iff_of_false (fun h => ?_) fun h => ?_
          · have hmem : (Arrival.message m', outputs receive
                (.reading (.afterIdentity m.identity.data)) (Arrival.message m').recvs) ∈
                reception .polling (.message m :: .message m' :: as) := by
              rw [reception, hs.finalState]
              exact List.mem_cons_of_mem _ List.mem_cons_self
            exact outputs_message_reading rfl (h _ hmem)
          · exact (List.isChain_cons_cons.1 h).1 m m' rfl rfl hs
    · have hsynced : Synced (.message m :: as) ↔ Synced as := by
        cases as with
        | nil => simp [Synced]
        | cons b as =>
          simp only [Synced, List.isChain_cons_cons]
          refine and_iff_right fun m₁ m₂ h _ => ?_
          cases h
          exact hs
      rw [hsynced, ← reception_alone_iff as, reception, finalState_of_not_spoils hs,
        List.forall_mem_cons]
      exact and_iff_right rfl

theorem reception_map_fst : ∀ (s : ReceiveState) (as : List Arrival),
    (reception s as).map Prod.fst = as
  | _, [] => rfl
  | s, a :: as => by simp [reception, reception_map_fst _ as]

/-- Every arrival is attributed exactly when the messages stay synchronized and the identities of
those that carry data fit the source id. -/
theorem attributed_iff (as : List Arrival) :
    (∀ e ∈ reception .polling as, Attributed e) ↔
      Synced as ∧ ∀ m, .message m ∈ as → (∃ p ∈ m.payloads, ¬p.Discarded) →
        FitsSourceId m.identity.data := by
  rw [← reception_alone_iff]
  constructor
  · intro h
    refine ⟨fun e he => (h e he).1, fun m hm hp => ?_⟩
    obtain ⟨e, he, hfst⟩ := List.mem_map.1 (reception_map_fst .polling as ▸ hm)
    obtain ⟨worker, batch, hmem⟩ := exists_enqueued hp
    obtain ⟨halone, hattr⟩ := h e he
    rw [hfst] at halone
    obtain ⟨hid, -⟩ := hattr m hfst worker batch (halone ▸ hmem)
    rw [← cString_take_iff, ← (alone_enqueued hmem).1, hid]
  · rintro ⟨halone, hfits⟩ e he
    refine ⟨halone e he, fun m hfst worker batch hmem => ?_⟩
    have hm : .message m ∈ as := by
      rw [← reception_map_fst .polling as, ← hfst]
      exact List.mem_map_of_mem he
    rw [halone e he, hfst] at hmem
    obtain ⟨hid, hworker, p, hp, hpd, hpayload⟩ := alone_enqueued hmem
    have hfit : FitsSourceId m.identity.data := hfits m hm ⟨p, hp, hpd⟩
    have htake : m.identity.data.take (maxSourceIdLen - 1) = m.identity.data :=
      List.take_of_length_le (by have := hfit.1; unfold maxSourceIdLen at this ⊢; omega)
    rw [cString_take_iff.2 hfit] at hid
    rw [htake] at hworker
    exact ⟨hid, hworker, p, hp, hpayload⟩

/-- A message of the client `A` with a payload of eight bytes, then one of `B` with an event. -/
def truncatedThenGood : List Arrival :=
  [.message { identity := ⟨[65], true⟩, payloads := [⟨List.replicate 8 0, true⟩] },
   .message { identity := ⟨[66], true⟩, payloads := [⟨List.replicate 16 1, true⟩] }]

/-- The event of `B` is enqueued as one of `A`. -/
theorem truncated_payload_misattributes :
    ¬∀ as : List Arrival, ∀ e ∈ reception .polling as, Attributed e := by
  intro h
  have he := h truncatedThenGood
    (.message { identity := ⟨[66], true⟩, payloads := [⟨List.replicate 16 1, true⟩] },
      [.discarded, .enqueued (workerOf [65]) ⟨[65], List.replicate 16 1⟩]) (by decide)
  have hsource := (he.2 _ rfl (workerOf [65]) ⟨[65], List.replicate 16 1⟩ (by simp)).1
  exact absurd hsource (by decide)

end MultiDAQ.Receiver
