import MultiDAQ.Receiver.Verify.Threads

/-!
# Delayed closes

As long as the receiver runs, every close that was scheduled for a source has put one CLOSE item on
the queue of the worker of the source, except for the one that is still pending (`CloseOk.account`).
No OPEN of the source is queued while one is pending. A close that is due is overtaken by at most as
many others as there are slots (`closes_le_ahead`), because later ones have later deadlines.
-/

namespace MultiDAQ.Receiver

open MultiDAQ.Lib

/-! ## The slots -/

namespace DelayedCloses

variable {slots : DelayedCloses}

/-- A close is pending in the slot. -/
def Active (slots : DelayedCloses) (i : Nat) (c : DelayedClose) : Prop := slots[i]? = some (some c)

theorem hasPendingClose_eq_false {id : Bytes} :
    slots.hasPendingClose id = false ↔ ∀ i c, slots.Active i c → c.sourceId ≠ id := by
  unfold hasPendingClose Active
  rw [List.any_eq_false]
  constructor
  · intro h i c hc heq
    exact h (some c) (List.mem_of_getElem? hc) (by simpa using heq)
  · intro h slot hslot hany
    obtain ⟨i, hi⟩ := List.mem_iff_getElem?.1 hslot
    cases slot with
    | none => cases hany
    | some c => exact h i c hi (by simpa using hany)

/-- A close is scheduled for a source that has none pending, in a slot that was free. -/
theorem scheduled_spec {id : Bytes} {workerIdx now : Nat} {slots' : DelayedCloses}
    (h : slots.scheduleDelayedClose id workerIdx now = .scheduled slots') :
    slots.hasPendingClose id = false ∧ ∃ i, slots[i]? = some none ∧
      slots' = slots.set i (some ⟨id, workerIdx, now + closeGraceTime⟩) := by
  unfold scheduleDelayedClose at h
  split at h
  next => cases h
  next hpending =>
    refine ⟨by simpa using hpending, ?_⟩
    split at h
    next => cases h
    next i hi =>
      obtain ⟨hlt, hnone, -⟩ := List.findIdx?_eq_some_iff_getElem.1 hi
      refine ⟨i, ?_, (Scheduling.scheduled.inj h).symm⟩
      rw [List.getElem?_eq_getElem hlt]
      exact congrArg some (by simpa using hnone)

theorem active_set {i j : Nat} {slot : Option DelayedClose} {c : DelayedClose} {old}
    (hi : slots[i]? = some old) : Active (slots.set i slot) j c ↔
      if i = j then slot = some c else slots.Active j c := by
  unfold Active
  rw [List.getElem?_set]
  have hlt := (List.getElem?_eq_some_iff.1 hi).1
  split
  next => rw [Option.some_inj]
  next => rfl

/-- What the loop has selected from the first `i` slots. -/
def Nearest (slots : DelayedCloses) (i : Nat) : Option (Nat × DelayedClose) → Prop
  | none => ∀ j c, slots.Active j c → i ≤ j
  | some (k, d) => slots.Active k d ∧ ∀ j c, slots.Active j c → j < i → d.deadline ≤ c.deadline

theorem nearest_spec : ∀ (rest : DelayedCloses) (i : Nat) (selected : Option (Nat × DelayedClose)),
    slots.drop i = rest → slots.Nearest i selected →
      slots.Nearest slots.length (nearest i rest selected)
  | [], i, selected, hrest, h => by
    have hlen : slots.length ≤ i := by simpa using hrest
    unfold nearest
    cases selected with
    | none => exact fun j c hj => Nat.le_trans hlen (h j c hj)
    | some k =>
      refine ⟨h.1, fun j c hj hlt => h.2 j c hj (Nat.lt_of_lt_of_le hlt hlen)⟩
  | slot :: rest, i, selected, hrest, h => by
    have hi : slots[i]? = some slot := by
      have h₀ : (slots.drop i)[0]? = some slot := by rw [hrest]; rfl
      rwa [List.getElem?_drop, Nat.add_zero] at h₀
    have hdrop : slots.drop (i + 1) = rest := by simpa using congrArg (List.drop 1) hrest
    have hself {j : Nat} {c : DelayedClose} (hj : slots.Active j c) (hji : j = i) :
        slot = some c := by
      subst hji
      exact Option.some.inj (hi.symm.trans hj)
    cases slot with
    | none =>
      refine nearest_spec rest (i + 1) selected hdrop ?_
      cases selected with
      | none =>
        intro j c hj
        exact Nat.lt_of_le_of_ne (h j c hj) fun hij => nomatch hself hj hij.symm
      | some k =>
        refine ⟨h.1, fun j c hj hlt => h.2 j c hj ?_⟩
        exact Nat.lt_of_le_of_ne (Nat.le_of_lt_succ hlt) fun hij => nomatch hself hj hij
    | some e =>
      cases selected with
      | none =>
        refine nearest_spec rest (i + 1) (some (i, e)) hdrop ⟨hi, fun j c hj hlt => ?_⟩
        have hij : j = i := Nat.le_antisymm (Nat.le_of_lt_succ hlt) (h j c hj)
        exact Option.some.inj (hself hj hij) ▸ Nat.le_refl _
      | some k =>
        obtain ⟨k, d⟩ := k
        refine nearest_spec rest (i + 1) _ hdrop ?_
        split
        next hlt =>
          refine ⟨hi, fun j c hj hji => ?_⟩
          by_cases hij : j = i
          · exact Option.some.inj (hself hj hij) ▸ Nat.le_refl _
          · have := h.2 j c hj (by omega)
            omega
        next hge =>
          refine ⟨h.1, fun j c hj hji => ?_⟩
          by_cases hij : j = i
          · obtain rfl := Option.some.inj (hself hj hij)
            omega
          · exact h.2 j c hj (by omega)

/-- The loop selects an active slot with the nearest deadline. -/
theorem nearest_some {i : Nat} {c : DelayedClose}
    (h : nearest 0 slots none = some (i, c)) :
    slots.Active i c ∧ ∀ j d, slots.Active j d → c.deadline ≤ d.deadline := by
  have hspec := nearest_spec slots 0 none rfl fun _ _ _ => Nat.zero_le _
  rw [h] at hspec
  exact ⟨hspec.1, fun j d hj => hspec.2 j d hj (List.getElem?_eq_some_iff.1 hj).1⟩

/-- The loop selects something as soon as one slot is active. -/
theorem nearest_isSome {j : Nat} {c : DelayedClose} (hj : slots.Active j c) :
    ∃ i d, nearest 0 slots none = some (i, d) := by
  have hspec := nearest_spec slots 0 none rfl fun _ _ _ => Nat.zero_le _
  cases hn : nearest 0 slots none with
  | none =>
    rw [hn] at hspec
    exact absurd (hspec j c hj) (Nat.not_le_of_lt (List.getElem?_eq_some_iff.1 hj).1)
  | some k => exact ⟨k.1, k.2, rfl⟩

end DelayedCloses

/-! ## Closes in the history -/

namespace ThreadEvent

/-- A delayed close of the source is put on a queue. -/
def closes (id : Bytes) : ThreadEvent → Bool
  | .delayedCloseQueued _ item => item.sourceId = id
  | _ => false

/-- Some delayed close is put on a queue. -/
def isClose : ThreadEvent → Bool
  | .delayedCloseQueued _ _ => true
  | _ => false

/-- What is put on the queue of the worker. -/
def queuedOn (worker : Nat) : ThreadEvent → Option QueuedItem
  | .queued w item | .delayedCloseQueued w item => if w = worker then some item else Option.none
  | _ => Option.none

/-- What the worker handles. -/
def handledBy (worker : Nat) : ThreadEvent → Option QueuedItem
  | .handled w item _ => if w = worker then some item else Option.none
  | _ => Option.none

end ThreadEvent

/-- The closes of the source that were scheduled. -/
def scheduledCount (id : Bytes) (events : List ThreadEvent) : Nat := events.count (.scheduled id)

/-- The CLOSE items that the delayed closes of the source have put on a queue. -/
def closesQueued (id : Bytes) (events : List ThreadEvent) : Nat :=
  events.countP (ThreadEvent.closes id)

theorem scheduledCount_append (id : Bytes) (events : List ThreadEvent) (e : ThreadEvent) :
    scheduledCount id (events ++ [e]) =
      scheduledCount id events + if e = .scheduled id then 1 else 0 := by
  unfold scheduledCount
  rw [List.count_append, List.count_singleton]
  simp

theorem closesQueued_append (id : Bytes) (events : List ThreadEvent) (e : ThreadEvent) :
    closesQueued id (events ++ [e]) = closesQueued id events + if e.closes id then 1 else 0 := by
  unfold closesQueued
  rw [List.countP_append, List.countP_singleton]

namespace ReceiverThreads

variable {s s' : ReceiverThreads} {a : Action} {e : ThreadEvent} {events : List ThreadEvent}

/-! ## The state while the receiver runs -/

/-- The slots, and what the threads that use them know of them. -/
structure CloseOk (s : ReceiverThreads) : Prop where
  running : s.keepRunning = true
  size : s.delayedCloses.length = maxDelayedCloses
  unique : ∀ i j c d, s.delayedCloses.Active i c → s.delayedCloses.Active j d →
    c.sourceId = d.sourceId → i = j
  worker : ∀ i c, s.delayedCloses.Active i c → c.workerIdx = workerOf c.sourceId
  queueing : ∀ i c, s.closeWorker = .queueing i c → s.delayedCloses.Active i c
  clearing : ∀ i, s.closeWorker = .clearing i → ∃ c, s.delayedCloses.Active i c
  alive : s.closeWorker ≠ .stopped
  queuesItem : ∀ r, (s.listener = .queueing r ∨ ∃ token, s.listener = .begun r token) →
    s.delayedCloses.hasPendingClose r.id = false

/-- The listener changes, and is not about to queue an item. -/
theorem CloseOk.listen (h : CloseOk s) {l : Listener} {ack : OpenAck}
    (hl : ∀ r, (l = .queueing r ∨ ∃ token, l = .begun r token) →
      s.delayedCloses.hasPendingClose r.id = false) :
    CloseOk { s with listener := l, openAck := ack } :=
  { h with queuesItem := hl }

theorem closeOk_init : CloseOk {} := by
  have hnone : ∀ i c, ¬ DelayedCloses.Active (List.replicate maxDelayedCloses none) i c := by
    intro i c h
    exact nomatch (List.eq_of_mem_replicate (List.mem_of_getElem? h))
  exact {
    running := rfl
    size := List.length_replicate
    unique := fun i _ c _ hi _ _ => absurd hi (hnone i c)
    worker := fun i c hi => absurd hi (hnone i c)
    queueing := nofun
    clearing := nofun
    alive := nofun
    queuesItem := by rintro r (h | ⟨_, h⟩) <;> cases h }

theorem CloseOk.scheduled (h : CloseOk s) {id : Bytes} {slots : DelayedCloses}
    (hl : s.listener = .polling)
    (hs : s.delayedCloses.scheduleDelayedClose id (workerOf id) s.now = .scheduled slots) :
    CloseOk { s with delayedCloses := slots } := by
  obtain ⟨hpending, i, hfree, rfl⟩ := DelayedCloses.scheduled_spec hs
  rw [DelayedCloses.hasPendingClose_eq_false] at hpending
  have hkept {j : Nat} {c : DelayedClose} (hj : s.delayedCloses.Active j c) :
      DelayedCloses.Active (s.delayedCloses.set i (some ⟨id, workerOf id, s.now + closeGraceTime⟩))
        j c := by
    rw [DelayedCloses.active_set hfree, if_neg]
    · exact hj
    · rintro rfl
      exact nomatch hfree.symm.trans hj
  refine { h with
    size := (List.length_set ..).trans h.size
    unique := fun j k c d hj hk hid => ?_
    worker := fun j c hj => ?_
    queueing := fun j c hw => hkept (h.queueing j c hw)
    clearing := fun j hw => ?_
    queuesItem := fun r hr => ?_ }
  · have hj := (DelayedCloses.active_set hfree).1 hj
    have hk := (DelayedCloses.active_set hfree).1 hk
    split at hj
    next hij =>
      obtain rfl := Option.some.inj hj
      split at hk
      next hik => exact hij.symm.trans hik
      next => exact absurd hid.symm (hpending k d hk)
    next =>
      split at hk
      next =>
        obtain rfl := Option.some.inj hk
        exact absurd hid (hpending j c hj)
      next => exact h.unique j k c d hj hk hid
  · have hj := (DelayedCloses.active_set hfree).1 hj
    split at hj
    next => exact Option.some.inj hj ▸ rfl
    next => exact h.worker j c hj
  · obtain ⟨c, hc⟩ := h.clearing j hw
    exact ⟨c, hkept hc⟩
  · rcases hr with hr | ⟨token, hr⟩ <;> exact nomatch hl.symm.trans hr

theorem CloseOk.cleared (h : CloseOk s) {i : Nat} (hw : s.closeWorker = .clearing i) :
    CloseOk (s.closeCleared i) := by
  obtain ⟨c, hi⟩ := h.clearing i hw
  have hof {j : Nat} {d : DelayedClose} (hj : (s.closeCleared i).delayedCloses.Active j d) :
      s.delayedCloses.Active j d := by
    have hj := (DelayedCloses.active_set hi).1 hj
    split at hj
    · cases hj
    · exact hj
  refine { h with
    size := (List.length_set ..).trans h.size
    unique := fun j k d e hj hk => h.unique j k d e (hof hj) (hof hk)
    worker := fun j d hj => h.worker j d (hof hj)
    queueing := nofun
    clearing := nofun
    alive := nofun
    queuesItem := fun r hr => ?_ }
  have hpending := DelayedCloses.hasPendingClose_eq_false.1 (h.queuesItem r hr)
  exact DelayedCloses.hasPendingClose_eq_false.2 fun j d hj => hpending j d (hof hj)

theorem CloseOk.step (h : CloseOk s) (ha : a ≠ .stop) (ht : s.Takes a s' e) : CloseOk s' := by
  cases ht with
  | unchanged | batchTaken | handled | dataQueued | clock => exact { h with }
  | scheduled hl hs => exact h.scheduled hl hs
  | accepted => exact h.listen (by rintro r (hr | ⟨_, hr⟩) <;> cases hr)
  | pendingChecked _ hpending =>
    refine h.listen fun r hr => ?_
    rcases hr with hr | ⟨_, hr⟩ <;> cases hr
    exact hpending h.running
  | listenerStops _ hk => exact nomatch h.running.symm.trans hk
  | ackBegins hl =>
    refine h.listen fun r hr => ?_
    rcases hr with hr | ⟨_, hr⟩ <;> cases hr
    exact h.queuesItem _ (.inl hl)
  | noAck hl =>
    refine h.listen fun r hr => ?_
    rcases hr with hr | ⟨_, hr⟩ <;> cases hr
    exact h.queuesItem _ (.inl hl)
  | @queues r token hl =>
    refine { h with queuesItem := fun r' hr => ?_ }
    have hr : ((if r.ready then Listener.waitingAck token else .polling) = .queueing r') ∨
      ∃ token', (if r.ready then Listener.waitingAck token else .polling) = .begun r' token' := hr
    cases hready : r.ready <;> simp [hready] at hr
  | ackReturns => exact h.listen (by rintro r (hr | ⟨_, hr⟩) <;> cases hr)
  | closeStops hk => exact nomatch h.running.symm.trans hk
  | closeSelected _ hnearest _ =>
    refine { h with
      queueing := fun j d hw => ?_
      clearing := nofun
      alive := nofun }
    obtain ⟨rfl, rfl⟩ := CloseWorker.queueing.inj hw
    exact (DelayedCloses.nearest_some hnearest).1
  | @closeQueued i c hw =>
    refine { h with
      queueing := nofun
      clearing := fun j hj => ?_
      alive := nofun }
    obtain rfl := CloseWorker.clearing.inj hj
    exact ⟨c, h.queueing _ c hw⟩
  | closeCleared hw => exact h.cleared hw
  | stop hstop => exact absurd hstop ha

/-! ## Every scheduled close is queued once -/

/-- A close of the source is pending and has not been queued yet. -/
def AwaitsClose (s : ReceiverThreads) (id : Bytes) : Prop :=
  ∃ i c, s.delayedCloses.Active i c ∧ c.sourceId = id ∧ s.closeWorker ≠ .clearing i

/-- The closes that were scheduled have been queued, except for the one that is awaited. -/
def Accounts (s : ReceiverThreads) (id : Bytes) (events : List ThreadEvent) : Prop :=
  (s.AwaitsClose id ∧ scheduledCount id events = closesQueued id events + 1) ∨
  (¬ s.AwaitsClose id ∧ scheduledCount id events = closesQueued id events)

theorem Accounts.frame {id : Bytes} (h : Accounts s id events)
    (hawaits : s'.AwaitsClose id ↔ s.AwaitsClose id) (hs : e ≠ .scheduled id)
    (hc : e.closes id = false) : Accounts s' id (events ++ [e]) := by
  unfold Accounts
  rw [scheduledCount_append, if_neg hs, closesQueued_append, hc, hawaits]
  exact h

theorem Accounts.quiet {id : Bytes} (h : Accounts s id events)
    (hslots : s'.delayedCloses = s.delayedCloses)
    (hworker : ∀ i, s'.closeWorker ≠ .clearing i ↔ s.closeWorker ≠ .clearing i)
    (hs : e ≠ .scheduled id) (hc : e.closes id = false) : Accounts s' id (events ++ [e]) := by
  refine h.frame ?_ hs hc
  unfold AwaitsClose
  rw [hslots]
  exact exists_congr fun i => exists_congr fun c =>
    and_congr_right fun _ => and_congr_right fun _ => hworker i

theorem Accounts.scheduled {id id' : Bytes} {slots : DelayedCloses} (hok : CloseOk s)
    (h : Accounts s id events)
    (hs : s.delayedCloses.scheduleDelayedClose id' (workerOf id') s.now = .scheduled slots) :
    Accounts { s with delayedCloses := slots } id (events ++ [.scheduled id']) := by
  obtain ⟨hpending, i, hfree, rfl⟩ := DelayedCloses.scheduled_spec hs
  rw [DelayedCloses.hasPendingClose_eq_false] at hpending
  have hnotClearing : s.closeWorker ≠ .clearing i := fun hw => by
    obtain ⟨c, hc⟩ := hok.clearing i hw
    exact nomatch hfree.symm.trans hc
  by_cases hid : id' = id
  · subst hid
    have hnone : ¬ s.AwaitsClose id' := by
      rintro ⟨j, c, hj, hc, -⟩
      exact hpending j c hj hc
    have hcount := (h.resolve_left fun ha => hnone ha.1).2
    have hnew : DelayedCloses.Active
        (s.delayedCloses.set i (some ⟨id', workerOf id', s.now + closeGraceTime⟩)) i
        ⟨id', workerOf id', s.now + closeGraceTime⟩ :=
      (DelayedCloses.active_set hfree).2 (by rw [if_pos rfl])
    refine .inl ⟨⟨i, _, hnew, rfl, hnotClearing⟩, ?_⟩
    rw [scheduledCount_append, closesQueued_append, if_pos rfl, hcount]
    rfl
  · refine h.frame ?_ (fun heq => hid (ThreadEvent.scheduled.inj heq)) rfl
    constructor
    · rintro ⟨j, c, hj, hc, hw⟩
      have hj := (DelayedCloses.active_set hfree).1 hj
      split at hj
      next =>
        obtain rfl := Option.some.inj hj
        exact absurd hc hid
      next => exact ⟨j, c, hj, hc, hw⟩
    · rintro ⟨j, c, hj, hc, hw⟩
      refine ⟨j, c, (DelayedCloses.active_set hfree).2 ?_, hc, hw⟩
      rw [if_neg]
      · exact hj
      · rintro rfl
        exact nomatch hfree.symm.trans hj

theorem Accounts.closeQueued {id : Bytes} {i : Nat} {c : DelayedClose} (hok : CloseOk s)
    (h : Accounts s id events) (hw : s.closeWorker = .queueing i c)
    (hslots : s'.delayedCloses = s.delayedCloses) (hw' : s'.closeWorker = .clearing i)
    (he : ∀ id, e.closes id = decide (c.sourceId = id)) (hs : e ≠ .scheduled id) :
    Accounts s' id (events ++ [e]) := by
  have hi := hok.queueing i c hw
  have hself {j : Nat} {d : DelayedClose} (hj : s.delayedCloses.Active j d)
      (hid : d.sourceId = c.sourceId) : i = j := hok.unique i j c d hi hj hid.symm
  by_cases hid : c.sourceId = id
  · subst hid
    have hawaits : s.AwaitsClose c.sourceId := ⟨i, c, hi, rfl, by rw [hw]; nofun⟩
    have hcount := (h.resolve_right fun hn => hn.1 hawaits).2
    refine .inr ⟨?_, ?_⟩
    · rintro ⟨j, d, hj, hd, hne⟩
      rw [hslots] at hj
      exact hne (hw'.trans (hself hj hd ▸ rfl))
    · rw [scheduledCount_append, closesQueued_append, if_neg hs, he, if_pos (by simp), hcount]
  · refine h.frame ?_ hs (by rw [he]; simpa using hid)
    unfold AwaitsClose
    rw [hslots]
    refine exists_congr fun j => exists_congr fun d => and_congr_right fun hj =>
      and_congr_right fun hd => iff_of_true ?_ (by rw [hw]; nofun)
    rintro hcl
    obtain rfl := CloseWorker.clearing.inj (hw'.symm.trans hcl)
    exact hid ((congrArg DelayedClose.sourceId (Option.some.inj
      (Option.some.inj (hi.symm.trans hj)))).trans hd)

theorem awaitsClose_cleared {id : Bytes} {i : Nat} (hok : CloseOk s)
    (hw : s.closeWorker = .clearing i) : (s.closeCleared i).AwaitsClose id ↔ s.AwaitsClose id := by
  obtain ⟨c, hi⟩ := hok.clearing i hw
  constructor
  · rintro ⟨j, d, hj, hd, -⟩
    have hj := (DelayedCloses.active_set hi).1 hj
    split at hj
    next => cases hj
    next hij =>
      exact ⟨j, d, hj, hd, fun hcl => hij (CloseWorker.clearing.inj (hw.symm.trans hcl))⟩
  · rintro ⟨j, d, hj, hd, hne⟩
    refine ⟨j, d, (DelayedCloses.active_set hi).2 ?_, hd, nofun⟩
    rw [if_neg]
    · exact hj
    · rintro rfl
      exact hne hw

theorem accounts_step {id : Bytes} (hok : CloseOk s) (h : Accounts s id events)
    (ha : a ≠ .stop) (ht : s.Takes a s' e) : Accounts s' id (events ++ [e]) := by
  cases ht with
  | unchanged | accepted | pendingChecked | listenerStops | ackBegins | noAck | queues | ackReturns
    | batchTaken | handled | dataQueued | clock => exact h.quiet rfl (fun _ => Iff.rfl) nofun rfl
  | scheduled _ hs => exact h.scheduled hok hs
  | closeStops hk => exact nomatch hok.running.symm.trans hk
  | closeSelected hw =>
    refine h.quiet rfl (fun i => ?_) nofun rfl
    rw [hw]
    exact iff_of_true nofun nofun
  | closeQueued hw => exact h.closeQueued hok hw rfl rfl (fun _ => rfl) nofun
  | closeCleared hw => exact h.frame (awaitsClose_cleared hok hw) nofun rfl
  | stop hstop => exact absurd hstop ha

/-! ## The order on a queue -/

/-- A worker handles what was put on its queue, in that order. -/
def Fifo (s : ReceiverThreads) (events : List ThreadEvent) : Prop :=
  ∀ worker, events.filterMap (ThreadEvent.queuedOn worker) =
    events.filterMap (ThreadEvent.handledBy worker) ++ (s.batches worker ++ s.queues worker)

theorem Fifo.frame (h : Fifo s events) (hqueues : s'.queues = s.queues)
    (hbatches : s'.batches = s.batches) (hqueued : ∀ worker, e.queuedOn worker = none)
    (hhandled : ∀ worker, e.handledBy worker = none) : Fifo s' (events ++ [e]) := by
  intro worker
  rw [List.filterMap_append, List.filterMap_append, List.filterMap_cons, List.filterMap_cons,
    hqueued, hhandled, hqueues, hbatches]
  simpa using h worker

theorem Fifo.pushed (h : Fifo s events) {worker : Nat} {item : QueuedItem}
    (hqueues : s'.queues = (s.push worker item).queues) (hbatches : s'.batches = s.batches)
    (hqueued : ∀ w, e.queuedOn w = if worker = w then some item else none)
    (hhandled : ∀ w, e.handledBy w = none) : Fifo s' (events ++ [e]) := by
  intro w
  rw [List.filterMap_append, List.filterMap_append, List.filterMap_cons, List.filterMap_cons,
    hqueued, hhandled, hqueues, hbatches, h w]
  by_cases hw : worker = w
  · subst hw
    simp [push]
  · have hne : w ≠ worker := fun heq => hw heq.symm
    simp [push, hw, Function.update_of_ne hne]

/-- A worker takes or handles what is in its own queue or batch. -/
theorem Fifo.moved (h : Fifo s events) (hqueued : ∀ w, e.queuedOn w = none)
    (hrest : ∀ w, s.batches w ++ s.queues w =
      (e.handledBy w).toList ++ (s'.batches w ++ s'.queues w)) : Fifo s' (events ++ [e]) := by
  intro w
  have hw := h w
  rw [hrest w] at hw
  rw [List.filterMap_append, List.filterMap_append, List.filterMap_cons, List.filterMap_cons,
    hqueued w, List.filterMap_nil, List.append_nil, List.filterMap_nil, hw]
  cases e.handledBy w with
  | none => simp
  | some item => simp

theorem fifo_step (h : Fifo s events) (ht : s.Takes a s' e) : Fifo s' (events ++ [e]) := by
  cases ht with
  | unchanged | accepted | pendingChecked | listenerStops | ackBegins | noAck | ackReturns
    | closeStops | closeSelected | closeCleared | clock | stop | scheduled =>
    exact h.frame rfl rfl (fun _ => rfl) fun _ => rfl
  | queues => exact h.pushed rfl rfl (fun _ => rfl) fun _ => rfl
  | closeQueued => exact h.pushed rfl rfl (fun _ => rfl) fun _ => rfl
  | dataQueued => exact h.pushed rfl rfl (fun _ => rfl) fun _ => rfl
  | @batchTaken worker hbatch =>
    refine h.moved (fun _ => rfl) fun w => ?_
    by_cases hw : w = worker
    · subst hw
      simp [hbatch, ThreadEvent.handledBy]
    · simp [Function.update_of_ne hw, ThreadEvent.handledBy]
  | @handled worker item rest ok hbatch =>
    refine h.moved (fun _ => rfl) fun w => ?_
    by_cases hw : w = worker
    · subst hw
      simp [hbatch, ThreadEvent.handledBy]
    · have hne : worker ≠ w := fun heq => hw heq.symm
      simp [Function.update_of_ne hw, hne, ThreadEvent.handledBy]

/-! ## A close that is due is queued -/

/-- The deadline of the slot is not after `d`. -/
def dueBy (d : Nat) (slot : Option DelayedClose) : Bool := slot.any (·.deadline ≤ d)

/-- The closes that the close worker can queue before one with the deadline `d`. -/
def ahead (s : ReceiverThreads) (d : Nat) : Nat :=
  match s.closeWorker with
  | .scanning | .stopped => s.delayedCloses.countP (dueBy d)
  | .queueing i _ => List.countP (dueBy d) (s.delayedCloses.set i none) + 1
  | .clearing i => List.countP (dueBy d) (s.delayedCloses.set i none)

theorem ahead_le (s : ReceiverThreads) (d : Nat) : s.ahead d ≤ s.delayedCloses.length + 1 := by
  have hset (i : Nat) : List.countP (dueBy d) (s.delayedCloses.set i none) ≤
      s.delayedCloses.length := by
    simpa using List.countP_le_length (p := dueBy d) (l := s.delayedCloses.set i none)
  have hall := List.countP_le_length (p := dueBy d) (l := s.delayedCloses)
  unfold ahead
  split
  · omega
  · omega
  · exact Nat.succ_le_succ (hset _)
  · exact Nat.le_succ_of_le (hset _)

theorem countP_set_of_not {p : Option DelayedClose → Bool} {slots : DelayedCloses} {i : Nat}
    {slot old : Option DelayedClose} (hi : slots[i]? = some old) (hold : p old = false)
    (hslot : p slot = false) : List.countP p (slots.set i slot) = List.countP p slots := by
  obtain ⟨hlt, hget⟩ := List.getElem?_eq_some_iff.1 hi
  rw [List.countP_set hlt, hget, hold, hslot]
  simp

@[simp] theorem dueBy_some (d : Nat) (c : DelayedClose) :
    dueBy d (some c) = decide (c.deadline ≤ d) := rfl

/-- A slot that is not due by `d` does not count. -/
theorem ahead_set {i d : Nat} {slot : Option DelayedClose} (hok : CloseOk s)
    (hfree : s.delayedCloses[i]? = some none) (hlate : dueBy d slot = false) :
    ahead { s with delayedCloses := s.delayedCloses.set i slot } d = s.ahead d := by
  have hset {j : Nat} {c : DelayedClose} (hj : s.delayedCloses.Active j c) :
      List.countP (dueBy d) ((s.delayedCloses.set i slot).set j none) =
        List.countP (dueBy d) (s.delayedCloses.set j none) := by
    have hij : i ≠ j := by
      rintro rfl
      exact nomatch hfree.symm.trans hj
    rw [List.set_comm _ _ hij]
    refine @countP_set_of_not _ _ _ _ none ?_ rfl hlate
    rw [List.getElem?_set_ne hij.symm]
    exact hfree
  unfold ahead
  dsimp only
  cases hw : s.closeWorker with
  | scanning | stopped => exact countP_set_of_not hfree rfl hlate
  | queueing j c => exact congrArg (· + 1) (hset (hok.queueing j c hw))
  | clearing j =>
    obtain ⟨c, hj⟩ := hok.clearing j hw
    exact hset hj

theorem ahead_scheduled {id : Bytes} {slots : DelayedCloses} {d : Nat} (hok : CloseOk s)
    (hd : d ≤ s.now)
    (hs : s.delayedCloses.scheduleDelayedClose id (workerOf id) s.now = .scheduled slots) :
    ahead { s with delayedCloses := slots } d = s.ahead d := by
  obtain ⟨-, i, hfree, rfl⟩ := DelayedCloses.scheduled_spec hs
  refine ahead_set hok hfree ?_
  have hgrace : 0 < closeGraceTime := Nat.mul_pos (by decide) (Nat.pow_pos (by decide))
  generalize closeGraceTime = g at hgrace ⊢
  rw [dueBy_some, decide_eq_false_iff_not]
  show ¬ s.now + g ≤ d
  omega

theorem ahead_selected {i : Nat} {c : DelayedClose} {d : Nat} (hw : s.closeWorker = .scanning)
    (hi : s.delayedCloses.Active i c) (hd : c.deadline ≤ d) :
    ahead { s with closeWorker := .queueing i c } d = s.ahead d := by
  obtain ⟨hlt, hget⟩ := List.getElem?_eq_some_iff.1 hi
  have hdue : dueBy d (some c) = true := by simpa using hd
  have hpos : 0 < List.countP (dueBy d) s.delayedCloses :=
    List.countP_pos_iff.2 ⟨some c, List.mem_of_getElem? hi, hdue⟩
  have hset : List.countP (dueBy d) (s.delayedCloses.set i none) + 1 =
      List.countP (dueBy d) s.delayedCloses := by
    rw [List.countP_set hlt, hget, hdue, if_pos rfl, if_neg (show dueBy d none ≠ true from nofun)]
    omega
  simp only [ahead, hw]
  exact hset

/-- The close in slot `i`, with the deadline of `c`, has been queued, or it waits for those ahead of
it. -/
def QueuedOrDue (i : Nat) (c : DelayedClose) (s : ReceiverThreads) (events : List ThreadEvent) :
    Prop :=
  0 < closesQueued c.sourceId events ∨
  (s.delayedCloses.Active i c ∧ s.closeWorker ≠ .clearing i ∧ c.deadline ≤ s.now ∧
    events.countP ThreadEvent.isClose + s.ahead c.deadline ≤ maxDelayedCloses + 1)

theorem QueuedOrDue.frame {i : Nat} {c : DelayedClose} (h : QueuedOrDue i c s events)
    (hslot : s.delayedCloses.Active i c → s'.delayedCloses.Active i c)
    (hworker : s'.closeWorker = .clearing i → s.closeWorker = .clearing i)
    (hnow : c.deadline ≤ s.now → c.deadline ≤ s'.now)
    (hahead : c.deadline ≤ s.now → s'.ahead c.deadline = s.ahead c.deadline)
    (he : e.isClose = false) : QueuedOrDue i c s' (events ++ [e]) := by
  rcases h with h | ⟨hi, hw, hdue, hcount⟩
  · left
    rw [closesQueued_append]
    omega
  · refine .inr ⟨hslot hi, fun hcl => hw (hworker hcl), hnow hdue, ?_⟩
    rw [List.countP_append, List.countP_singleton, he, hahead hdue]
    exact hcount

theorem QueuedOrDue.closeQueued {i j : Nat} {c d : DelayedClose} (hok : CloseOk s)
    (h : QueuedOrDue i c s events) (hw : s.closeWorker = .queueing j d)
    (hslots : s'.delayedCloses = s.delayedCloses) (hw' : s'.closeWorker = .clearing j)
    (hnow : s'.now = s.now) (he : ∀ id, e.closes id = decide (d.sourceId = id))
    (hclose : e.isClose = true) : QueuedOrDue i c s' (events ++ [e]) := by
  rcases h with h | ⟨hi, -, hdue, hcount⟩
  · left
    rw [closesQueued_append]
    omega
  · by_cases hij : j = i
    · subst hij
      obtain rfl := Option.some.inj (Option.some.inj (hi.symm.trans (hok.queueing j d hw)))
      left
      rw [closesQueued_append, he, if_pos (by simp)]
      exact Nat.succ_pos _
    · refine .inr ⟨hslots ▸ hi, ?_, hnow ▸ hdue, ?_⟩
      · rw [hw']
        exact fun hcl => hij (CloseWorker.clearing.inj hcl)
      · rw [List.countP_append, List.countP_singleton, hclose, if_pos rfl]
        simp only [ahead, hw] at hcount
        simp only [ahead, hw', hslots]
        omega

theorem queuedOrDue_step {i : Nat} {c : DelayedClose} (hok : CloseOk s)
    (h : QueuedOrDue i c s events) (ha : a ≠ .stop) (hclock : ∀ now, a = .clock now → c.deadline ≤ now)
    (ht : s.Takes a s' e) : QueuedOrDue i c s' (events ++ [e]) := by
  cases ht with
  | unchanged | accepted | pendingChecked | listenerStops | ackBegins | noAck | queues | ackReturns
    | batchTaken | handled | dataQueued => exact h.frame id id id (fun _ => rfl) rfl
  | clock hnow => exact h.frame id id (fun _ => hclock _ hnow) (fun _ => rfl) rfl
  | scheduled _ hs =>
    refine h.frame (fun hi => ?_) id id (fun hdue => ahead_scheduled hok hdue hs) rfl
    obtain ⟨-, j, hfree, rfl⟩ := DelayedCloses.scheduled_spec hs
    refine (DelayedCloses.active_set hfree).2 ?_
    rw [if_neg]
    · exact hi
    · rintro rfl
      exact nomatch hfree.symm.trans hi
  | closeStops hk => exact nomatch hok.running.symm.trans hk
  | closeSelected hw hnearest =>
    rcases h with h | hdue
    · left
      rw [closesQueued_append]
      omega
    · have hsel := DelayedCloses.nearest_some hnearest
      exact QueuedOrDue.frame (.inr hdue) id nofun id
        (fun _ => ahead_selected hw hsel.1 (hsel.2 i c hdue.1)) rfl
  | closeQueued hw => exact h.closeQueued hok hw rfl rfl rfl (fun _ => rfl) rfl
  | @closeCleared j hw =>
    rcases h with h | ⟨hi, hne, hdue, hcount⟩
    · left
      rw [closesQueued_append]
      omega
    · obtain ⟨d, hj⟩ := hok.clearing j hw
      refine .inr ⟨(DelayedCloses.active_set hj).2 ?_, nofun, hdue, ?_⟩
      · rw [if_neg]
        · exact hi
        · rintro rfl
          exact hne hw
      · rw [List.countP_append, List.countP_singleton]
        simp only [ahead, hw] at hcount
        exact hcount
  | stop hstop => exact absurd hstop ha

/-! ## Runs -/

/-- What the close worker does next, as soon as it can. -/
structure CloseProgress (s : ReceiverThreads) : Prop where
  selected : s.closeWorker = .scanning → ∀ i c, s.delayedCloses.Active i c → c.deadline ≤ s.now →
    ∃ j d, (s.step .closeSelected).1.closeWorker = .queueing j d
  queued : ∀ i c, s.closeWorker = .queueing i c → s.hasSpace (workerOf c.sourceId) = true →
    (s.step .closeQueued).2 =
      .delayedCloseQueued (workerOf c.sourceId) { item := .closing, sourceId := c.sourceId }
  cleared : ∀ i, s.closeWorker = .clearing i → (s.step .closeCleared).1.closeWorker = .scanning
  alive : s.closeWorker ≠ .stopped

theorem CloseOk.progress (h : CloseOk s) : CloseProgress s where
  selected hw i c hi hdue := by
    obtain ⟨j, d, hnearest⟩ := DelayedCloses.nearest_isSome hi
    have hle := (DelayedCloses.nearest_some hnearest).2 i c hi
    refine ⟨j, d, ?_⟩
    simp only [ReceiverThreads.step, hw, if_true, ReceiverThreads.closeSelected, h.running, Bool.not_true, Bool.false_eq_true,
      if_false, hnearest]
    rw [if_neg (by omega)]
  queued i c hw hspace := by
    have hworker := h.worker i c (h.queueing i c hw)
    simp [ReceiverThreads.step, hw, ReceiverThreads.closeQueued, h.running, hworker, hspace]
  cleared i hw := by simp only [ReceiverThreads.step, hw, closeCleared]
  alive := h.alive

/-- What holds after every run without a shutdown. -/
def CloseRun (s : ReceiverThreads) (events : List ThreadEvent) : Prop :=
  CloseOk s ∧ (∀ id, Accounts s id events) ∧ Fifo s events

theorem closeRun_init : CloseRun {} [] := by
  refine ⟨closeOk_init, fun id => .inr ⟨?_, rfl⟩, fun worker => rfl⟩
  rintro ⟨i, c, hi, -⟩
  exact nomatch (List.eq_of_mem_replicate (List.mem_of_getElem? hi))

theorem closeRun {actions : List Action} (h : Action.stop ∉ actions) :
    CloseRun (finalState step {} actions) (outputs step {} actions) := by
  refine outputs_invariant (C := (· ≠ .stop)) (fun s events a hs ha => ?_) closeRun_init
    fun a hmem => ne_of_mem_of_not_mem hmem h
  have ht := step_cases s a
  exact ⟨hs.1.step ha ht, fun id => accounts_step hs.1 (hs.2.1 id) ha ht, fifo_step hs.2.2 ht⟩

/-- The state in which an event of a run happened. -/
theorem closeRun_at {actions : List Action} (h : Action.stop ∉ actions) {pre post : List ThreadEvent}
    {e : ThreadEvent} (he : outputs step {} actions = pre ++ e :: post) :
    ∃ s a s', CloseRun s pre ∧ s.Takes a s' e := by
  obtain ⟨actions₁, a, actions₂, rfl, rfl, rfl, -⟩ := outputs_eq_append_cons he
  exact ⟨_, a, _, closeRun fun hmem => h (List.mem_append_left _ hmem), step_cases _ a⟩

/-- A close that is due is queued before more than `maxDelayedCloses + 1` others are. -/
theorem closesQueued_pos {more : List Action} {i : Nat} {c : DelayedClose} (hok : CloseOk s)
    (hi : s.delayedCloses.Active i c) (hw : s.closeWorker ≠ .clearing i) (hdue : c.deadline ≤ s.now)
    (hmore : ∀ a ∈ more, a ≠ .stop ∧ ∀ now, a = .clock now → c.deadline ≤ now)
    (hcount : maxDelayedCloses + 1 < (outputs step s more).countP ThreadEvent.isClose) :
    0 < closesQueued c.sourceId (outputs step s more) := by
  have hinit : QueuedOrDue i c s [] := by
    refine .inr ⟨hi, hw, hdue, ?_⟩
    have := s.ahead_le c.deadline
    rw [hok.size] at this
    simpa using this
  have hrun : CloseOk (finalState step s more) ∧
      QueuedOrDue i c (finalState step s more) (outputs step s more) := by
    refine outputs_invariant (I := fun s events => CloseOk s ∧ QueuedOrDue i c s events)
      (fun s events a hs ha => ?_) ⟨hok, hinit⟩ hmore
    have ht := step_cases s a
    exact ⟨hs.1.step ha.1 ht, queuedOrDue_step hs.1 hs.2 ha.1 ha.2 ht⟩
  refine hrun.2.resolve_right ?_
  rintro ⟨-, -, -, hle⟩
  omega

theorem of_takes_delayedCloseQueued {worker : Nat} {item : QueuedItem} (hok : CloseOk s)
    (ht : s.Takes a s' (.delayedCloseQueued worker item)) :
    item.item = .closing ∧ worker = workerOf item.sourceId := by
  cases ht with
  | closeQueued hw => exact ⟨rfl, hok.worker _ _ (hok.queueing _ _ hw)⟩

/-- An OPEN is queued while no close of the source is pending. -/
theorem of_takes_queued_opening {worker : Nat} {item : QueuedItem} (hok : CloseOk s)
    (hitem : item.item = .opening) (ht : s.Takes a s' (.queued worker item)) :
    worker = workerOf item.sourceId ∧ ¬ s.AwaitsClose item.sourceId := by
  cases ht with
  | dataQueued => cases hitem
  | @queues r token listener =>
    have hid : (r.queuedItem token).sourceId = r.id := by cases r <;> rfl
    rw [hid]
    refine ⟨rfl, ?_⟩
    rintro ⟨i, c, hi, hc, -⟩
    have hnone := hok.queuesItem r (.inr ⟨token, listener⟩)
    exact DelayedCloses.hasPendingClose_eq_false.1 hnone i c hi hc

/-- In every run without a shutdown: the closes scheduled for a source have put as many CLOSE items
on the queue of its worker, except for the one that is pending; an OPEN of the source goes to the
same queue, and when it does every close scheduled before has its CLOSE item there; a worker handles
its queue in order; and a pending close that is due is not overtaken without end, nor stuck. -/
theorem delayedClose_once {actions : List Action} (h : Action.stop ∉ actions) :
    (∀ id, Accounts (finalState step {} actions) id (outputs step {} actions)) ∧
    (∀ worker item, .delayedCloseQueued worker item ∈ outputs step {} actions →
      item.item = .closing ∧ worker = workerOf item.sourceId) ∧
    (∀ pre worker item post, outputs step {} actions = pre ++ .queued worker item :: post →
      item.item = .opening → worker = workerOf item.sourceId ∧
        scheduledCount item.sourceId pre = closesQueued item.sourceId pre) ∧
    (∀ worker, (outputs step {} actions).filterMap (ThreadEvent.handledBy worker) <+:
      (outputs step {} actions).filterMap (ThreadEvent.queuedOn worker)) ∧
    (∀ i c, (finalState step {} actions).delayedCloses.Active i c →
      (finalState step {} actions).closeWorker ≠ .clearing i →
      c.deadline ≤ (finalState step {} actions).now →
      ∀ more, (∀ a ∈ more, a ≠ .stop ∧ ∀ now, a = .clock now → c.deadline ≤ now) →
        maxDelayedCloses + 1 <
          (outputs step (finalState step {} actions) more).countP ThreadEvent.isClose →
        0 < closesQueued c.sourceId (outputs step (finalState step {} actions) more)) ∧
    CloseProgress (finalState step {} actions) := by
  obtain ⟨hok, haccounts, hfifo⟩ := closeRun h
  refine ⟨haccounts, fun worker item hmem => ?_, fun pre worker item post hpre hitem => ?_,
    fun worker => ⟨_, (hfifo worker).symm⟩, fun i c hi hw hdue more => closesQueued_pos hok hi hw hdue,
    hok.progress⟩
  · obtain ⟨pre, post, hpre⟩ := List.append_of_mem hmem
    obtain ⟨s, a, s', hs, ht⟩ := closeRun_at h hpre
    exact of_takes_delayedCloseQueued hs.1 ht
  · obtain ⟨s, a, s', hs, ht⟩ := closeRun_at h hpre
    obtain ⟨hworker, hnone⟩ := of_takes_queued_opening hs.1 hitem ht
    exact ⟨hworker, ((hs.2.1 item.sourceId).resolve_left fun hawaits => hnone hawaits.1).2⟩

/-- Two CLOSE requests and an OPEN of one source: the second CLOSE is merged, the OPEN waits. -/
def closeThenOpen (id : Bytes) : List Action :=
  [.request (.close id), .request (.close id), .request (.queue (.opening false id)),
    .pendingChecked, .clock closeGraceTime, .closeSelected, .closeQueued, .closeCleared,
    .pendingChecked, .ackBegins, .queues]

theorem delayedClose_once_closeThenOpen :
    Accounts (finalState step {} (closeThenOpen [65])) [65]
      (outputs step {} (closeThenOpen [65])) :=
  (@delayedClose_once (closeThenOpen [65]) (by decide)).1 [65]

end ReceiverThreads

end MultiDAQ.Receiver
