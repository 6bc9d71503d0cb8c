import Mathlib.Data.Nat.ModEq
import Mathlib.Order.Bounds.Basic
import MultiDAQ.Lib.Run
import MultiDAQ.Lib.Threads
import MultiDAQ.Server.TimeSyncSchedule

/-!
# The schedule of the time synchronisations

A client is in progress exactly as long as one thread is responsible for it: the scheduler that has
taken it, or the worker that synchronises it (`Inv.claimed`). A scheduler takes only clients that are
not in progress, and not more than there are slots left; each of its branches passes the client on to
a worker or releases it, and so does each branch of a worker in the end. The schedule itself never
loses a client.
-/

namespace MultiDAQ.Server

open MultiDAQ.Lib

/-! ## Slots -/

/-- The first number from `n` on that is congruent to `p` modulo `m`. -/
theorem isLeast_slot {p m : Nat} (hp : p < m) (n : Nat) :
    IsLeast {t | n ≤ t ∧ t ≡ p [MOD m]}
      (if n ≤ p then p else (n - p + m - 1) / m * m + p) := by
  have hm : 0 < m := Nat.zero_lt_of_lt hp
  split
  next hle =>
    refine ⟨⟨hle, rfl⟩, fun t ht => ?_⟩
    have hmod : t % m = p := by
      rw [ht.2, Nat.mod_eq_of_lt hp]
    rw [← hmod]
    exact Nat.mod_le t m
  next hlt =>
    have hceil : n - p ≤ (n - p + m - 1) / m * m := by
      have hdiv := Nat.div_add_mod' (n - p + m - 1) m
      have hrest := Nat.mod_lt (n - p + m - 1) hm
      omega
    refine ⟨⟨by omega, ?_⟩, fun t ht => ?_⟩
    · exact (Nat.modEq_zero_iff_dvd.2 (Nat.dvd_mul_left m _)).add_right p |>.trans (by rw [zero_add])
    · obtain ⟨hn, hmod⟩ := ht
      obtain ⟨k, hk⟩ := (Nat.modEq_iff_dvd' (by omega)).1 hmod.symm
      have hcycles : (n - p + m - 1) / m ≤ k := by
        refine Nat.le_of_lt_succ ((Nat.div_lt_iff_lt_mul hm).2 ?_)
        rw [Nat.succ_mul, Nat.mul_comm k m]
        omega
      have hle : (n - p + m - 1) / m * m ≤ k * m := Nat.mul_le_mul_right m hcycles
      have hcomm : k * m = m * k := Nat.mul_comm k m
      omega

section Slots

variable (sha256 : List UInt8 → List UInt8) (clientId : ClientId)

theorem timeSyncPhase_lt : timeSyncPhase sha256 clientId timeSyncPeriodNs < timeSyncPeriodNs :=
  Nat.mod_lt _ (by decide)

theorem nextTimeSyncSlotNs_isLeast (notBeforeNs : Nat) :
    IsLeast {t | notBeforeNs ≤ t ∧
        t ≡ timeSyncPhase sha256 clientId timeSyncPeriodNs [MOD timeSyncPeriodNs]}
      (nextTimeSyncSlotNs sha256 clientId notBeforeNs) :=
  isLeast_slot (timeSyncPhase_lt sha256 clientId) notBeforeNs

/-- After a synchronisation the next slot is later than it. -/
theorem lt_nextResyncAfter (syncedAtNs : Nat) (initialSync : Bool) :
    syncedAtNs < nextResyncAfter sha256 clientId syncedAtNs initialSync := by
  have hlater : syncedAtNs <
      if initialSync then syncedAtNs + timeSyncPeriodNs else syncedAtNs + 1 := by
    have hperiod : 0 < timeSyncPeriodNs := by decide
    split <;> omega
  exact Nat.lt_of_lt_of_le hlater (nextTimeSyncSlotNs_isLeast sha256 clientId _).1.1

end Slots

namespace TimeSyncSchedule

variable {s s' : TimeSyncSchedule} {i nowNs : Nat} {c : ClientId}

/-! ## The clients of a turn -/

theorem mem_dueClients {e : Nat × ClientId} : e ∈ s.dueClients nowNs ↔
    s.nextResyncNs.get? e.2 = some e.1 ∧ e.1 ≤ nowNs ∧ e.2 ∉ s.resyncInProgress := by
  obtain ⟨at', c⟩ := e
  unfold dueClients
  rw [List.mem_map]
  constructor
  · rintro ⟨⟨c', at''⟩, hmem, heq⟩
    obtain ⟨rfl, rfl⟩ := Prod.mk.inj heq
    obtain ⟨hentry, hdue⟩ := List.mem_filter.1 hmem
    simp only [Bool.and_eq_true, Bool.not_eq_true', decide_eq_false_iff_not, not_lt] at hdue
    exact ⟨Dict.mem_entries.1 hentry, hdue⟩
  · rintro ⟨hentry, hdue⟩
    refine ⟨(c, at'), List.mem_filter.2 ⟨Dict.mem_entries.2 hentry, ?_⟩, rfl⟩
    simpa only [Bool.and_eq_true, Bool.not_eq_true', decide_eq_false_iff_not, not_lt] using hdue

/-- As there is one entry for each client, no client is due twice. -/
theorem nodup_dueClients (s : TimeSyncSchedule) (nowNs : Nat) :
    ((s.dueClients nowNs).map Prod.snd).Nodup := by
  unfold dueClients
  rw [List.map_map]
  exact s.nextResyncNs.nodup.sublist (List.filter_sublist.map Prod.fst)

theorem firstSlots_sublist {α : Type} (due : List α) (availableSlots : Int) :
    (firstSlots due availableSlots).Sublist due := by
  unfold firstSlots
  split <;> exact List.take_sublist ..

theorem nodup_taken (s : TimeSyncSchedule) (nowNs : Nat) : (s.taken nowNs).Nodup := by
  have hsorted := (List.perm_insertionSort dueLe (s.dueClients nowNs)).map Prod.snd
  exact (hsorted.nodup_iff.2 (nodup_dueClients s nowNs)).sublist ((firstSlots_sublist _ _).map _)

/-- A client that is taken was due, and not in progress. -/
theorem of_mem_taken (h : c ∈ s.taken nowNs) :
    (∃ nextNs, s.nextResyncNs.get? c = some nextNs ∧ nextNs ≤ nowNs) ∧ c ∉ s.resyncInProgress := by
  obtain ⟨⟨nextNs, c⟩, hmem, rfl⟩ := List.mem_map.1 h
  have hdue := (List.mem_insertionSort dueLe).1 ((firstSlots_sublist _ _).subset hmem)
  obtain ⟨hentry, hle, hfree⟩ := mem_dueClients.1 hdue
  exact ⟨⟨nextNs, hentry, hle⟩, hfree⟩

/-- All the clients that are due are taken, or as many as there are slots. -/
theorem length_taken (h : s.resyncInProgress.card ≤ syncWorkers) :
    (s.taken nowNs).length = min (syncWorkers - s.resyncInProgress.card)
      (s.dueClients nowNs).length := by
  have hnonneg : (0 : Int) ≤ syncWorkers - s.resyncInProgress.card := by omega
  unfold taken firstSlots
  rw [List.length_map, if_pos hnonneg, List.length_take, List.length_insertionSort]
  congr 1
  omega

/-- A client that is due is taken, unless all the slots are used. -/
theorem mem_taken_or_full {nextNs : Nat} (h : s.resyncInProgress.card ≤ syncWorkers)
    (hentry : s.nextResyncNs.get? c = some nextNs) (hdue : nextNs ≤ nowNs)
    (hfree : c ∉ s.resyncInProgress) :
    c ∈ s.taken nowNs ∨ s.resyncInProgress.card + (s.taken nowNs).length = syncWorkers := by
  have hlength : (s.taken nowNs).length = min _ _ := length_taken h
  by_cases hroom : (s.dueClients nowNs).length ≤ syncWorkers - s.resyncInProgress.card
  · refine .inl (List.mem_map.2 ⟨(nextNs, c), ?_, rfl⟩)
    have hnonneg : (0 : Int) ≤ syncWorkers - s.resyncInProgress.card := by omega
    unfold firstSlots
    rw [if_pos hnonneg, List.take_of_length_le]
    · exact (List.mem_insertionSort dueLe).2 (mem_dueClients.2 ⟨hentry, hdue, hfree⟩)
    · rw [List.length_insertionSort]
      omega
  · exact .inr (by omega)

/-! ## Who is responsible for a client -/

/-- How many synchronisations of the client a worker has to end. -/
def syncs (c : ClientId) (worker : SyncWorker) : Nat := if worker.client? = some c then 1 else 0

/-- How many threads are responsible for the client. -/
def held (s : TimeSyncSchedule) (c : ClientId) : Nat :=
  (s.schedulers.map (·.claimed.count c)).sum + (s.workers.map (syncs c)).sum

theorem held_setScheduler {old : SchedulerThread} (h : s.schedulers[i]? = some old)
    (new : SchedulerThread) (c : ClientId) :
    (s.setScheduler i new).held c + old.claimed.count c = s.held c + new.claimed.count c := by
  have hsum := sum_map_set (·.claimed.count c) new h
  unfold held setScheduler
  dsimp only
  omega

theorem held_setWorker {old : SyncWorker} (h : s.workers[i]? = some old) (new : SyncWorker)
    (c : ClientId) : (s.setWorker i new).held c + syncs c old = s.held c + syncs c new := by
  have hsum := sum_map_set (syncs c) new h
  unfold held setWorker
  dsimp only
  omega

/-- A client is in progress exactly when a thread is responsible for it, and then it is one thread. -/
structure Inv (s : TimeSyncSchedule) : Prop where
  held_le_one : ∀ c, s.held c ≤ 1
  mem_iff : ∀ c, c ∈ s.resyncInProgress ↔ 0 < s.held c
  bounded : s.resyncInProgress.card ≤ syncWorkers

theorem inv_initial : ({} : TimeSyncSchedule).Inv where
  held_le_one _ := Nat.zero_le 1
  mem_iff _ := ⟨fun h => absurd h (Finset.notMem_empty _), fun h => absurd h (Nat.lt_irrefl 0)⟩
  bounded := Nat.zero_le _

namespace Inv

/-- The clients are passed on from thread to thread. -/
theorem pass (h : s.Inv) (hprogress : s'.resyncInProgress = s.resyncInProgress)
    (hheld : ∀ c, s'.held c = s.held c) : s'.Inv where
  held_le_one c := by rw [hheld]; exact h.held_le_one c
  mem_iff c := by rw [hheld, hprogress]; exact h.mem_iff c
  bounded := by rw [hprogress]; exact h.bounded

/-- A scheduler goes on with the same clients. -/
theorem passScheduler {old : SchedulerThread} (h : s.Inv) (hold : s.schedulers[i]? = some old)
    (new : SchedulerThread) (hclaimed : new.claimed = old.claimed) (next : Dict ClientId Nat) :
    ({ s with nextResyncNs := next }.setScheduler i new).Inv := by
  refine h.pass rfl fun c => ?_
  have hheld := held_setScheduler (s := { s with nextResyncNs := next }) hold new c
  rw [hclaimed] at hheld
  exact Nat.add_right_cancel hheld

/-- A worker goes on with the same client. -/
theorem passWorker {old : SyncWorker} (h : s.Inv) (hold : s.workers[i]? = some old)
    (new : SyncWorker) (hclient : new.client? = old.client?) (next : Dict ClientId Nat) :
    ({ s with nextResyncNs := next }.setWorker i new).Inv := by
  refine h.pass rfl fun c => ?_
  have hheld := held_setWorker (s := { s with nextResyncNs := next }) hold new c
  have hsame : syncs c new = syncs c old := by
    unfold syncs
    rw [hclient]
  rw [hsame] at hheld
  exact Nat.add_right_cancel hheld

/-- The thread that is responsible for a client releases it. -/
theorem release (h : s.Inv) (hprogress : s'.resyncInProgress = s.resyncInProgress.erase c)
    (hheld : ∀ c', s'.held c' + (if c = c' then 1 else 0) = s.held c') : s'.Inv := by
  refine ⟨fun c' => ?_, fun c' => ?_, ?_⟩
  · have hc' := hheld c'
    have hle := h.held_le_one c'
    omega
  · have hc' := hheld c'
    have hle := h.held_le_one c'
    rw [hprogress, Finset.mem_erase, h.mem_iff]
    by_cases heq : c = c'
    · rw [if_pos heq] at hc'
      exact ⟨fun hmem => absurd heq.symm hmem.1, fun hpos => by omega⟩
    · rw [if_neg heq] at hc'
      exact ⟨fun hmem => by omega, fun hpos => ⟨Ne.symm heq, by omega⟩⟩
  · rw [hprogress]
    exact Finset.card_erase_le.trans h.bounded

/-- A scheduler takes the clients of a turn. -/
theorem take (h : s.Inv) (hprogress : s'.resyncInProgress =
      s.resyncInProgress ∪ (s.taken nowNs).toFinset)
    (hheld : ∀ c, s'.held c = s.held c + (s.taken nowNs).count c) : s'.Inv := by
  have hcount (c : ClientId) : (s.taken nowNs).count c ≤ 1 :=
    List.nodup_iff_count_le_one.1 (nodup_taken s nowNs) c
  have hnew {c : ClientId} (hmem : c ∈ s.taken nowNs) : s.held c = 0 := by
    have hfree := (of_mem_taken hmem).2
    rw [h.mem_iff] at hfree
    omega
  refine ⟨fun c => ?_, fun c => ?_, ?_⟩
  · rw [hheld]
    by_cases hmem : c ∈ s.taken nowNs
    · rw [hnew hmem, Nat.zero_add]
      exact hcount c
    · rw [List.count_eq_zero_of_not_mem hmem]
      exact h.held_le_one c
  · rw [hprogress, Finset.mem_union, List.mem_toFinset, h.mem_iff, hheld, ← List.count_pos_iff]
    omega
  · rw [hprogress]
    have hunion := Finset.card_union_le s.resyncInProgress (s.taken nowNs).toFinset
    have hcard := List.toFinset_card_le (s.taken nowNs)
    have hlength : (s.taken nowNs).length = min _ _ := length_taken h.bounded
    have hbounded := h.bounded
    omega

theorem turn (h : s.Inv) (i nowNs : Nat) : (s.turn i nowNs).Inv := by
  unfold TimeSyncSchedule.turn
  split
  next hwaiting =>
    refine h.take rfl fun c => ?_
    exact held_setScheduler
      (s := { s with resyncInProgress := s.resyncInProgress ∪ (s.taken nowNs).toFinset }) hwaiting
      (.starting (s.taken nowNs)) c
  next => exact h

theorem advance (h : s.Inv) (i : Nat) (ok : Bool) (nowNs : Nat) : (s.advance i ok nowNs).Inv := by
  unfold TimeSyncSchedule.advance
  split
  next hdone => exact h.passScheduler hdone .waiting rfl s.nextResyncNs
  next c due hnext =>
    have hclaimed : (if ok then SchedulerThread.submitting c due else .releasing c due).claimed =
        c :: due := by
      cases ok <;> rfl
    exact h.passScheduler hnext _ hclaimed s.nextResyncNs
  next c due hsubmit =>
    split
    next =>
      refine h.pass rfl fun c' => ?_
      have hheld := held_setScheduler (s := { s with workers := s.workers ++ [.synchronizing c] })
        hsubmit (.starting due) c'
      have hworker : held { s with workers := s.workers ++ [.synchronizing c] } c' =
          s.held c' + if c = c' then 1 else 0 := by
        unfold held
        simp only [List.map_append, List.sum_append, List.map_cons, List.map_nil,
          List.sum_singleton, syncs, SyncWorker.client?, Option.some.injEq]
        omega
      simp only [hworker, SchedulerThread.claimed, List.count_cons, beq_iff_eq] at hheld
      omega
    next => exact h.passScheduler hsubmit (.releasing c due) rfl s.nextResyncNs
  next c due hrelease =>
    refine h.release (c := c) rfl fun c' => ?_
    have hheld := held_setScheduler (s := s.discard c) hrelease (.retrying c due) c'
    have hdiscard : (s.discard c).held c' = s.held c' := rfl
    simp only [SchedulerThread.claimed, List.count_cons, beq_iff_eq, hdiscard] at hheld
    omega
  next c due hretry => exact h.passScheduler hretry (.starting due) rfl _
  next => exact h

theorem work (h : s.Inv) (sha256 : List UInt8 → List UInt8) (i : Nat) (outcome : WorkOutcome) :
    (s.work sha256 i outcome).Inv := by
  unfold TimeSyncSchedule.work
  split
  next c hsync =>
    split
    · exact h.passWorker hsync (.raised c) rfl s.nextResyncNs
    · exact h.passWorker hsync (.failed c) rfl s.nextResyncNs
    · exact h.passWorker hsync (.finishing c) rfl _
  next c hfailed =>
    split
    · exact h.passWorker hfailed (.raised c) rfl s.nextResyncNs
    · exact h.passWorker hfailed (.finishing c) rfl _
  next c hraised =>
    split
    · exact h.passWorker hraised (.finishing c) rfl s.nextResyncNs
    · exact h.passWorker hraised (.finishing c) rfl _
  next c hfinish =>
    refine h.release (c := c) rfl fun c' => ?_
    have hheld := held_setWorker (s := s.discard c) hfinish .ended c'
    have hdiscard : (s.discard c).held c' = s.held c' := rfl
    simp only [syncs, SyncWorker.client?, hdiscard, Option.some.injEq, reduceCtorEq, if_false,
      Nat.add_zero] at hheld
    exact hheld
  next => exact h

end Inv

/-- One step keeps the invariant. -/
theorem step_inv (sha256 : List UInt8 → List UInt8) (s : TimeSyncSchedule) (a : ScheduleAction)
    (h : s.Inv) : (s.step sha256 a).Inv := by
  cases a with
  | start =>
    refine h.pass rfl fun c => ?_
    show held { s with schedulers := s.schedulers ++ [.waiting] } c = s.held c
    unfold held
    simp only [List.map_append, List.sum_append, List.map_cons, List.map_nil, List.sum_singleton,
      SchedulerThread.claimed, List.count_nil, Nat.add_zero]
  | stop i =>
    show (if s.schedulers[i]? = some .waiting then s.setScheduler i .ended else s).Inv
    split
    next hwaiting => exact h.passScheduler hwaiting .ended rfl s.nextResyncNs
    next => exact h
  | turn i nowNs => exact h.turn i nowNs
  | advance i ok nowNs => exact h.advance i ok nowNs
  | work i outcome => exact h.work sha256 i outcome
  | reschedule c syncedAtNs initialSync => exact h.pass rfl fun _ => rfl

/-! ## What the invariant says -/

/-- The workers that synchronise the client. -/
theorem sum_syncs (c : ClientId) (workers : List SyncWorker) :
    (workers.map (syncs c)).sum = workers.countP fun w => w.client? = some c := by
  induction workers with
  | nil => rfl
  | cons w workers ih =>
    rw [List.map_cons, List.sum_cons, List.countP_cons, ih, Nat.add_comm]
    simp only [syncs, decide_eq_true_eq]

theorem Inv.countP_le_one (h : s.Inv) (c : ClientId) :
    (s.workers.countP fun w => w.client? = some c) ≤ 1 := by
  have hle := h.held_le_one c
  unfold held at hle
  rw [sum_syncs] at hle
  omega

theorem Inv.mem_iff_exists (h : s.Inv) (c : ClientId) : c ∈ s.resyncInProgress ↔
    (∃ t ∈ s.schedulers, c ∈ t.claimed) ∨ ∃ w ∈ s.workers, w.client? = some c := by
  have hscheduler : 0 < (s.schedulers.map (·.claimed.count c)).sum ↔
      ∃ t ∈ s.schedulers, c ∈ t.claimed := by
    simp only [sum_map_pos_iff, List.count_pos_iff]
  have hworker : 0 < (s.workers.map (syncs c)).sum ↔ ∃ w ∈ s.workers, w.client? = some c := by
    rw [sum_syncs, List.countP_pos_iff]
    simp only [decide_eq_true_eq]
  rw [h.mem_iff, ← hscheduler, ← hworker]
  unfold held
  omega

/-- A client that is due is in progress after a turn, unless all the slots are used. -/
theorem Inv.turn_takes_due {nextNs : Nat} (h : s.Inv) (hwaiting : s.schedulers[i]? = some .waiting)
    (hentry : s.nextResyncNs.get? c = some nextNs) (hdue : nextNs ≤ nowNs) :
    c ∈ (s.turn i nowNs).resyncInProgress ∨
      (s.turn i nowNs).resyncInProgress.card = syncWorkers := by
  have hprogress : (s.turn i nowNs).resyncInProgress =
      s.resyncInProgress ∪ (s.taken nowNs).toFinset := by
    unfold TimeSyncSchedule.turn
    rw [hwaiting]
    rfl
  rw [hprogress]
  by_cases hmem : c ∈ s.resyncInProgress
  · exact .inl (Finset.mem_union_left _ hmem)
  · rcases mem_taken_or_full h.bounded hentry hdue hmem with htaken | hfull
    · exact .inl (Finset.mem_union_right _ (List.mem_toFinset.2 htaken))
    · refine .inr ?_
      have hdisjoint : Disjoint s.resyncInProgress (s.taken nowNs).toFinset :=
        Finset.disjoint_right.2 fun c hc => (of_mem_taken (List.mem_toFinset.1 hc)).2
      rw [Finset.card_union_of_disjoint hdisjoint,
        List.toFinset_card_of_nodup (nodup_taken s nowNs), hfull]

/-! ## Workers -/

/-- An action is a step of this worker. -/
def worksOn (i : Nat) : ScheduleAction → Bool
  | .work j _ => j = i
  | _ => false

/-- The steps that a worker may still have to take. -/
def rank : SyncWorker → Nat
  | .synchronizing _ => 4
  | .failed _ => 3
  | .raised _ => 2
  | .finishing _ => 1
  | .ended => 0

variable {sha256 : List UInt8 → List UInt8} {w : SyncWorker}

/-- A worker stands still while others act. -/
theorem workers_step {a : ScheduleAction} (ha : worksOn i a = false) (hw : s.workers[i]? = some w) :
    (s.step sha256 a).workers[i]? = some w := by
  cases a with
  | start => exact hw
  | stop j =>
    show (if s.schedulers[j]? = some .waiting then s.setScheduler j .ended else s).workers[i]? = _
    split <;> exact hw
  | turn j nowNs =>
    show (s.turn j nowNs).workers[i]? = _
    unfold turn
    split <;> exact hw
  | advance j ok nowNs =>
    show (s.advance j ok nowNs).workers[i]? = _
    unfold advance
    split
    next => exact hw
    next => exact hw
    next =>
      split
      next =>
        show (s.workers ++ [_])[i]? = some w
        rw [List.getElem?_append_left (List.getElem?_eq_some_iff.1 hw).1, hw]
      next => exact hw
    next => exact hw
    next => exact hw
    next => exact hw
  | work j outcome =>
    have hne : j ≠ i := by simpa [worksOn] using ha
    have hset (new : SyncWorker) : (s.workers.set j new)[i]? = some w := by
      rw [List.getElem?_set_ne hne, hw]
    show (s.work sha256 j outcome).workers[i]? = _
    unfold work
    split
    next => split <;> exact hset _
    next => split <;> exact hset _
    next => split <;> exact hset _
    next => exact hset _
    next => exact hw
  | reschedule => exact hw

/-- Each step of a worker, however its synchronisation goes, brings it nearer to its end. -/
theorem rank_work (sha256 : List UInt8 → List UInt8) (hw : s.workers[i]? = some w)
    (outcome : WorkOutcome) :
    ∃ w', (s.work sha256 i outcome).workers[i]? = some w' ∧ rank w' ≤ rank w - 1 := by
  have hset (new : SyncWorker) : (s.workers.set i new)[i]? = some new :=
    getElem?_set_self_of_some new hw
  unfold work
  rw [hw]
  cases w with
  | synchronizing c =>
    dsimp only
    split
    · exact ⟨_, hset (.raised c), by simp only [rank]; decide⟩
    · exact ⟨_, hset (.failed c), by simp only [rank]; decide⟩
    · exact ⟨_, hset (.finishing c), by simp only [rank]; decide⟩
  | failed c =>
    dsimp only
    split
    · exact ⟨_, hset (.raised c), by simp only [rank]; decide⟩
    · exact ⟨_, hset (.finishing c), by simp only [rank]; decide⟩
  | raised c =>
    dsimp only
    split
    · exact ⟨_, hset (.finishing c), by simp only [rank]; decide⟩
    · exact ⟨_, hset (.finishing c), by simp only [rank]; decide⟩
  | finishing c => exact ⟨_, hset .ended, by simp only [rank]; decide⟩
  | ended => exact ⟨_, hw, by simp only [rank]; decide⟩

/-- What is left of a worker's steps in a run. -/
theorem rank_run (sha256 : List UInt8 → List UInt8) (as : List ScheduleAction)
    (hw : s.workers[i]? = some w) :
    ∃ w', (run (step sha256) s as).workers[i]? = some w' ∧
      rank w' ≤ rank w - as.countP (worksOn i) := by
  induction as generalizing s w with
  | nil => exact ⟨w, hw, Nat.le_refl _⟩
  | cons a as ih =>
    rw [run_cons, List.countP_cons]
    cases ha : worksOn i a with
    | false =>
      obtain ⟨w', hw', hrank⟩ := ih (workers_step ha hw)
      refine ⟨w', hw', ?_⟩
      rw [if_neg Bool.false_ne_true]
      exact hrank
    | true =>
      obtain ⟨outcome, rfl⟩ : ∃ outcome, a = .work i outcome := by
        cases a with
        | work j outcome =>
          obtain rfl : j = i := by simpa [worksOn] using ha
          exact ⟨outcome, rfl⟩
        | _ => cases ha
      obtain ⟨next, hnext, hless⟩ := rank_work sha256 hw outcome
      obtain ⟨w', hw', hrank⟩ := ih (s := s.step sha256 (.work i outcome)) hnext
      refine ⟨w', hw', ?_⟩
      rw [if_pos rfl]
      omega

/-- After four steps of its own a worker has ended, whatever happens meanwhile. -/
theorem ended_of_run {as : List ScheduleAction} (hw : s.workers[i]? = some w)
    (hsteps : 4 ≤ as.countP (worksOn i)) :
    (run (step sha256) s as).workers[i]? = some .ended := by
  obtain ⟨w', hw', hrank⟩ := rank_run sha256 as hw
  have hfour : rank w ≤ 4 := by
    cases w <;> simp only [rank] <;> decide
  have hzero : rank w' = 0 := by omega
  cases w' with
  | ended => exact hw'
  | _ => exact nomatch hzero

/-- A worker that ends releases its client. -/
theorem not_mem_of_ended {a : ScheduleAction} (hw : s.workers[i]? = some w)
    (hclient : w.client? = some c) (hended : (s.step sha256 a).workers[i]? = some .ended) :
    c ∉ (s.step sha256 a).resyncInProgress := by
  have hne : w ≠ .ended := by
    rintro rfl
    cases hclient
  cases ha : worksOn i a with
  | false =>
    rw [workers_step ha hw] at hended
    exact absurd (Option.some.inj hended) hne
  | true =>
    cases a with
    | work j outcome =>
      obtain rfl : j = i := by simpa [worksOn] using ha
      have hset (new : SyncWorker) : (s.workers.set j new)[j]? = some new :=
        getElem?_set_self_of_some new hw
      change (s.work sha256 j outcome).workers[j]? = some .ended at hended
      show c ∉ (s.work sha256 j outcome).resyncInProgress
      unfold work at hended ⊢
      rw [hw] at hended ⊢
      cases w with
      | ended => exact absurd rfl hne
      | finishing c' =>
        obtain rfl : c' = c := Option.some.inj hclient
        exact Finset.notMem_erase c' _
      | synchronizing c' =>
        dsimp only at hended
        split at hended <;> exact nomatch (hset _).symm.trans hended
      | failed c' =>
        dsimp only at hended
        split at hended <;> exact nomatch (hset _).symm.trans hended
      | raised c' =>
        dsimp only at hended
        split at hended <;> exact nomatch (hset _).symm.trans hended
    | _ => cases ha

/-! ## The schedule -/

theorem contains_set (d : Dict ClientId Nat) (c c' : ClientId) (at' : Nat)
    (h : d.contains c = true) : (d.set c' at').contains c = true := by
  unfold Dict.contains at h ⊢
  rw [Dict.get?_set]
  split
  · rfl
  · exact h

/-- No step takes a client out of the schedule. -/
theorem contains_step (a : ScheduleAction) (h : s.nextResyncNs.contains c = true) :
    (s.step sha256 a).nextResyncNs.contains c = true := by
  cases a with
  | start => exact h
  | stop j =>
    show (if s.schedulers[j]? = some .waiting then s.setScheduler j .ended else
      s).nextResyncNs.contains c = true
    split <;> exact h
  | turn j nowNs =>
    show (s.turn j nowNs).nextResyncNs.contains c = true
    unfold turn
    split <;> exact h
  | advance j ok nowNs =>
    show (s.advance j ok nowNs).nextResyncNs.contains c = true
    unfold advance
    split
    next => exact h
    next => exact h
    next => split <;> exact h
    next => exact h
    next => exact contains_set _ _ _ _ h
    next => exact h
  | work j outcome =>
    show (s.work sha256 j outcome).nextResyncNs.contains c = true
    unfold work
    split
    next =>
      split
      · exact h
      · exact h
      · exact contains_set _ _ _ _ h
    next =>
      split
      · exact h
      · exact contains_set _ _ _ _ h
    next =>
      split
      · exact h
      · exact contains_set _ _ _ _ h
    next => exact h
    next => exact h
  | reschedule => exact contains_set _ _ _ _ h

theorem contains_run (as : List ScheduleAction) (h : s.nextResyncNs.contains c = true) :
    (run (step sha256) s as).nextResyncNs.contains c = true :=
  run_invariant (I := fun s => s.nextResyncNs.contains c = true) (C := fun _ _ => True)
    (fun _ a h _ => contains_step a h) h (meets_of_forall (C := fun _ => True) (fun _ _ => trivial) s)

/-- A client that has been synchronised is scheduled, later than the synchronisation. -/
theorem scheduled_work {outcome : WorkOutcome} {syncedAtNs : Nat} {initialSync : Bool}
    (hw : s.workers[i]? = some (.synchronizing c))
    (hresult : outcome.result = .synchronized syncedAtNs initialSync) :
    (s.step sha256 (.work i outcome)).nextResyncNs.get? c =
      some (nextResyncAfter sha256 c syncedAtNs initialSync) := by
  show (s.work sha256 i outcome).nextResyncNs.get? c = _
  unfold work
  rw [hw]
  dsimp only
  rw [hresult]
  show (s.nextResyncNs.set c _).get? c = _
  rw [Dict.get?_set, if_pos rfl]

/-- Whatever the threads do, in whatever order: at most `SYNC_WORKERS` clients are in progress, and no
client is synchronised by two workers; a client is in progress as long as a thread is responsible for
it, each worker comes to its end however the synchronisation goes, and with that releases its client;
no client is lost from the schedule, and one that is due is taken as soon as there is a slot for it;
and the next slot is the first one of the client's phase, later than the synchronisation. -/
theorem schedule_sound (sha256 : List UInt8 → List UInt8) (as : List ScheduleAction) :
    let s := run (step sha256) {} as
    (s.resyncInProgress.card ≤ syncWorkers ∧
      ∀ c, (s.workers.countP fun w => w.client? = some c) ≤ 1) ∧
    (∀ c, c ∈ s.resyncInProgress ↔
      (∃ t ∈ s.schedulers, c ∈ t.claimed) ∨ ∃ w ∈ s.workers, w.client? = some c) ∧
    (∀ i w c, s.workers[i]? = some w → w.client? = some c →
      (∀ as', 4 ≤ as'.countP (worksOn i) →
        (run (step sha256) s as').workers[i]? = some .ended) ∧
      ∀ a, (s.step sha256 a).workers[i]? = some .ended →
        c ∉ (s.step sha256 a).resyncInProgress) ∧
    (∀ c, s.nextResyncNs.contains c = true →
      ∀ as', (run (step sha256) s as').nextResyncNs.contains c = true) ∧
    (∀ i c nowNs nextNs, s.schedulers[i]? = some .waiting → s.nextResyncNs.get? c = some nextNs →
      nextNs ≤ nowNs → c ∈ (s.turn i nowNs).resyncInProgress ∨
        (s.turn i nowNs).resyncInProgress.card = syncWorkers) ∧
    (∀ c notBeforeNs, IsLeast {t | notBeforeNs ≤ t ∧
        t ≡ timeSyncPhase sha256 c timeSyncPeriodNs [MOD timeSyncPeriodNs]}
      (nextTimeSyncSlotNs sha256 c notBeforeNs)) ∧
    ∀ i c outcome syncedAtNs initialSync, s.workers[i]? = some (.synchronizing c) →
      outcome.result = .synchronized syncedAtNs initialSync →
      ∃ nextNs, (s.step sha256 (.work i outcome)).nextResyncNs.get? c = some nextNs ∧
        syncedAtNs < nextNs := by
  intro s
  have h : s.Inv := run_invariant (I := Inv) (C := fun _ _ => True)
    (fun s a h _ => step_inv sha256 s a h) inv_initial
    (meets_of_forall (C := fun _ => True) (fun _ _ => trivial) _)
  refine ⟨⟨h.bounded, h.countP_le_one⟩, h.mem_iff_exists, fun i w c hw hclient => ⟨?_, ?_⟩, ?_, ?_,
    nextTimeSyncSlotNs_isLeast sha256, ?_⟩
  · exact fun as' hsteps => ended_of_run hw hsteps
  · exact fun a hended => not_mem_of_ended hw hclient hended
  · exact fun c hin as' => contains_run as' hin
  · exact fun i c nowNs nextNs hwaiting hentry hdue => h.turn_takes_due hwaiting hentry hdue
  · exact fun i c outcome syncedAtNs initialSync hw hresult =>
      ⟨_, scheduled_work hw hresult, lt_nextResyncAfter sha256 c syncedAtNs initialSync⟩

end TimeSyncSchedule

end MultiDAQ.Server
