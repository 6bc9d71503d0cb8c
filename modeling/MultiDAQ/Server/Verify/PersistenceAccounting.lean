import Mathlib.Algebra.BigOperators.Group.List.Basic
import MultiDAQ.Lib.Run
import MultiDAQ.Lib.Threads
import MultiDAQ.Server.Verify.PersistenceSteps

/-!
# The accounts of the monitoring files

An item that the queue has taken is in the queue, in the hands of a thread, in a buffer, written or
dropped. A step moves items from one of these places to another, and counts those that it writes or
drops. It forgets the events whose path cannot be resolved.
-/

namespace MultiDAQ.Server

open MultiDAQ.Lib

/-! ## Items in transit -/

/-- The items of a key in a batch. -/
def batchCount (key : PersistenceKey) (batch : Batch) : Nat :=
  if batch.1 = key then batch.2.length else 0

def batchesCount (key : PersistenceKey) (batches : List Batch) : Nat :=
  (batches.map (batchCount key)).sum

@[simp] theorem batchesCount_cons (key : PersistenceKey) (batch : Batch) (batches : List Batch) :
    batchesCount key (batch :: batches) = batchCount key batch + batchesCount key batches := rfl

/-- The items of a key that a thread has in its hands. -/
def PersistenceTask.held (key : PersistenceKey) : PersistenceTask → Nat
  | .got item => if item.key = key then 1 else 0
  | .writing batches _ _ => batchesCount key batches
  | .locked batch _ rest _ _ | .written batch _ rest _ _ =>
    batchCount key batch + batchesCount key rest
  | _ => 0

namespace Persistence

variable (s : Persistence) (key k : PersistenceKey)

def queued : Nat := s.queue.countP (·.key = key)

def inHand : Nat := (s.tasks.map (·.held key)).sum

def inTransit : Nat := s.queued key + (s.buffered key).length + s.inHand key

/-- A counter of a key; it is 0 before the key is prepared. -/
def counter (field : PersistenceState → Nat) : Nat := (s.states.get? key).elim 0 field

/-- The items that are taken and neither written nor dropped, by the counters. -/
def net : Int :=
  (s.states.get? key).elim 0 fun state => state.enqueued - state.written - state.dropped

/-- What the counters say beyond what is in transit. -/
def balance : Int := s.net key - s.inTransit key

/-! ## What the operations do to the balance -/

variable {s key k}

section Operations

variable {thread : Nat}

theorem balance_goto {old : PersistenceTask} (h : s.tasks[thread]? = some old)
    (new : PersistenceTask) :
    (s.goto thread new).balance k = s.balance k + old.held k - new.held k := by
  have hsum := sum_map_set (·.held k) new h
  have hhand : (s.goto thread new).inHand k + old.held k = s.inHand k + new.held k := hsum
  have htransit : (s.goto thread new).inTransit k =
      s.queued k + (s.buffered k).length + (s.goto thread new).inHand k := rfl
  have hnet : (s.goto thread new).net k = s.net k := rfl
  unfold balance
  rw [hnet, htransit]
  unfold inTransit
  omega

theorem balance_modifyState (key : PersistenceKey) (f : PersistenceState → PersistenceState)
    (delta : Int)
    (h : ∀ state, s.states.get? key = some state →
      ((f state).enqueued : Int) - (f state).written - (f state).dropped =
        state.enqueued - state.written - state.dropped + delta)
    (hnone : s.states.get? key = none → delta = 0) :
    (s.modifyState key f).balance k = s.balance k + if k = key then delta else 0 := by
  have htransit : (s.modifyState key f).inTransit k = s.inTransit k := rfl
  have hget : (s.modifyState key f).states.get? k =
      if k = key then (s.states.get? k).map f else s.states.get? k := Dict.get?_modify ..
  unfold balance net
  rw [htransit, hget]
  by_cases hk : k = key
  · subst hk
    rw [if_pos rfl, if_pos rfl]
    cases hstate : s.states.get? k with
    | none => simp [hnone hstate]
    | some state =>
      have := h state hstate
      simp only [Option.map_some, Option.elim_some]
      omega
  · rw [if_neg hk, if_neg hk]
    omega

theorem balance_markDropped {count : Nat} (h : s.states.get? key = none → count = 0) :
    (s.markDropped key count).balance k = s.balance k - if k = key then (count : Int) else 0 := by
  have hbalance := balance_modifyState (s := s) (k := k) key
    (fun state => { state with dropped := state.dropped + count }) (-count)
    (fun state _ => by dsimp only; omega) (fun hnone => by rw [h hnone]; rfl)
  unfold markDropped
  rw [hbalance]
  split <;> omega

theorem balance_markWritten {items : List PersistenceItem}
    (h : s.states.get? key = none → items.length = 0) :
    (s.markWritten key items).balance k =
      s.balance k - if k = key then (items.length : Int) else 0 := by
  have hbalance := balance_modifyState (s := s) (k := k) key
    (fun state => { state with
      written := state.written + items.length
      rowsWritten := state.rowsWritten +
        (items.map fun item => (item.key.rows.getD []).length).sum }) (-items.length)
    (fun state _ => by dsimp only; omega) (fun hnone => by rw [h hnone]; rfl)
  unfold markWritten
  rw [hbalance]
  split <;> omega

theorem balance_markEnqueued (h : s.states.get? key ≠ none) :
    (s.markEnqueued key).balance k = s.balance k + if k = key then 1 else 0 :=
  balance_modifyState key _ 1 (fun state _ => by dsimp only; omega) fun hnone => absurd hnone h

theorem balance_markProcessed : (s.markProcessed key).balance k = s.balance k := by
  have hbalance := balance_modifyState (s := s) (k := k) key
    (fun state => { state with queuePending := state.queuePending - 1 }) 0
    (fun state _ => by dsimp only; omega) fun _ => rfl
  rw [ite_self, add_zero] at hbalance
  exact hbalance

/-- The items leave a buffer, or come to it. -/
theorem balance_setBuffer (items : List PersistenceItem) :
    balance { s with buffers := s.buffers.set key items } k =
      s.balance k + if k = key then ((s.buffered key).length : Int) - items.length else 0 := by
  have htransit : inTransit { s with buffers := s.buffers.set key items } k =
      s.queued k + (((s.buffers.set key items).get? k).getD []).length + s.inHand k := rfl
  have hnet : net { s with buffers := s.buffers.set key items } k = s.net k := rfl
  unfold balance
  rw [hnet, htransit, Dict.get?_set]
  unfold inTransit
  by_cases hk : k = key
  · subst hk
    rw [if_pos rfl, if_pos rfl, Option.getD_some]
    omega
  · rw [if_neg hk, if_neg hk]
    unfold buffered
    omega

theorem balance_emptyBuffers (due : PersistenceKey → Bool) :
    balance { s with buffers := s.buffers.mapVals fun key items => if due key then [] else items }
      k = s.balance k + if due k then ((s.buffered k).length : Int) else 0 := by
  have htransit : inTransit { s with
      buffers := s.buffers.mapVals fun key items => if due key then [] else items } k =
      s.queued k + (((s.buffers.mapVals fun key items =>
        if due key then [] else items).get? k).getD []).length + s.inHand k := rfl
  have hnet : net { s with
      buffers := s.buffers.mapVals fun key items => if due key then [] else items } k = s.net k :=
    rfl
  unfold balance
  rw [hnet, htransit, Dict.get?_mapVals]
  unfold inTransit buffered
  cases hbuffer : s.buffers.get? k with
  | none => simp
  | some items =>
    cases due k with
    | false => simp
    | true =>
      simp only [Option.map_some, Option.getD_some, if_true, List.length_nil]
      omega

theorem balance_setQueue (queue : List PersistenceItem) :
    balance { s with queue } k = s.balance k + s.queued k - queue.countP (·.key = k) := by
  have htransit : inTransit { s with queue } k =
      queue.countP (·.key = k) + (s.buffered k).length + s.inHand k := rfl
  have hnet : net { s with queue } k = s.net k := rfl
  unfold balance
  rw [hnet, htransit]
  unfold inTransit
  omega

end Operations

/-! ## The batches that are taken -/

theorem batchesCount_filter (p : Batch → Bool) (batches : List Batch) :
    batchesCount k (batches.filter p) =
      (batches.map fun batch => if p batch then batchCount k batch else 0).sum := by
  have hsum := List.sum_map_ite (fun batch => p batch = true) (batchCount k) (fun _ => 0) batches
  rw [hsum]
  simp [batchesCount]

/-- Taking the samples first loses no batch. -/
theorem batchesCount_samples_first (batches : List Batch) :
    batchesCount k
      ((batches.filter fun e => match e.1 with | .stream _ _ => true | .events _ => false) ++
        batches.filter fun e => match e.1 with | .stream _ _ => false | .events _ => true) =
      batchesCount k batches := by
  have hevents : batches.filter (fun e => match e.1 with
      | .stream _ _ => false
      | .events _ => true) =
      batches.filter (fun e => ¬(match e.1 with
        | .stream _ _ => true
        | .events _ => false) = true) := by
    refine List.filter_congr fun e _ => ?_
    rcases e with ⟨key, items⟩
    cases key <;> rfl
  have hparts := List.sum_map_filter_add_sum_map_filter_not
    (fun e : Batch => (match e.1 with | .stream _ _ => true | .events _ => false) = true)
    (batchCount k) batches
  unfold batchesCount
  rw [List.map_append, List.sum_append, hevents]
  simpa using hparts

/-- What is taken of a key is what its buffer holds. -/
theorem batchesCount_batchesWhere (due : PersistenceKey → Bool) :
    batchesCount k (s.batchesWhere due) = if due k then (s.buffered k).length else 0 := by
  have hentry : (fun e : Batch => if (due e.1 && !e.2.isEmpty) = true then batchCount k e else 0) =
      fun e => if e.1 = k then (if due k then e.2.length else 0) else 0 := by
    funext e
    rcases e with ⟨key, items⟩
    unfold batchCount
    by_cases hkey : key = k
    · subst hkey
      cases items with
      | nil => simp
      | cons item items => simp
    · simp [hkey]
  have hwhere : batchesCount k (s.batchesWhere due) =
      batchesCount k (s.buffers.entries.filter fun e => due e.1 && !e.2.isEmpty) :=
    batchesCount_samples_first _
  rw [hwhere, batchesCount_filter, hentry,
    Dict.sum_entries s.buffers k fun items => if due k then items.length else 0]
  unfold buffered
  cases s.buffers.get? k with
  | none => simp
  | some items => rfl

/-! ## Steps -/

/-- Nothing is in transit for a key that is not prepared. -/
def Configured (s : Persistence) : Prop :=
  ∀ key, s.states.get? key = none → s.inTransit key = 0

/-- What is forgotten of a key. -/
def forgottenCount (k : PersistenceKey) (batch : Option Batch) : Nat := batch.elim 0 (batchCount k)

/-- How many rows of a key are refused. -/
def refusedCount (k : PersistenceKey) (refused : Option PersistenceKey) : Nat :=
  if refused = some k then 1 else 0

theorem batchCount_self (batch : Batch) : batchCount batch.1 batch = batch.2.length := if_pos rfl

section Advance

variable {thread : Nat} {env : PersistenceEnv} {task next : PersistenceTask} {s' : Persistence}

theorem held_le_inTransit (h : s.tasks[thread]? = some task) : task.held k ≤ s.inTransit k := by
  have hsum := le_sum_map (·.held k) h
  unfold inTransit inHand
  omega

/-- What a thread has in its hands is of a key that is prepared. -/
theorem Configured.held (h : s.Configured) (ht : s.tasks[thread]? = some task)
    (hnone : s.states.get? k = none) : task.held k = 0 := by
  have hle := held_le_inTransit (k := k) ht
  rw [h k hnone] at hle
  exact Nat.le_zero.1 hle

theorem Configured.length_of_none {batch : Batch} {writeOk : Bool} {rest : List Batch}
    {success : Bool} {after : AfterWrite} (h : s.Configured)
    (ht : s.tasks[thread]? = some (.written batch writeOk rest success after))
    (hnone : s.states.get? batch.1 = none) : batch.2.length = 0 := by
  have hheld := h.held ht hnone
  rw [PersistenceTask.held, batchCount_self] at hheld
  omega

theorem balance_goto_of_held (h : s.tasks[thread]? = some task) (hheld : next.held k = task.held k) :
    (s.goto thread next).balance k = s.balance k := by
  rw [balance_goto h, hheld]
  omega

theorem held_next (success : Bool) (after : AfterWrite) : (after.next success).held k = 0 := by
  cases after with
  | drain => cases success <;> rfl
  | _ => rfl

/-- Only what is forgotten leaves the hands of a thread that goes on to another task. -/
theorem Goes.held (h : Goes s env task next) (hconf : s.Configured)
    (ht : s.tasks[thread]? = some task) :
    next.held k + forgottenCount k (s.forgottenBatch env task) = task.held k := by
  cases h with
  | leaves | checks | polls | waitsInVain | wasIdle | findsNothing | stops => rfl
  | finishes | passes => rw [held_next]; rfl
  | @skips key rest success after =>
    have hforgot : s.forgottenBatch env (.writing ((key, []) :: rest) success after) = none := by
      cases key with
      | stream => rfl
      | events clientId =>
        dsimp only [forgottenBatch]
        exact if_neg (by simp)
    have hcount : batchCount k (key, []) = 0 := by
      unfold batchCount
      split <;> rfl
    rw [hforgot]
    simp only [PersistenceTask.held, batchesCount_cons, hcount, forgottenCount, Option.elim_none]
    omega
  | @unknown batch rest success after hnone =>
    have hforgot : s.forgottenBatch env (.writing (batch :: rest) success after) = none := by
      rcases batch with ⟨key, items⟩
      cases key with
      | stream => rfl
      | events clientId =>
        dsimp only [forgottenBatch]
        rw [hnone]
        exact if_neg (by simp)
    have hcount : batchCount k batch = 0 := by
      by_cases hk : batch.1 = k
      · subst hk
        have hheld := hconf.held ht hnone
        rw [PersistenceTask.held, batchesCount_cons] at hheld
        omega
      · exact if_neg hk
    rw [hforgot]
    simp only [PersistenceTask.held, batchesCount_cons, hcount, forgottenCount, Option.elim_none]
    omega
  | refuses _ hforgot =>
    rw [hforgot]
    rfl
  | forgets hforgot =>
    rw [hforgot]
    simp only [PersistenceTask.held, batchesCount_cons, forgottenCount, Option.elim_some]
    omega

/-- The step of a thread moves the balance by what it forgets. -/
theorem AdvanceStep.balance (h : AdvanceStep s thread env task next s') (hconf : s.Configured)
    (ht : s.tasks[thread]? = some task) :
    s'.balance k = s.balance k + forgottenCount k (s.forgottenBatch env task) := by
  have hzero {b : Int} (hb : b = s.balance k) (hnone : s.forgottenBatch env task = none) :
      b = s.balance k + forgottenCount k (s.forgottenBatch env task) := by
    rw [hb, hnone]
    exact (add_zero _).symm
  cases h with
  | stays hnone => exact hzero rfl hnone
  | @goes _ _ stopEvent executor hgoes =>
    have hheld := hgoes.held (k := k) hconf ht
    rw [balance_goto (s := { s with stopEvent, executor }) ht]
    show s.balance k + _ - _ = _
    omega
  | @gets item queue hqueue =>
    refine hzero ?_ rfl
    have hcons : s.queued k = queue.countP (·.key = k) + if item.key = k then 1 else 0 := by
      unfold queued
      rw [hqueue, List.countP_cons]
      simp only [decide_eq_true_eq]
    rw [balance_goto (s := { s with queue }) ht, balance_setQueue, hcons]
    simp only [PersistenceTask.held]
    split <;> omega
  | @drops item _ =>
    refine hzero ?_ rfl
    have hnone : s.states.get? item.key = none → 1 = 0 := by
      intro hnone
      have hheld := hconf.held ht hnone
      rwa [PersistenceTask.held, if_pos rfl] at hheld
    rw [balance_goto (s := s.markDropped item.key 1) ht, balance_markDropped hnone]
    simp only [PersistenceTask.held, eq_comm (a := k)]
    split <;> omega
  | @buffers item _ _ =>
    refine hzero ?_ rfl
    rw [balance_goto (s := { s with
        buffers := s.buffers.set item.key (s.buffered item.key ++ [item]) }) ht,
      balance_setBuffer]
    simp only [PersistenceTask.held, List.length_append, List.length_cons, List.length_nil,
      eq_comm (a := k)]
    split <;> omega
  | @fills item _ _ =>
    refine hzero ?_ rfl
    rw [balance_goto (s := { s with buffers := s.buffers.set item.key [] }) ht,
      balance_setBuffer]
    simp only [PersistenceTask.held, batchesCount, batchCount, List.map_cons, List.map_nil,
      List.sum_cons, List.sum_nil, List.length_append, List.length_cons, List.length_nil,
      eq_comm (a := k)]
    split <;> omega
  | @marks item =>
    refine hzero ?_ rfl
    exact (balance_goto_of_held (s := s.markProcessed item.key) ht (by rfl)).trans
      balance_markProcessed
  | @takes _ due after hfrom =>
    have hheld : task.held k = 0 := by rcases hfrom with ⟨rfl, _⟩ | ⟨rfl, _⟩ <;> rfl
    have hnone : s.forgottenBatch env task = none := by
      rcases hfrom with ⟨rfl, _⟩ | ⟨rfl, _⟩ <;> rfl
    refine hzero ?_ hnone
    unfold takeBatches
    rw [balance_goto (s := { s with
      buffers := s.buffers.mapVals fun key items => if due key then [] else items }) ht,
      balance_emptyBuffers, hheld]
    simp only [PersistenceTask.held, batchesCount_batchesWhere]
    split <;> omega
  | locks _ _ hnone => exact hzero (balance_goto_of_held (s := s.setLock _ _) ht (by rfl)) hnone
  | @writes batch rest success after _ =>
    exact hzero (balance_goto_of_held (s := { s.setLock batch.1 none with
      files := Function.update s.files batch.1 (s.files batch.1 ++ batch.2) }) ht (by rfl)) rfl
  | fails => exact hzero (balance_goto_of_held (s := s.setLock _ _) ht (by rfl)) rfl
  | @counts batch rest success after =>
    refine hzero ?_ rfl
    rw [balance_goto (s := s.markWritten batch.1 batch.2) ht,
      balance_markWritten (hconf.length_of_none ht)]
    simp only [PersistenceTask.held, batchCount, eq_comm (a := k)]
    split <;> omega
  | @discards batch rest success after =>
    refine hzero ?_ rfl
    rw [balance_goto (s := s.markDropped batch.1 batch.2.length) ht,
      balance_markDropped (hconf.length_of_none ht)]
    simp only [PersistenceTask.held, batchCount, eq_comm (a := k)]
    split <;> omega
  | @flushes key after _ =>
    refine hzero ?_ rfl
    rw [balance_goto (s := { s with buffers := s.buffers.set key [] }) ht, balance_setBuffer]
    simp only [PersistenceTask.held, batchesCount, batchCount, List.map_cons, List.map_nil,
      List.sum_cons, List.sum_nil, List.length_nil, eq_comm (a := k)]
    split <;> omega

/-- A key whose state is changed was prepared, and is. -/
theorem get?_of_modifyState {f : PersistenceState → PersistenceState}
    (h : (s.modifyState key f).states.get? k = none) : s.states.get? k = none := by
  have hget : (s.states.modify key f).get? k = none := h
  rw [Dict.get?_modify] at hget
  split at hget
  · exact Option.map_eq_none_iff.1 hget
  · exact hget

theorem AdvanceStep.get?_of (h : AdvanceStep s thread env task next s')
    (hnone : s'.states.get? k = none) : s.states.get? k = none := by
  cases h with
  | drops | marks | counts | discards => exact get?_of_modifyState hnone
  | stays | goes | gets | buffers | fills | takes | locks | writes | fails | flushes => exact hnone

end Advance

/-- A key that is prepared stays prepared. -/
theorem ActionStep.get?_of {a : PersistenceAction} {s' : Persistence} (h : ActionStep s a s')
    (hnone : s'.states.get? k = none) : s.states.get? k = none := by
  cases h with
  | stays | starts | calls => exact hnone
  | prepares =>
    rw [Dict.get?_set] at hnone
    split at hnone
    · cases hnone
    · exact hnone
  | enables | enqueues | refuses | drains => exact get?_of_modifyState hnone
  | advances _ hstep => exact hstep.get?_of hnone

theorem balance_prepares (saveFormat : SaveFormat) (interval : Option Int) :
    balance { s with states := s.states.set key (s.preparedState key saveFormat interval) } k =
      s.balance k := by
  have hnet : net { s with
      states := s.states.set key (s.preparedState key saveFormat interval) } k = s.net k := by
    show ((s.states.set key _).get? k).elim 0 _ = (s.states.get? k).elim 0 _
    rw [Dict.get?_set]
    split
    · next hk =>
      subst hk
      unfold preparedState
      cases s.states.get? k with
      | none => rfl
      | some state => rfl
    · rfl
  have htransit : inTransit { s with
      states := s.states.set key (s.preparedState key saveFormat interval) } k =
      s.inTransit k := rfl
  unfold balance
  rw [hnet, htransit]

theorem balance_setEnabled (value : Bool) :
    (s.modifyState key fun state => { state with enabled := value }).balance k = s.balance k := by
  have hbalance := balance_modifyState (s := s) (k := k) key
    (fun state => { state with enabled := value }) 0
    (fun state _ => by dsimp only; omega) fun _ => rfl
  rw [ite_self, add_zero] at hbalance
  exact hbalance

/-- A free thread has nothing in its hands. -/
theorem balance_goto_of_isFree {thread : Nat} (s₀ : Persistence) {next : PersistenceTask}
    (hfree : s.isFree thread = true) (htasks : s₀.tasks = s.tasks) (hheld : next.held k = 0) :
    (s₀.goto thread next).balance k = s₀.balance k := by
  rcases isFree_iff.1 hfree with ht | ⟨success, ht⟩ | ⟨key, accepted, ht⟩
  · rw [← htasks] at ht
    exact balance_goto_of_held ht hheld
  · rw [← htasks] at ht
    exact balance_goto_of_held ht hheld
  · rw [← htasks] at ht
    exact balance_goto_of_held ht hheld

/-- A step moves the balance by what it refuses and by what it forgets. -/
theorem balance_step (hconf : s.Configured) (a : PersistenceAction) :
    (s.step a).balance k + refusedCount k (s.refuses a) =
      s.balance k + forgottenCount k (s.forgets a) := by
  have hquiet {b : Int} (hb : b = s.balance k) (hrefuses : s.refuses a = none)
      (hforgets : s.forgets a = none) :
      b + refusedCount k (s.refuses a) = s.balance k + forgottenCount k (s.forgets a) := by
    rw [hb, hrefuses, hforgets]
    rfl
  generalize hs' : s.step a = s'
  have hstep : ActionStep s a s' := hs' ▸ step_cases s a
  cases hstep with
  | stays _ hrefuses hforgets => exact hquiet rfl hrefuses hforgets
  | prepares => exact hquiet (balance_prepares _ _) rfl rfl
  | enables value ha =>
    refine hquiet (balance_setEnabled value) ?_ ?_
    · rcases ha with rfl | rfl <;> rfl
    · rcases ha with rfl | rfl <;> rfl
  | @enqueues key message hsome _ hrefuses =>
    refine hquiet ?_ hrefuses rfl
    have hqueue := balance_setQueue (s := s.markEnqueued key) (k := k)
      (s.queue ++ [{ number := s.nextItem, key, message }])
    have hqueued : (s.markEnqueued key).queued k = s.queue.countP (·.key = k) := rfl
    rw [balance_markEnqueued hsome, hqueued, List.countP_append, List.countP_singleton] at hqueue
    refine Eq.trans (show _ = Persistence.balance { s.markEnqueued key with
      queue := s.queue ++ [{ number := s.nextItem, key, message }] } k from rfl) ?_
    rw [hqueue]
    simp only [eq_comm (a := k), decide_eq_true_eq]
    split <;> omega
  | refuses hsome _ hrefuses =>
    rw [hrefuses, balance_markDropped fun hnone => absurd hnone hsome]
    show _ = s.balance k + 0
    simp only [refusedCount, Option.some.injEq, eq_comm (a := k)]
    split <;> omega
  | starts => exact hquiet rfl rfl rfl
  | calls hfree hnext =>
    have hbalance {next : PersistenceTask} {running : Bool} {submitted : Nat}
        (hheld : next.held k = 0) :=
      balance_goto_of_isFree { s with running, submitted } hfree rfl hheld
    rcases hnext with ⟨rfl, rfl⟩ | ⟨rfl, rfl | rfl⟩ | ⟨key, rfl, rfl⟩
    · exact hquiet (hbalance rfl) rfl rfl
    · exact hquiet (hbalance rfl) rfl rfl
    · exact hquiet (hbalance rfl) rfl rfl
    · exact hquiet (hbalance rfl) rfl rfl
  | @drains thread key hfree =>
    refine hquiet ?_ rfl rfl
    exact (balance_goto_of_isFree (s.deactivate key) hfree rfl rfl).trans
      (balance_setEnabled false)
  | @advances thread env task next s' ht hstep =>
    have hforgets : s.forgets (.advance thread env) = s.forgottenBatch env task := by
      show (s.tasks[thread]?).bind _ = _
      rw [ht]
      rfl
    rw [hforgets]
    show _ + 0 = _
    rw [add_zero]
    exact hstep.balance hconf ht

theorem refusedCount_of_none (hnone : s.states.get? k = none) (a : PersistenceAction) :
    refusedCount k (s.refuses a) = 0 := by
  refine if_neg fun hrefuses => ?_
  unfold refuses at hrefuses
  split at hrefuses
  · split at hrefuses
    · next henabled =>
      cases hrefuses
      rw [hnone] at henabled
      exact Bool.false_ne_true henabled.2.1
    · cases hrefuses
  · cases hrefuses

theorem Configured.step (h : s.Configured) (a : PersistenceAction) : (s.step a).Configured := by
  intro k hnone
  have hnone' : s.states.get? k = none := (step_cases s a).get?_of hnone
  have hstep := balance_step (k := k) h a
  have hnet {s' : Persistence} (h : s'.states.get? k = none) : s'.net k = 0 := by
    unfold net
    rw [h]
    rfl
  have hforgot : forgottenCount k (s.forgets a) = 0 := by
    cases a with
    | advance thread env =>
      show forgottenCount k ((s.tasks[thread]?).bind (s.forgottenBatch env)) = 0
      cases ht : s.tasks[thread]? with
      | none => rfl
      | some task =>
        show forgottenCount k (s.forgottenBatch env task) = 0
        have hheld := h.held ht hnone'
        unfold forgottenBatch
        split
        · split
          · rw [PersistenceTask.held, batchesCount_cons] at hheld
            exact (Nat.add_eq_zero_iff.1 hheld).1
          · rfl
        · rfl
    | _ => rfl
  unfold balance at hstep
  rw [hnet hnone, hnet hnone', h k hnone', hforgot, refusedCount_of_none hnone' a] at hstep
  omega

/-! ## The accounts of a run -/

/-- The state, and how many rows of a key an enabled stream has had to refuse: the code counts them
as dropped, and not as enqueued. -/
abbrev Watched := Persistence × (PersistenceKey → Nat)

def watch (x : Watched) (a : PersistenceAction) : Watched :=
  (x.1.step a, fun key => x.2 key + refusedCount key (x.1.refuses a))

/-- The accounts of every key. -/
def Accounted (x : Watched) : Prop :=
  ∀ key, x.1.counter key (·.enqueued) + x.2 key =
    x.1.counter key (·.written) + x.1.counter key (·.dropped) + x.1.queued key +
      (x.1.buffered key).length + x.1.inHand key

theorem accounted_iff {x : Watched} : Accounted x ↔ ∀ key, x.1.balance key + x.2 key = 0 := by
  refine forall_congr' fun key => ?_
  unfold balance net counter inTransit
  cases x.1.states.get? key with
  | none =>
    simp only [Option.elim_none]
    omega
  | some state =>
    simp only [Option.elim_some]
    omega

theorem forgets_length_pos {a : PersistenceAction} {batch : Batch}
    (h : s.forgets a = some batch) : 0 < batch.2.length := by
  unfold forgets at h
  split at h
  · obtain ⟨task, _, hforgot⟩ := Option.bind_eq_some_iff.1 h
    unfold forgottenBatch at hforgot
    split at hforgot
    · split at hforgot
      · next hitems =>
        cases hforgot
        exact List.length_pos_of_ne_nil hitems.1
      · cases hforgot
    · cases hforgot
  · cases h

/-- A step keeps the accounts unless it forgets events. -/
theorem accounted_watch_iff {x : Watched} (hconf : x.1.Configured) (h : Accounted x)
    (a : PersistenceAction) : Accounted (watch x a) ↔ x.1.forgets a = none := by
  have hbalance (key : PersistenceKey) :
      (watch x a).1.balance key + (watch x a).2 key = forgottenCount key (x.1.forgets a) := by
    have hstep := balance_step (k := key) hconf a
    have hzero := accounted_iff.1 h key
    show (x.1.step a).balance key + ((x.2 key + refusedCount key (x.1.refuses a) : Nat) : Int) = _
    omega
  rw [accounted_iff]
  constructor
  · intro hall
    cases hforgets : x.1.forgets a with
    | none => rfl
    | some batch =>
      have hzero := hall batch.1
      rw [hbalance, hforgets, forgottenCount, Option.elim_some, batchCount_self] at hzero
      have hpos := forgets_length_pos hforgets
      omega
  · intro hforgets key
    rw [hbalance, hforgets]
    rfl

/-- The service with its threads, none of which does anything. -/
def opened (threads : Nat) : Persistence := { tasks := List.replicate threads .idle }

theorem inTransit_opened (threads : Nat) (key : PersistenceKey) :
    (opened threads).inTransit key = 0 := by
  have hhand : (opened threads).inHand key = 0 := by
    unfold inHand opened
    simp [PersistenceTask.held]
  unfold inTransit
  rw [hhand]
  rfl

/-- The accounts of a run are right, for every key and throughout, exactly when no events are to be
written whose path is `None`. -/
theorem accounts_right (threads : Nat) (as : List PersistenceAction) :
    (∀ pre, pre <+: as → Accounted (run watch (opened threads, fun _ => 0) pre)) ↔
      Meets watch (fun x a => x.1.forgets a = none) (opened threads, fun _ => 0) as := by
  have hzero : Accounted (opened threads, fun _ => 0) := by
    rw [accounted_iff]
    intro key
    unfold balance
    rw [inTransit_opened]
    rfl
  have hstep (x : Watched) (a : PersistenceAction) (hconf : x.1.Configured) :
      (watch x a).1.Configured := hconf.step a
  exact run_invariant_iff (J := fun x : Watched => x.1.Configured) hstep
    (fun x a hconf h => accounted_watch_iff hconf h a) (fun key _ => inTransit_opened threads key)
    hzero

/-- One event comes, is buffered, and is flushed when the session is not active. -/
def forgottenEventOps : List PersistenceAction :=
  [.prepare (.events [1]) .csv 1, .activate (.events [1]), .start, .work 0,
    .enqueue (.events [1]) .complete, .advance 0 {}, .advance 0 {}, .advance 0 {},
    .flush 1 (.events [1]), .advance 1 {}, .advance 1 { pathResolved := false }]

/-- The event is nowhere, and is neither written nor dropped. -/
theorem event_uncounted :
    ¬∀ pre, pre <+: forgottenEventOps →
      Accounted (run watch (opened 2, fun _ => 0) pre) := by
  intro h
  exact absurd (h _ (List.prefix_refl _) (.events [1])) (by decide +kernel)

end Persistence

end MultiDAQ.Server
