import MultiDAQ.Lib.Run
import MultiDAQ.Receiver.WorkerQueue

/-!
# The queue of a worker is first in, first out

The ring holds the items from `head` on (`WorkerNode.Valid`): a put adds one behind them, and a batch
takes them from the front. Only the thread that has the lock uses the ring, so that a producer that
the test has let through still finds room (`QueueThreads.Inv.room`). Hence the items that were put are
those taken, in the same order, and then the ones that are still in the ring (`queue_fifo`). The list
that `ReceiverThreads` has in its place follows it (`IsRing.follows`).
-/

namespace MultiDAQ.Receiver

open MultiDAQ.Lib

universe u

variable {α : Type u}

/-! ## The ring -/

namespace WorkerNode

structure Valid (wn : WorkerNode α) : Prop where
  count_nonneg : 0 ≤ wn.count
  count_le : wn.count ≤ queueSize
  head_nonneg : 0 ≤ wn.head
  head_lt : wn.head < queueSize
  tail_eq : wn.tail = (wn.head + wn.count) % queueSize

variable {wn : WorkerNode α}

theorem queueSize_pos : (0 : Int) < queueSize := by decide

theorem valid_reset (wn : WorkerNode α) : wn.reset.Valid where
  count_nonneg := le_rfl
  count_le := queueSize_pos.le
  head_nonneg := le_rfl
  head_lt := queueSize_pos
  tail_eq := rfl

@[simp] theorem contents_reset (wn : WorkerNode α) : wn.reset.contents = [] := rfl

theorem Valid.length_contents (h : wn.Valid) : (wn.contents.length : Int) = wn.count := by
  rw [contents, length_window, Int.toNat_of_nonneg h.count_nonneg]

theorem Valid.tail_nonneg (h : wn.Valid) : 0 ≤ wn.tail := by
  rw [h.tail_eq]
  exact Int.emod_nonneg _ queueSize_pos.ne'

theorem Valid.put (h : wn.Valid) (hroom : wn.count < queueSize) (item : α) :
    (wn.put item).Valid where
  count_nonneg := by
    show 0 ≤ wn.count + 1
    have := h.count_nonneg
    omega
  count_le := hroom
  head_nonneg := h.head_nonneg
  head_lt := h.head_lt
  tail_eq := by
    show (wn.tail + 1).tmod queueSize = (wn.head + (wn.count + 1)) % queueSize
    have htail : 0 ≤ wn.tail + 1 := by
      have := h.tail_nonneg
      omega
    rw [Int.tmod_eq_emod_of_nonneg htail, h.tail_eq, Int.emod_add_emod, add_assoc]

theorem Valid.contents_put (h : wn.Valid) (hroom : wn.count < queueSize) (item : α) :
    (wn.put item).contents = wn.contents ++ [item] := by
  have hcount : (wn.count.toNat : Int) = wn.count := Int.toNat_of_nonneg h.count_nonneg
  have hsucc : (wn.count + 1).toNat = wn.count.toNat + 1 := by
    have := h.count_nonneg
    omega
  have htail : wn.tail = (wn.head + wn.count.toNat) % queueSize := by
    rw [h.tail_eq, hcount]
  show window (Function.update wn.items wn.tail item) queueSize wn.head (wn.count + 1).toNat =
    window wn.items queueSize wn.head wn.count.toNat ++ [item]
  rw [hsucc, htail]
  exact window_store (by omega) item

/-- The ring after the first item has been taken. -/
def next (wn : WorkerNode α) : WorkerNode α :=
  { wn with head := (wn.head + 1).tmod queueSize, count := wn.count - 1 }

theorem takeItems_succ (wn : WorkerNode α) (i : Nat) : wn.takeItems (i + 1) =
    (wn.items wn.head :: (wn.next.takeItems i).1, (wn.next.takeItems i).2) := rfl

theorem Valid.head_next (h : wn.Valid) : wn.next.head = (wn.head + 1) % queueSize := by
  have hhead : 0 ≤ wn.head + 1 := by
    have := h.head_nonneg
    omega
  exact Int.tmod_eq_emod_of_nonneg hhead

theorem Valid.next (h : wn.Valid) (hpos : 0 < wn.count) : wn.next.Valid where
  count_nonneg := by
    show 0 ≤ wn.count - 1
    omega
  count_le := by
    show wn.count - 1 ≤ queueSize
    have := h.count_le
    omega
  head_nonneg := by
    rw [h.head_next]
    exact Int.emod_nonneg _ queueSize_pos.ne'
  head_lt := by
    rw [h.head_next]
    exact Int.emod_lt_of_pos _ queueSize_pos
  tail_eq := by
    show wn.tail = (wn.next.head + (wn.count - 1)) % queueSize
    rw [h.head_next, h.tail_eq, Int.emod_add_emod]
    congr 1
    omega

/-- The item at the head is the first one of the contents. -/
theorem Valid.contents_eq_cons (h : wn.Valid) (hpos : 0 < wn.count) :
    wn.contents = wn.items wn.head :: wn.next.contents := by
  obtain ⟨count, hcount⟩ : ∃ count : Nat, wn.count.toNat = count + 1 :=
    ⟨wn.count.toNat - 1, by omega⟩
  have hnext : (wn.count - 1).toNat = count := by omega
  show window wn.items queueSize wn.head wn.count.toNat =
    wn.items wn.head :: window wn.items queueSize wn.next.head (wn.count - 1).toNat
  rw [hcount, hnext, window_succ, Int.emod_eq_of_lt h.head_nonneg h.head_lt, h.head_next]

/-- A batch is taken from the front. -/
theorem Valid.takeItems {k : Nat} (h : wn.Valid) (hk : (k : Int) ≤ wn.count) :
    (wn.takeItems k).2.Valid ∧ (wn.takeItems k).1 = wn.contents.take k ∧
      (wn.takeItems k).2.contents = wn.contents.drop k := by
  induction k generalizing wn with
  | zero => exact ⟨h, List.take_zero.symm, rfl⟩
  | succ i ih =>
    have hpos : 0 < wn.count := by omega
    have hi : (i : Int) ≤ wn.next.count := by
      show (i : Int) ≤ wn.count - 1
      omega
    obtain ⟨hvalid, htaken, hleft⟩ := ih (h.next hpos) hi
    rw [takeItems_succ, h.contents_eq_cons hpos]
    exact ⟨hvalid, congrArg _ htaken, hleft⟩

theorem Valid.batchSize (h : wn.Valid) :
    (wn.batchSize.toNat : Int) ≤ wn.count ∧
      wn.contents.take wn.batchSize.toNat = wn.contents.take processBatchSize ∧
      wn.contents.drop wn.batchSize.toNat = wn.contents.drop processBatchSize := by
  have hlength := h.length_contents
  have hnonneg := h.count_nonneg
  unfold WorkerNode.batchSize
  split
  next hlt => exact ⟨by omega, rfl, rfl⟩
  next hle =>
    have hall : wn.contents.length ≤ wn.count.toNat := by omega
    have hbatch : wn.contents.length ≤ processBatchSize := by omega
    refine ⟨by omega, ?_, ?_⟩
    · rw [List.take_of_length_le hall, List.take_of_length_le hbatch]
    · rw [List.drop_of_length_le hall, List.drop_of_length_le hbatch]

/-- What `process_data` takes, and what it leaves. -/
theorem Valid.takeBatch (h : wn.Valid) :
    (wn.takeItems wn.batchSize.toNat).2.Valid ∧
      (wn.takeItems wn.batchSize.toNat).1 = wn.contents.take processBatchSize ∧
      (wn.takeItems wn.batchSize.toNat).2.contents = wn.contents.drop processBatchSize := by
  obtain ⟨hle, htake, hdrop⟩ := h.batchSize
  obtain ⟨hvalid, htaken, hleft⟩ := h.takeItems hle
  exact ⟨hvalid, htaken.trans htake, hleft.trans hdrop⟩

end WorkerNode

/-! ## The threads of a queue -/

namespace QueueThreads

/-- What holds between the steps: the lock belongs to the thread whose position says so, and a
producer that is through finds room as long as the receiver is running. -/
structure Inv (s : QueueThreads α) : Prop where
  valid : s.node.Valid
  holder : ∀ t, (s.position t).holdsLock = true ↔ s.lock = some t
  room : ∀ t, t ≠ .processData → s.position t = .through → s.keepRunning = true →
    s.node.count < queueSize

theorem inv_initial (wn : WorkerNode α) : (initial wn).Inv where
  valid := WorkerNode.valid_reset wn
  holder _ := by simp [initial, QueuePosition.holdsLock]
  room := nofun

namespace Inv

variable {s : QueueThreads α} {t : QueueThread} {p : QueuePosition}

/-- A thread goes to another position, with the lock or without it. -/
theorem holder_goto {lock : Option QueueThread} (h : s.Inv)
    (hself : p.holdsLock = true ↔ lock = some t)
    (hother : ∀ t', t' ≠ t → (s.lock = some t' ↔ lock = some t')) :
    ∀ t', (Function.update s.position t p t').holdsLock = true ↔ lock = some t' := by
  intro t'
  by_cases heq : t' = t
  · rw [heq, Function.update_self]
    exact hself
  · rw [Function.update_of_ne heq]
    exact (h.holder t').trans (hother t' heq)

/-- The thread that has the lock gives it back. -/
theorem holder_leave (h : s.Inv) (hlock : s.lock = some t) (hp : p.holdsLock = false) :
    ∀ t', ((s.leave t p).position t').holdsLock = true ↔ (s.leave t p).lock = some t' := by
  refine h.holder_goto ⟨fun hholds => absurd hholds (by simp [hp]), nofun⟩ fun t' ht' => ?_
  rw [hlock]
  exact ⟨fun heq => absurd (Option.some.inj heq).symm ht', nofun⟩

/-- No other thread is through while one has the lock. -/
theorem eq_of_through {t' : QueueThread} (h : s.Inv) (hlock : s.lock = some t)
    (hthrough : s.position t' = .through) : t' = t := by
  have hholds : (s.position t').holdsLock = true := by rw [hthrough]; rfl
  rw [(h.holder t').1 hholds] at hlock
  exact Option.some.inj hlock

theorem lock_of_through (h : s.Inv) (hthrough : s.position t = .through) : s.lock = some t := by
  apply (h.holder t).1
  rw [hthrough]
  rfl

/-- After the thread that has the lock has given it back, no thread is through. -/
theorem not_through_leave {t' : QueueThread} (h : s.Inv) (hlock : s.lock = some t)
    (hp : p ≠ .through) : (s.leave t p).position t' ≠ .through := by
  intro hthrough
  change Function.update s.position t p t' = .through at hthrough
  by_cases heq : t' = t
  · rw [heq, Function.update_self] at hthrough
    exact hp hthrough
  · rw [Function.update_of_ne heq] at hthrough
    exact heq (h.eq_of_through hlock hthrough)

/-- The lock is given back, after the ring has been changed or not. -/
theorem leave {node : WorkerNode α} (h : s.Inv) (hlock : s.lock = some t)
    (hholds : p.holdsLock = false) (hvalid : node.Valid) : { s.leave t p with node }.Inv where
  valid := hvalid
  holder := h.holder_leave hlock hholds
  room _ _ hthrough := by
    have hp : p ≠ .through := by
      rintro rfl
      cases hholds
    exact absurd hthrough (h.not_through_leave hlock hp)

/-- The room that is known is not affected where no thread gets through. -/
theorem room_goto (h : s.Inv) (hp : t ≠ .processData → p = .through → s.keepRunning = true →
      s.node.count < queueSize) :
    ∀ t', t' ≠ .processData → Function.update s.position t p t' = .through →
      s.keepRunning = true → s.node.count < queueSize := by
  intro t' hproducer hthrough hrunning
  by_cases heq : t' = t
  · rw [heq, Function.update_self] at hthrough
    exact hp (heq ▸ hproducer) hthrough hrunning
  · rw [Function.update_of_ne heq] at hthrough
    exact h.room t' hproducer hthrough hrunning

theorem lockTaken (h : s.Inv) (t : QueueThread) : (s.lockTaken t).Inv := by
  unfold QueueThreads.lockTaken
  split
  next => exact h
  next hfree =>
    have hnone : s.lock = none := by simpa using hfree
    have hother : ∀ t', t' ≠ t → (s.lock = some t' ↔ some t = some t') := by
      intro t' ht'
      rw [hnone]
      exact ⟨nofun, fun heq => absurd (Option.some.inj heq).symm ht'⟩
    split
    next =>
      exact ⟨h.valid, h.holder_goto ⟨fun _ => rfl, fun _ => rfl⟩ hother,
        h.room_goto fun _ hthrough => nomatch hthrough⟩
    next =>
      refine ⟨h.valid, h.holder_goto ⟨fun _ => rfl, fun _ => ?_⟩ hother, h.room_goto ?_⟩
      · split <;> rfl
      · intro hproducer hthrough
        rw [if_neg hproducer] at hthrough
        cases hthrough
    next => exact h

theorem ended (h : s.Inv) (t : QueueThread) : (s.ended t).Inv := by
  unfold QueueThreads.ended
  split
  next hend =>
    have hfree : ¬ s.lock = some t := by
      rw [← h.holder t, hend.1]
      exact nofun
    refine ⟨h.valid, h.holder_goto ⟨nofun, fun heq => absurd heq hfree⟩ fun _ _ => Iff.rfl,
      h.room_goto fun _ hthrough => nomatch hthrough⟩
  next => exact h

theorem tested (h : s.Inv) (t : QueueThread) : (s.tested t).Inv := by
  unfold QueueThreads.tested
  split
  next htesting =>
    have hlock : s.lock = some t := by
      apply (h.holder t).1
      rw [htesting]
      rfl
    split
    next => exact h.leave hlock rfl h.valid
    next hpass =>
      refine ⟨h.valid, h.holder_goto ⟨fun _ => hlock, fun _ => rfl⟩ fun _ _ => Iff.rfl,
        h.room_goto fun hproducer _ hrunning => ?_⟩
      -- the test of a producer is passed on a full queue only when the receiver is stopping
      unfold mustWait at hpass
      rw [if_neg hproducer, hrunning, Bool.and_true, decide_eq_true_iff] at hpass
      omega
  next => exact h

end Inv

/-! ### Puts and batches -/

/-- The items that have been put, in order. -/
def putItems (events : List (QueueEvent α)) : List α := events.flatMap (·.itemsPut)

/-- The items that the worker has taken, in order. -/
def takenItems (events : List (QueueEvent α)) : List α := events.flatMap (·.itemsTaken)

/-- The items put are the ones that are taken and then the ones in the queue. -/
def Accounted (s : QueueThreads α) (events : List (QueueEvent α)) : Prop :=
  putItems events = takenItems events ++ s.node.contents

variable {s s' : QueueThreads α} {events : List (QueueEvent α)}

theorem Accounted.append {e : QueueEvent α} (h : Accounted s events)
    (he : s.node.contents ++ e.itemsPut = e.itemsTaken ++ s'.node.contents) :
    Accounted s' (events ++ [e]) := by
  unfold Accounted putItems takenItems at *
  rw [List.flatMap_append, List.flatMap_append, List.flatMap_singleton, List.flatMap_singleton, h,
    List.append_assoc, he, List.append_assoc]

/-- What neither puts nor takes an item. -/
theorem Accounted.unchanged {e : QueueEvent α} (h : Accounted s events) (hput : e.itemsPut = [])
    (htaken : e.itemsTaken = []) (hnode : s'.node = s.node) : Accounted s' (events ++ [e]) := by
  refine h.append ?_
  rw [hput, htaken, hnode, List.append_nil, List.nil_append]

/-! ### Steps -/

@[simp] theorem node_lockTaken (s : QueueThreads α) (t : QueueThread) :
    (s.lockTaken t).node = s.node := by
  unfold lockTaken
  split
  · rfl
  · split <;> rfl

@[simp] theorem node_ended (s : QueueThreads α) (t : QueueThread) : (s.ended t).node = s.node := by
  unfold ended
  split <;> rfl

@[simp] theorem node_tested (s : QueueThreads α) (t : QueueThread) :
    (s.tested t).node = s.node := by
  unfold tested
  split
  · split <;> rfl
  · rfl

/-- What a put does: nothing, a refusal that leaves the ring alone, or an item more. -/
theorem put_cases (s : QueueThreads α) (t : QueueThread) (item : α) :
    s.put t item = (s, .none) ∨
      (s.position t = .through ∧ s.keepRunning = false ∧
        s.put t item = (s.leave t .stopped, .refused t)) ∨
      (s.position t = .through ∧ t ≠ .processData ∧ s.keepRunning = true ∧
        s.put t item = ({ s.leave t .outside with node := s.node.put item }, .put t item)) := by
  unfold put
  split
  next hthrough =>
    split
    next hstopping => exact .inr (.inl ⟨hthrough.1, by simpa using hstopping, rfl⟩)
    next hrunning => exact .inr (.inr ⟨hthrough.1, hthrough.2, by simpa using hrunning, rfl⟩)
  next => exact .inl rfl

/-- What the worker does with the lock: nothing, it gives the lock back, or it takes a batch. -/
theorem take_cases (s : QueueThreads α) :
    s.take = (s, .none) ∨
      (∃ p, p.holdsLock = false ∧ s.position .processData = .through ∧
        s.take = (s.leave .processData p, .none)) ∨
      (s.position .processData = .through ∧
        s.take = ({ s.leave .processData .outside with
            node := (s.node.takeItems s.node.batchSize.toNat).2 },
          .taken (s.node.takeItems s.node.batchSize.toNat).1)) := by
  unfold take
  split
  next hthrough =>
    split
    next => exact .inr (.inl ⟨.stopped, rfl, hthrough, rfl⟩)
    next =>
      split
      next => exact .inr (.inl ⟨.outside, rfl, hthrough, rfl⟩)
      next => exact .inr (.inr ⟨hthrough, rfl⟩)
  next => exact .inl rfl

/-- One step keeps the invariant and the account. -/
theorem step_inv (s : QueueThreads α) (events : List (QueueEvent α)) (a : QueueAction α)
    (h : s.Inv ∧ Accounted s events) :
    (s.step a).1.Inv ∧ Accounted (s.step a).1 (events ++ [(s.step a).2]) := by
  obtain ⟨hinv, hacc⟩ := h
  cases a with
  | lock t => exact ⟨hinv.lockTaken t, hacc.unchanged rfl rfl (node_lockTaken s t)⟩
  | ended t => exact ⟨hinv.ended t, hacc.unchanged rfl rfl (node_ended s t)⟩
  | test t => exact ⟨hinv.tested t, hacc.unchanged rfl rfl (node_tested s t)⟩
  | put t item =>
    show (s.put t item).1.Inv ∧ Accounted (s.put t item).1 (events ++ [(s.put t item).2])
    rcases put_cases s t item with heq | ⟨hthrough, -, heq⟩ | ⟨hthrough, hproducer, hrunning, heq⟩
    · rw [heq]
      exact ⟨hinv, hacc.unchanged rfl rfl rfl⟩
    · rw [heq]
      have hlock := hinv.lock_of_through hthrough
      exact ⟨hinv.leave hlock rfl hinv.valid, hacc.unchanged rfl rfl rfl⟩
    · rw [heq]
      have hlock := hinv.lock_of_through hthrough
      have hroom := hinv.room t hproducer hthrough hrunning
      exact ⟨hinv.leave hlock rfl (hinv.valid.put hroom item),
        hacc.append (hinv.valid.contents_put hroom item).symm⟩
  | take =>
    show s.take.1.Inv ∧ Accounted s.take.1 (events ++ [s.take.2])
    rcases take_cases s with heq | ⟨p, hp, hthrough, heq⟩ | ⟨hthrough, heq⟩
    · rw [heq]
      exact ⟨hinv, hacc.unchanged rfl rfl rfl⟩
    · rw [heq]
      exact ⟨hinv.leave (hinv.lock_of_through hthrough) hp hinv.valid, hacc.unchanged rfl rfl rfl⟩
    · rw [heq]
      obtain ⟨hvalid, htaken, hleft⟩ := hinv.valid.takeBatch
      refine ⟨hinv.leave (hinv.lock_of_through hthrough) rfl hvalid, hacc.append ?_⟩
      show s.node.contents ++ [] = (s.node.takeItems s.node.batchSize.toNat).1 ++
        (s.node.takeItems s.node.batchSize.toNat).2.contents
      rw [htaken, hleft, List.take_append_drop, List.append_nil]
  | stop => exact ⟨⟨hinv.valid, hinv.holder, nofun⟩, hacc.unchanged rfl rfl rfl⟩

/-- A step that refuses a put does not touch the ring. -/
theorem node_of_refused (s : QueueThreads α) (a : QueueAction α) {t : QueueThread}
    (h : (s.step a).2 = .refused t) : (s.step a).1.node = s.node := by
  cases a with
  | lock | ended | test | stop => cases h
  | put t' item =>
    change (s.put t' item).2 = .refused t at h
    show (s.put t' item).1.node = s.node
    rcases put_cases s t' item with heq | ⟨-, -, heq⟩ | ⟨-, -, -, heq⟩
    · rw [heq]
    · rw [heq]
      rfl
    · rw [heq] at h
      cases h
  | take =>
    change s.take.2 = .refused t at h
    rcases take_cases s with heq | ⟨p, -, -, heq⟩ | ⟨-, heq⟩ <;> rw [heq] at h <;> cases h

/-- Nothing is put in a full queue. -/
theorem Inv.not_put_of_full (h : s.Inv) (hfull : s.node.count = queueSize) (a : QueueAction α)
    (t : QueueThread) (item : α) : (s.step a).2 ≠ .put t item := by
  intro hput
  cases a with
  | lock | ended | test | stop => cases hput
  | put t' item' =>
    change (s.put t' item').2 = .put t item at hput
    rcases put_cases s t' item' with heq | ⟨-, -, heq⟩ | ⟨hthrough, hproducer, hrunning, -⟩
    · rw [heq] at hput
      cases hput
    · rw [heq] at hput
      cases hput
    · have hroom := h.room t' hproducer hthrough hrunning
      omega
  | take =>
    change s.take.2 = .put t item at hput
    rcases take_cases s with heq | ⟨p, -, -, heq⟩ | ⟨-, heq⟩ <;> rw [heq] at hput <;> cases hput

/-- Whatever the threads do, in whatever order: the count and the tail are as they should be, the
items that were put are those taken, in the order of the puts, and then those in the ring, a put that
is refused leaves the ring unchanged, and nothing is put in a full queue. -/
theorem queue_fifo (wn : WorkerNode α) (as : List (QueueAction α)) :
    let s := finalState step (initial wn) as
    let events := outputs step (initial wn) as
    (0 ≤ s.node.count ∧ s.node.count ≤ queueSize ∧
      s.node.tail = (s.node.head + s.node.count) % queueSize) ∧
    (s.node.contents.length = s.node.count ∧
      putItems events = takenItems events ++ s.node.contents) ∧
    (∀ a t, (s.step a).2 = .refused t → (s.step a).1.node = s.node) ∧
    ∀ a t item, s.node.count = queueSize → (s.step a).2 ≠ .put t item := by
  intro s events
  have hrun : s.Inv ∧ Accounted s events :=
    outputs_invariant (C := fun _ => True) (fun s out a h _ => step_inv s out a h)
      ⟨inv_initial wn, rfl⟩ fun _ _ => trivial
  obtain ⟨hinv, hacc⟩ := hrun
  exact ⟨⟨hinv.valid.count_nonneg, hinv.valid.count_le, hinv.valid.tail_eq⟩,
    ⟨hinv.valid.length_contents, hacc⟩, fun a _ => node_of_refused s a,
    fun a t item hfull => hinv.not_put_of_full hfull a t item⟩

end QueueThreads

/-! ## The queues of the receiver threads -/

namespace ReceiverThreads

variable {s : ReceiverThreads} {wn : WorkerNode QueuedItem} {worker : Nat}

/-- The list of the worker is what the ring holds. -/
structure IsRing (s : ReceiverThreads) (worker : Nat) (wn : WorkerNode QueuedItem) : Prop where
  valid : wn.Valid
  queue : s.queues worker = wn.contents

/-- There is room in both or in neither, and a put and a batch do the same to both. -/
theorem IsRing.follows (h : s.IsRing worker wn) :
    ((s.queues worker).length < queueSize ↔ wn.count < queueSize) ∧
    (∀ item, wn.count < queueSize → (s.push worker item).IsRing worker (wn.put item)) ∧
    (s.keepRunning = true ∧ s.batches worker = [] ∧ (!s.locked worker) = true →
      (s.batchTaken worker).batches worker = (wn.takeItems wn.batchSize.toNat).1 ∧
        (s.batchTaken worker).IsRing worker (wn.takeItems wn.batchSize.toNat).2) := by
  obtain ⟨hvalid, hqueue⟩ := h
  have hlength := hvalid.length_contents
  refine ⟨by rw [hqueue]; omega, fun item hroom => ?_, fun hready => ?_⟩
  · have hput : (s.push worker item).queues worker = s.queues worker ++ [item] :=
      Function.update_self _ _ _
    exact ⟨hvalid.put hroom item, by rw [hput, hqueue, hvalid.contents_put hroom]⟩
  · obtain ⟨hleftValid, htaken, hleft⟩ := hvalid.takeBatch
    unfold batchTaken
    rw [if_pos hready, htaken, ← hqueue]
    refine ⟨Function.update_self _ _ _, hleftValid, ?_⟩
    rw [hleft, ← hqueue]
    exact Function.update_self _ _ _

end ReceiverThreads

end MultiDAQ.Receiver
