import MultiDAQ.Server.Verify.PersistenceMoves

/-!
# Idle and flushed

A sample is in the queue, with the worker that has got it, in the buffer, in a batch, in the file,
or counted as dropped (`Located`). A stream that is idle has nothing in the queue or with a worker;
what `flush_stream` finds is written, and what is written under the lock is waited for. A batch that
another thread has taken and does not write yet is neither.
-/

namespace MultiDAQ.Server

open MultiDAQ.Lib

namespace Persistence

variable {s s' : Persistence} {thread : Nat} {env : PersistenceEnv} {task next : PersistenceTask}

/-! ## Items that are accepted -/

/-- What the code does not keep: the items that the queue has taken, and those that are counted as
dropped. -/
structure ItemLog where
  accepted : List PersistenceItem := []
  dropped : List PersistenceItem := []

def noteItems (s : Persistence) (log : ItemLog) : PersistenceAction → ItemLog
  | .advance thread _ =>
    { log with dropped := log.dropped ++ (s.tasks[thread]?).elim [] PersistenceTask.drops }
  | a => { log with accepted := log.accepted ++ (s.accepts a).toList }

def watchItems (x : Persistence × ItemLog) (a : PersistenceAction) : Persistence × ItemLog :=
  (x.1.step a, x.1.noteItems x.2 a)

/-- The item is in the queue, or a worker has got it. -/
def Waits (s : Persistence) (item : PersistenceItem) : Prop :=
  item ∈ s.queue ∨ ∃ thread : Nat, s.tasks[thread]? = some (.got item)

/-- The item is in the buffer, or another thread has taken it. -/
def TakenElsewhere (s : Persistence) (thread : Nat) (item : PersistenceItem) : Prop :=
  item ∈ s.buffered item.key ∨
    ∃ (t : Nat) (task : PersistenceTask),
      t ≠ thread ∧ s.tasks[t]? = some task ∧ Among item task.taken

/-- Another thread writes the item under the lock. -/
def LockedElsewhere (s : Persistence) (thread : Nat) (item : PersistenceItem) : Prop :=
  ∃ (t : Nat) (task : PersistenceTask), t ≠ thread ∧ s.tasks[t]? = some task ∧ task.Locks item

/-- The item is where it can be. -/
def Located (s : Persistence) (log : ItemLog) (item : PersistenceItem) : Prop :=
  Waits s item ∨ item ∈ s.buffered item.key ∨
    (∃ (thread : Nat) (task : PersistenceTask),
      s.tasks[thread]? = some task ∧ Among item task.unwritten) ∨
    item ∈ s.files item.key ∨ item ∈ log.dropped

namespace Moves

variable {fails : Bool} {dropped : List PersistenceItem} {log : ItemLog} {item : PersistenceItem}
  {t : Nat}

/-- Another thread has the task that it had. -/
theorem getElem?_of_ne (h : Moves s thread task next s' fails dropped) (hne : t ≠ thread) :
    s'.tasks[t]? = s.tasks[t]? := by
  rw [h.tasks, List.getElem?_set_ne (Ne.symm hne)]

theorem getElem?_self (h : Moves s thread task next s' fails dropped)
    (ht : s.tasks[thread]? = some task) : s'.tasks[thread]? = some next := by
  rw [h.tasks, getElem?_set_self_of_some next ht]

theorem waits (h : Moves s thread task next s' fails dropped) (ht : s.tasks[thread]? = some task)
    (hwaits : Waits s' item) : Waits s item := by
  rcases hwaits with hqueue | ⟨t, hgot⟩
  · exact .inl (h.queue item hqueue)
  · by_cases hne : t = thread
    · subst hne
      rw [h.getElem?_self ht] at hgot
      rcases h.got item (Option.some.inj hgot) with hqueue | htask
      · exact .inl hqueue
      · exact .inr ⟨t, by rw [ht, htask]⟩
    · rw [h.getElem?_of_ne hne] at hgot
      exact .inr ⟨t, hgot⟩

/-- An item that another thread has taken was taken, or came in, or could not be written. -/
theorem takenElsewhere (h : Moves s thread task next s' fails dropped)
    (ht : s.tasks[thread]? = some task) (htaken : TakenElsewhere s' t item) :
    TakenElsewhere s t item ∨ Waits s item ∨ (t ≠ thread ∧ task.Locks item ∧ fails = true) := by
  have hgot (htask : task = .got item) : Waits s item := .inr ⟨thread, by rw [ht, htask]⟩
  rcases htaken with hbuffer | ⟨t', task', hne, ht', hamong⟩
  · rcases h.buffered item hbuffer with hold | htask
    · exact .inl (.inl hold)
    · exact .inr (.inl (hgot htask))
  · by_cases heq : t' = thread
    · subst heq
      rw [h.getElem?_self ht] at ht'
      cases ht'
      rcases h.taken item hamong with hold | hbuffer | htask | hfails
      · exact .inl (.inr ⟨t', task, hne, ht, hold⟩)
      · exact .inl (.inl hbuffer)
      · exact .inr (.inl (hgot htask))
      · exact .inr (.inr ⟨Ne.symm hne, hfails⟩)
    · rw [h.getElem?_of_ne heq] at ht'
      exact .inl (.inr ⟨t', task', hne, ht', hamong⟩)

theorem lockedElsewhere (h : Moves s thread task next s' fails dropped)
    (ht : s.tasks[thread]? = some task) (hlocked : LockedElsewhere s' t item) :
    LockedElsewhere s t item ∨ TakenElsewhere s t item := by
  obtain ⟨t', task', hne, ht', hlocks⟩ := hlocked
  by_cases heq : t' = thread
  · subst heq
    rw [h.getElem?_self ht] at ht'
    cases ht'
    rcases h.locked item hlocks with hold | htaken
    · exact .inl ⟨t', task, hne, ht, hold⟩
    · exact .inr (.inr ⟨t', task, hne, ht, htaken⟩)
  · rw [h.getElem?_of_ne heq] at ht'
    exact .inl ⟨t', task', hne, ht', hlocks⟩

/-- An item stays where it can be. -/
theorem located (h : Moves s thread task next s' fails dropped) (ht : s.tasks[thread]? = some task)
    (hsamples : item.key.samples = true) (hsome : s.states.get? item.key ≠ none)
    (hlocated : Located s log item) :
    Located s' { log with dropped := log.dropped ++ dropped } item := by
  have hself := h.getElem?_self ht
  have hgot (hnext : next = .got item) :
      Located s' { log with dropped := log.dropped ++ dropped } item :=
    .inl (.inr ⟨thread, by rw [hself, hnext]⟩)
  have hbatch (hnext : Among item next.unwritten) :
      Located s' { log with dropped := log.dropped ++ dropped } item :=
    .inr (.inr (.inl ⟨thread, next, hself, hnext⟩))
  have hdropped (hmem : item ∈ log.dropped ++ dropped) :
      Located s' { log with dropped := log.dropped ++ dropped } item :=
    .inr (.inr (.inr (.inr hmem)))
  rcases hlocated with (hqueue | ⟨t, ht'⟩) | hbuffer | ⟨t, task', ht', hamong⟩ | hfile | hold
  · rcases h.leavesQueue item hqueue with hqueue' | hnext
    · exact .inl (.inl hqueue')
    · exact hgot hnext
  · by_cases heq : t = thread
    · subst heq
      rw [ht] at ht'
      rcases h.leavesGot item (Option.some.inj ht') with hnext | hbuffer | hnext | hmem
      · exact hgot hnext
      · exact .inr (.inl hbuffer)
      · exact hbatch hnext
      · exact hdropped (List.mem_append_right _ hmem)
    · rw [← h.getElem?_of_ne heq] at ht'
      exact .inl (.inr ⟨t, ht'⟩)
  · rcases h.leavesBuffer item hbuffer with hbuffer' | hnext
    · exact .inr (.inl hbuffer')
    · exact hbatch hnext
  · by_cases heq : t = thread
    · subst heq
      rw [ht] at ht'
      cases ht'
      rcases h.leavesBatch item hsamples hsome hamong with hnext | hfile | hmem
      · exact hbatch hnext
      · exact .inr (.inr (.inr (.inl hfile)))
      · exact hdropped (List.mem_append_right _ hmem)
    · rw [← h.getElem?_of_ne heq] at ht'
      exact .inr (.inr (.inl ⟨t, task', ht', hamong⟩))
  · exact .inr (.inr (.inr (.inl (h.files item hfile))))
  · exact hdropped (List.mem_append_left _ hold)

end Moves

/-! ## The stages of a drain -/

/-- How far a thread has come that drains a stream. -/
inductive DrainStage
  /-- The stream is deactivated. -/
  | asked
  /-- It was idle. -/
  | idle
  /-- Its buffer has been looked into. -/
  | cleared
  /-- Its write lock has been free. -/
  | alone

/-- Where an item that was accepted before is not to be found. -/
def DrainStage.Excludes (s : Persistence) (thread : Nat) (item : PersistenceItem) :
    DrainStage → Prop
  | .asked => True
  | .idle => ¬Waits s item
  | .cleared => ¬Waits s item ∧ ¬TakenElsewhere s thread item
  | .alone => ¬Waits s item ∧ ¬TakenElsewhere s thread item ∧ ¬LockedElsewhere s thread item

end Persistence

open Persistence (DrainStage)

/-- The stream that a thread drains, how many items had been made before, and its stage. -/
def PersistenceTask.stage : PersistenceTask → Option (PersistenceKey × Nat × DrainStage)
  | .draining key accepted => some (key, accepted, .asked)
  | .flushing _ (.drain key accepted) => some (key, accepted, .idle)
  | .passing _ (.drain key accepted) => some (key, accepted, .cleared)
  | .writing (_ :: _) _ (.drain key accepted) => some (key, accepted, .cleared)
  | .writing [] success (.drain key accepted) =>
    if success then some (key, accepted, .alone) else none
  | .locked _ _ _ _ (.drain key accepted) => some (key, accepted, .alone)
  | .written _ _ _ _ (.drain key accepted) => some (key, accepted, .alone)
  | .drained key accepted => some (key, accepted, .alone)
  | _ => none

/-- A thread that drains a stream has at most one batch, and it is of this stream. -/
def PersistenceTask.Shaped : PersistenceTask → Prop
  | .flushing key (.drain key' _) | .passing key (.drain key' _) => key = key'
  | .writing (batch :: rest) _ (.drain key _) => batch.1 = key ∧ batch.2 ≠ [] ∧ rest = []
  | .locked batch _ rest _ (.drain key _) | .written batch _ rest _ (.drain key _) =>
    batch.1 = key ∧ rest = []
  | _ => True

namespace Persistence

variable {s s' : Persistence} {thread : Nat} {env : PersistenceEnv} {task next : PersistenceTask}
  {key : PersistenceKey} {accepted : Nat} {reached : DrainStage}

/-- How a thread comes to its next stage. -/
inductive StageStep (s s' : Persistence) (task : PersistenceTask) (key : PersistenceKey) :
    DrainStage → DrainStage → Prop
  | same {stage : DrainStage} : StageStep s s' task key stage stage
  | waited {state : PersistenceState} : s.states.get? key = some state → state.queuePending = 0 →
    StageStep s s' task key .asked .idle
  | looks {accepted : Nat} : task = .flushing key (.drain key accepted) → s'.buffered key = [] →
    StageStep s s' task key .idle .cleared
  | passes : s.writeLocks key = none → StageStep s s' task key .cleared .alone
  | events {stage stage' : DrainStage} : key.samples = false →
    StageStep s s' task key stage stage'

theorem stage_next {success : Bool} {after : AfterWrite}
    (h : (after.next success).stage = some (key, accepted, reached)) :
    after = .drain key accepted ∧ success = true ∧ reached = .alone := by
  cases after with
  | drain key' accepted' =>
    cases success with
    | true =>
      cases h
      exact ⟨rfl, rfl, rfl⟩
    | false => cases h
  | _ => cases h

theorem Goes.stage (h : Goes s env task next) (hshaped : task.Shaped)
    (hstage : next.stage = some (key, accepted, reached)) {s' : Persistence}
    (hbuffers : s'.buffers = s.buffers) :
    ∃ stage₀, task.stage = some (key, accepted, stage₀) ∧
      StageStep s s' task key stage₀ reached := by
  cases h with
  | leaves | checks | polls | waitsInVain | stops => cases hstage
  | @skips key' rest success after =>
    cases after with
    | drain => exact absurd rfl hshaped.2.1
    | _ => cases rest <;> cases hstage
  | @unknown batch rest success after =>
    cases after with
    | drain =>
      rw [hshaped.2.2] at hstage
      cases hstage
    | _ => cases rest <;> cases hstage
  | @refuses batch rest success after hevents =>
    cases after with
    | drain key' accepted' =>
      cases hstage
      exact ⟨_, rfl, .events (hshaped.1 ▸ hevents)⟩
    | _ => cases hstage
  | @forgets batch rest success after =>
    cases after with
    | drain =>
      rw [hshaped.2.2] at hstage
      cases hstage
    | _ => cases rest <;> cases hstage
  | @finishes success after =>
    obtain ⟨rfl, rfl, rfl⟩ := stage_next hstage
    exact ⟨_, rfl, .same⟩
  | wasIdle hstate hidle =>
    cases hstage
    exact ⟨_, rfl, .waited hstate hidle⟩
  | @findsNothing key' after hempty =>
    cases after with
    | drain key'' accepted' =>
      cases hstage
      obtain rfl : key' = key := hshaped
      refine ⟨_, rfl, .looks rfl ?_⟩
      show (s'.buffers.get? key').getD [] = []
      rw [hbuffers]
      exact hempty
    | _ => cases hstage
  | @passes key' after hfree =>
    obtain ⟨rfl, _, rfl⟩ := stage_next hstage
    obtain rfl : key' = key := hshaped
    exact ⟨_, rfl, .passes hfree⟩

theorem AdvanceStep.stage (h : AdvanceStep s thread env task next s') (hshaped : task.Shaped)
    (hstage : next.stage = some (key, accepted, reached)) :
    ∃ stage₀, task.stage = some (key, accepted, stage₀) ∧
      StageStep s s' task key stage₀ reached := by
  cases h with
  | stays => exact ⟨reached, hstage, .same⟩
  | goes hgoes => exact hgoes.stage hshaped hstage rfl
  | gets | drops | buffers | marks => cases hstage
  | fills => cases hstage
  | @takes _ due after hfrom =>
    generalize s.batchesWhere due = batches at hstage
    rcases hfrom with ⟨_, rfl⟩ | ⟨_, rfl⟩ <;> cases batches <;> cases hstage
  | @locks batch format rest success after _ hfree =>
    cases after with
    | drain key' accepted' =>
      cases hstage
      exact ⟨_, rfl, .passes (hshaped.1 ▸ hfree)⟩
    | _ => cases hstage
  | @writes batch rest success after =>
    cases after with
    | drain =>
      cases hstage
      exact ⟨_, rfl, .same⟩
    | _ => cases hstage
  | @fails batch format rest success after =>
    cases after with
    | drain =>
      cases hstage
      exact ⟨_, rfl, .same⟩
    | _ => cases hstage
  | @counts batch rest success after =>
    cases after with
    | drain =>
      rw [hshaped.2] at hstage
      cases success with
      | true =>
        cases hstage
        exact ⟨_, rfl, .same⟩
      | false => cases hstage
    | _ => cases rest <;> cases hstage
  | @discards batch rest success after =>
    cases after with
    | drain =>
      rw [hshaped.2] at hstage
      cases hstage
    | _ => cases rest <;> cases hstage
  | @flushes key' after hitems =>
    cases after with
    | drain key'' accepted' =>
      cases hstage
      obtain rfl : key' = key := hshaped
      refine ⟨_, rfl, .looks rfl ?_⟩
      show ((s.buffers.set key' []).get? key').getD [] = []
      rw [Dict.get?_set, if_pos rfl]
      rfl
    | _ => cases hstage

theorem shaped_next (success : Bool) (after : AfterWrite) : (after.next success).Shaped := by
  cases after with
  | drain => cases success <;> trivial
  | _ => trivial

theorem AdvanceStep.shaped (h : AdvanceStep s thread env task next s') (hshaped : task.Shaped) :
    next.Shaped := by
  have hrest {batches : List Batch} {success : Bool} {after : AfterWrite}
      (hnil : ∀ key accepted, after = .drain key accepted → batches = []) :
      (PersistenceTask.writing batches success after).Shaped := by
    cases after with
    | drain key accepted =>
      rw [hnil key accepted rfl]
      trivial
    | _ => cases batches <;> trivial
  cases h with
  | stays => exact hshaped
  | goes hgoes =>
    cases hgoes with
    | leaves | checks | polls | waitsInVain | stops => trivial
    | @skips key rest success after =>
      refine hrest fun key accepted hafter => ?_
      subst hafter
      exact hshaped.2.2
    | @unknown batch rest success after =>
      refine hrest fun key accepted hafter => ?_
      subst hafter
      exact hshaped.2.2
    | @refuses batch rest success after =>
      cases after with
      | drain => exact ⟨hshaped.1, hshaped.2.2⟩
      | _ => trivial
    | @forgets batch rest success after =>
      refine hrest fun key accepted hafter => ?_
      subst hafter
      exact hshaped.2.2
    | finishes => exact shaped_next _ _
    | wasIdle => exact rfl
    | @findsNothing key after =>
      cases after with
      | drain => exact hshaped
      | _ => trivial
    | passes => exact shaped_next _ _
  | gets | drops | buffers | marks | fills => trivial
  | @takes _ due after hfrom =>
    refine hrest fun key accepted hafter => ?_
    subst hafter
    rcases hfrom with ⟨_, hcontra⟩ | ⟨_, hcontra⟩ <;> cases hcontra
  | @locks batch format rest success after =>
    cases after with
    | drain => exact ⟨hshaped.1, hshaped.2.2⟩
    | _ => trivial
  | @writes batch rest success after =>
    cases after with
    | drain => exact hshaped
    | _ => trivial
  | @fails batch format rest success after =>
    cases after with
    | drain => exact hshaped
    | _ => trivial
  | @counts batch rest success after =>
    refine hrest fun key accepted hafter => ?_
    subst hafter
    exact hshaped.2
  | @discards batch rest success after =>
    refine hrest fun key accepted hafter => ?_
    subst hafter
    exact hshaped.2
  | @flushes key after hitems =>
    cases after with
    | drain => exact ⟨hshaped, hitems, rfl⟩
    | _ => trivial

/-! ## Pending items -/

/-- How many items of a key the workers are still to mark as processed. -/
def unmarkedCount (s : Persistence) (key : PersistenceKey) : Nat :=
  (s.tasks.map (·.unmarked key)).sum

/-- The counter is what is in the queue and with the workers. -/
def Pending (s : Persistence) : Prop :=
  ∀ key, s.counter key (·.queuePending) = s.queued key + s.unmarkedCount key

theorem counter_modifyState {f : PersistenceState → PersistenceState}
    {field : PersistenceState → Nat} (h : ∀ state, field (f state) = field state)
    (k : PersistenceKey) : (s.modifyState key f).counter k field = s.counter k field := by
  show ((s.states.modify key f).get? k).elim 0 field = (s.states.get? k).elim 0 field
  rw [Dict.get?_modify]
  split
  · cases s.states.get? k with
    | none => rfl
    | some state => exact h state
  · rfl

theorem unmarked_next (success : Bool) (after : AfterWrite) (k : PersistenceKey) :
    (after.next success).unmarked k =
      (PersistenceTask.writing [] success after).unmarked k := by
  cases after with
  | drain => cases success <;> rfl
  | _ => rfl

theorem Goes.unmarked (h : Goes s env task next) (k : PersistenceKey) :
    next.unmarked k = task.unmarked k := by
  cases h with
  | finishes => exact unmarked_next ..
  | passes => exact unmarked_next ..
  | _ => rfl

theorem Pending.congr (h : s.Pending) (ht : s.tasks[thread]? = some task)
    (htasks : s'.tasks = s.tasks.set thread next) (hqueue : s'.queue = s.queue)
    (hcounter : ∀ k, s'.counter k (·.queuePending) = s.counter k (·.queuePending))
    (hunmarked : ∀ k, next.unmarked k = task.unmarked k) : s'.Pending := by
  intro k
  have hsum := sum_map_set (·.unmarked k) next ht
  have hcount : s'.unmarkedCount k = s.unmarkedCount k := by
    unfold unmarkedCount
    rw [htasks]
    have hk := hunmarked k
    omega
  unfold queued
  rw [hcounter, hqueue, hcount]
  exact h k

theorem AdvanceStep.pending (hstep : AdvanceStep s thread env task next s') (h : s.Pending)
    (ht : s.tasks[thread]? = some task) : s'.Pending := by
  have htasks := hstep.tasks ht
  cases hstep with
  | stays => exact h
  | goes hgoes => exact h.congr ht htasks rfl (fun _ => rfl) hgoes.unmarked
  | @gets item queue hqueue =>
    intro k
    have hsum : unmarkedCount ({ s with queue }.goto thread (.got item)) k + 0 =
        s.unmarkedCount k + if item.key = k then 1 else 0 :=
      sum_map_set (·.unmarked k) (.got item) ht
    have hcons : s.queued k = queue.countP (·.key = k) + if item.key = k then 1 else 0 := by
      unfold queued
      rw [hqueue, List.countP_cons]
      simp only [decide_eq_true_eq]
    have hk := h k
    show s.counter k _ = queue.countP (·.key = k) + unmarkedCount (goto _ _ _) k
    omega
  | drops => exact h.congr ht htasks rfl (counter_modifyState fun _ => rfl) fun _ => rfl
  | buffers => exact h.congr ht htasks rfl (fun _ => rfl) fun _ => rfl
  | fills => exact h.congr ht htasks rfl (fun _ => rfl) fun _ => rfl
  | @marks item =>
    intro k
    have hsum : unmarkedCount ((s.markProcessed item.key).goto thread .checking) k +
        (if item.key = k then 1 else 0) = s.unmarkedCount k + 0 :=
      sum_map_set (·.unmarked k) .checking ht
    have hk := h k
    have hcounter : ((s.markProcessed item.key).goto thread .checking).counter k
        (·.queuePending) = s.counter k (·.queuePending) - if item.key = k then 1 else 0 := by
      show ((s.states.modify item.key _).get? k).elim 0 _ = (s.states.get? k).elim 0 _ - _
      rw [Dict.get?_modify]
      by_cases hkey : item.key = k
      · rw [if_pos hkey.symm, if_pos hkey]
        cases s.states.get? k with
        | none => rfl
        | some state => rfl
      · rw [if_neg (Ne.symm hkey), if_neg hkey]
        rfl
    rw [hcounter]
    show _ = s.queued k + unmarkedCount (goto _ _ _) k
    omega
  | takes hfrom =>
    refine h.congr ht htasks rfl (fun _ => rfl) fun _ => ?_
    rcases hfrom with ⟨rfl, rfl⟩ | ⟨rfl, rfl⟩ <;> rfl
  | locks => exact h.congr ht htasks rfl (fun _ => rfl) fun _ => rfl
  | writes => exact h.congr ht htasks rfl (fun _ => rfl) fun _ => rfl
  | fails => exact h.congr ht htasks rfl (fun _ => rfl) fun _ => rfl
  | counts => exact h.congr ht htasks rfl (counter_modifyState fun _ => rfl) fun _ => rfl
  | discards => exact h.congr ht htasks rfl (counter_modifyState fun _ => rfl) fun _ => rfl
  | flushes => exact h.congr ht htasks rfl (fun _ => rfl) fun _ => rfl

/-- When the counter is zero no item waits. -/
theorem Pending.not_waits (h : s.Pending) {state : PersistenceState} {item : PersistenceItem}
    (hstate : s.states.get? item.key = some state) (hzero : state.queuePending = 0) :
    ¬Waits s item := by
  have hcounter : s.counter item.key (·.queuePending) = 0 := by
    unfold counter
    rw [hstate]
    exact hzero
  have hsum := h item.key
  rw [hcounter] at hsum
  rintro (hqueue | ⟨t, ht⟩)
  · have hpos : 0 < s.queued item.key :=
      List.countP_pos_iff.2 ⟨item, hqueue, decide_eq_true rfl⟩
    omega
  · have hle : (if item.key = item.key then 1 else 0) ≤ s.unmarkedCount item.key :=
      le_sum_map (·.unmarked item.key) ht
    rw [if_pos rfl] at hle
    omega

/-! ## Write locks -/

/-- Who writes under a lock holds it. -/
def LocksHeld (s : Persistence) : Prop :=
  ∀ (t : Nat) task key, s.tasks[t]? = some task → task.lockKey = some key →
    s.writeLocks key = some t

theorem LocksHeld.congr (h : s.LocksHeld) (htasks : s'.tasks = s.tasks.set thread next)
    (ht : s.tasks[thread]? = some task) (hlocks : s'.writeLocks = s.writeLocks)
    (hnext : next.lockKey = none) : s'.LocksHeld := by
  intro t task' key ht' hkey
  rw [hlocks]
  by_cases heq : t = thread
  · subst heq
    rw [htasks, getElem?_set_self_of_some next ht] at ht'
    cases ht'
    rw [hnext] at hkey
    cases hkey
  · rw [htasks, List.getElem?_set_ne (Ne.symm heq)] at ht'
    exact h t task' key ht' hkey

theorem lockKey_next (success : Bool) (after : AfterWrite) :
    (after.next success).lockKey = none := by
  cases after with
  | drain => cases success <;> rfl
  | _ => rfl

/-- The lock is left. -/
theorem LocksHeld.release {batch : Batch} (h : s.LocksHeld)
    (htasks : s'.tasks = s.tasks.set thread next) (ht : s.tasks[thread]? = some task)
    (htask : task.lockKey = some batch.1)
    (hlocks : s'.writeLocks = Function.update s.writeLocks batch.1 none)
    (hnext : next.lockKey = none) : s'.LocksHeld := by
  intro t task' key ht' hkey
  by_cases heq : t = thread
  · subst heq
    rw [htasks, getElem?_set_self_of_some next ht] at ht'
    cases ht'
    rw [hnext] at hkey
    cases hkey
  · rw [htasks, List.getElem?_set_ne (Ne.symm heq)] at ht'
    have hheld := h t task' key ht' hkey
    have hne : key ≠ batch.1 := by
      rintro rfl
      have hself := h thread task batch.1 ht htask
      rw [hheld] at hself
      exact heq (Option.some.inj hself)
    rw [hlocks, Function.update_of_ne hne]
    exact hheld

theorem AdvanceStep.locksHeld (hstep : AdvanceStep s thread env task next s') (h : s.LocksHeld)
    (ht : s.tasks[thread]? = some task) : s'.LocksHeld := by
  have htasks := hstep.tasks ht
  cases hstep with
  | stays => exact h
  | goes hgoes =>
    refine h.congr htasks ht rfl ?_
    cases hgoes with
    | finishes => exact lockKey_next ..
    | passes => exact lockKey_next ..
    | _ => rfl
  | @locks batch format rest success after _ hfree =>
    intro t task' key ht' hkey
    show Function.update s.writeLocks batch.1 (some thread) key = some t
    by_cases heq : t = thread
    · subst heq
      rw [htasks, getElem?_set_self_of_some _ ht] at ht'
      cases ht'
      cases hkey
      exact Function.update_self ..
    · rw [htasks, List.getElem?_set_ne (Ne.symm heq)] at ht'
      have hheld := h t task' key ht' hkey
      have hne : key ≠ batch.1 := by
        rintro rfl
        rw [hfree] at hheld
        cases hheld
      rw [Function.update_of_ne hne]
      exact hheld
  | writes => exact h.release htasks ht rfl rfl rfl
  | fails => exact h.release htasks ht rfl rfl rfl
  | gets | drops | buffers | fills | marks | counts | discards | flushes =>
    exact h.congr htasks ht rfl rfl
  | takes => exact h.congr htasks ht rfl rfl

theorem LocksHeld.not_lockedElsewhere (h : s.LocksHeld) {item : PersistenceItem}
    (hfree : s.writeLocks item.key = none) (thread : Nat) : ¬LockedElsewhere s thread item := by
  rintro ⟨t, task, _, ht, hlocks⟩
  cases task with
  | locked batch format rest success after =>
    have hheld := h t _ item.key ht (congrArg some hlocks.1)
    rw [hfree] at hheld
    cases hheld
  | _ => exact hlocks

/-! ## The invariant -/

variable {log : ItemLog} {item : PersistenceItem}

/-- What a drain has come to, for the items that were made before it. -/
def DrainsKept (s : Persistence) (log : ItemLog) : Prop :=
  ∀ (t : Nat) task key accepted reached, s.tasks[t]? = some task →
    task.stage = some (key, accepted, reached) → accepted ≤ s.nextItem ∧
      (key.samples = true → ∀ item ∈ log.accepted, item.key = key → item.number < accepted →
        reached.Excludes s t item)

structure ItemInv (s : Persistence) (log : ItemLog) : Prop where
  prepared : ∀ item ∈ log.accepted, s.states.get? item.key ≠ none
  located : ∀ item ∈ log.accepted, item.key.samples = true → Located s log item
  pending : s.Pending
  locks : s.LocksHeld
  shaped : ∀ (t : Nat) task, s.tasks[t]? = some task → task.Shaped
  drains : DrainsKept s log

theorem stage_waitsFor (hshaped : task.Shaped) (h : task.stage = some (key, accepted, .cleared)) :
    task.waitsFor key = true := by
  unfold PersistenceTask.stage at h
  split at h
  · cases h
  · cases h
  · cases h
    exact decide_eq_true rfl
  · cases h
    exact decide_eq_true rfl
  · split at h <;> cases h
  · cases h
  · cases h
  · cases h
  · cases h

/-- What is excluded stays excluded, unless a write fails that the drain waits for. -/
theorem DrainStage.Excludes.moves {fails : Bool} {dropped : List PersistenceItem} {t : Nat}
    (h : reached.Excludes s t item) (hmoves : Moves s thread task next s' fails dropped)
    (ht : s.tasks[thread]? = some task)
    (hfails : reached = .cleared → t ≠ thread → task.Locks item → fails = false) :
    reached.Excludes s' t item := by
  have htaken (hwaits : ¬Waits s item) (htaken : ¬TakenElsewhere s t item)
      (hfails : t ≠ thread → task.Locks item → fails = false) : ¬TakenElsewhere s' t item := by
    intro hnew
    rcases hmoves.takenElsewhere ht hnew with hold | hold | ⟨hne, hlocks, hfail⟩
    · exact htaken hold
    · exact hwaits hold
    · rw [hfails hne hlocks] at hfail
      cases hfail
  cases reached with
  | asked => trivial
  | idle => exact fun hwaits => h (hmoves.waits ht hwaits)
  | cleared => exact ⟨fun hwaits => h.1 (hmoves.waits ht hwaits), htaken h.1 h.2 (hfails rfl)⟩
  | alone =>
    refine ⟨fun hwaits => h.1 (hmoves.waits ht hwaits), htaken h.1 h.2.1 fun hne hlocks => ?_,
      fun hlocked => ?_⟩
    · exact absurd ⟨thread, task, Ne.symm hne, ht, hlocks⟩ h.2.2
    · rcases hmoves.lockedElsewhere ht hlocked with hold | hold
      · exact h.2.2 hold
      · exact h.2.1 hold

/-- A flush of a stream finds no batch of it that another thread has taken and does not write, and
no write fails that a flush waits for. -/
def orderly (s : Persistence) : PersistenceAction → Bool
  | .advance thread env =>
    match s.tasks[thread]? with
    | some (.flushing key (.drain _ _)) =>
      !key.samples || s.tasks.all fun task => task.taken.all fun batch => decide (batch.1 ≠ key)
    | some (.locked batch format _ _ _) =>
      !batch.1.samples || decide (format = .csv ∧ env.writeOk = true) ||
        s.tasks.all fun task => !task.waitsFor batch.1
    | _ => true
  | _ => true

theorem not_taken_of_orderly {accepted : Nat} (h : s.orderly (.advance thread env) = true)
    (ht : s.tasks[thread]? = some (.flushing key (.drain key accepted)))
    (hsamples : key.samples = true) :
    ∀ task ∈ s.tasks, ∀ batch ∈ task.taken, batch.1 ≠ key := by
  unfold orderly at h
  dsimp only at h
  rw [ht] at h
  simpa [hsamples] using h

theorem written_of_orderly (h : s.orderly (.advance thread env) = true)
    (ht : s.tasks[thread]? = some task) (hlocks : task.Locks item)
    (hsamples : item.key.samples = true) :
    task.failsWrite env = false ∨ ∀ task ∈ s.tasks, task.waitsFor item.key = false := by
  cases task with
  | locked batch format rest success after =>
    obtain ⟨hkey, _⟩ := hlocks
    unfold orderly at h
    dsimp only at h
    rw [ht] at h
    dsimp only at h
    rw [hkey, hsamples, Bool.not_true, Bool.false_or, Bool.or_eq_true] at h
    rcases h with hok | hwaits
    · exact .inl (decide_eq_false fun hfail => hfail (of_decide_eq_true hok))
    · exact .inr (by simpa using hwaits)
  | _ => exact hlocks.elim

/-- The stage that a thread comes to excludes what it says. -/
theorem StageStep.excludes {stage₀ : DrainStage} {fails : Bool} {dropped : List PersistenceItem}
    (hstep : StageStep s s' task item.key stage₀ reached) (h : ItemInv s log)
    (ht : s.tasks[thread]? = some task) (hmoves : Moves s thread task next s' fails dropped)
    (horderly : s.orderly (.advance thread env) = true) (hsamples : item.key.samples = true)
    (hexcludes : stage₀.Excludes s thread item) : reached.Excludes s' thread item := by
  cases hstep with
  | same => exact hexcludes.moves hmoves ht fun _ hne => absurd rfl hne
  | waited hstate hzero =>
    exact fun hwaits => h.pending.not_waits hstate hzero (hmoves.waits ht hwaits)
  | looks htask hempty =>
    refine ⟨fun hwaits => hexcludes (hmoves.waits ht hwaits), ?_⟩
    rintro (hbuffer | ⟨t, task', hne, ht', items, hmem, _⟩)
    · rw [hempty] at hbuffer
      cases hbuffer
    · rw [htask] at ht
      rw [hmoves.getElem?_of_ne hne] at ht'
      exact not_taken_of_orderly horderly ht hsamples task' (List.mem_of_getElem? ht') _ hmem rfl
  | passes hfree =>
    have hold : DrainStage.cleared.Excludes s thread item := hexcludes
    have hcleared := hold.moves hmoves ht fun _ hne => absurd rfl hne
    refine ⟨hcleared.1, hcleared.2, fun hlocked => ?_⟩
    rcases hmoves.lockedElsewhere ht hlocked with hold | hold
    · exact h.locks.not_lockedElsewhere hfree thread hold
    · exact hexcludes.2 hold
  | events hevents => rw [hsamples] at hevents; cases hevents

/-- The invariant is kept by what a thread moves, if the stage that it comes to is right. -/
theorem ItemInv.moves {fails : Bool} {dropped : List PersistenceItem} (h : ItemInv s log)
    (ht : s.tasks[thread]? = some task) (hmoves : Moves s thread task next s' fails dropped)
    (hprepared : ∀ k, s'.states.get? k = none → s.states.get? k = none) (hpending : s'.Pending)
    (hlocks : s'.LocksHeld) (hshaped : next.Shaped)
    (hfails : ∀ item, item.key.samples = true → task.Locks item →
      fails = false ∨ ∀ task ∈ s.tasks, task.waitsFor item.key = false)
    (hown : ∀ key accepted reached, next.stage = some (key, accepted, reached) →
      accepted ≤ s.nextItem ∧ (key.samples = true → ∀ item ∈ log.accepted, item.key = key →
        item.number < accepted → reached.Excludes s' thread item)) :
    ItemInv s' { log with dropped := log.dropped ++ dropped } := by
  refine ⟨fun item hmem hnone => h.prepared item hmem (hprepared _ hnone), fun item hmem hs => ?_,
    hpending, hlocks, fun t task' ht' => ?_, fun t task' key accepted reached ht' hstage => ?_⟩
  · exact hmoves.located ht hs (h.prepared item hmem) (h.located item hmem hs)
  · by_cases heq : t = thread
    · subst heq
      rw [hmoves.getElem?_self ht] at ht'
      cases ht'
      exact hshaped
    · rw [hmoves.getElem?_of_ne heq] at ht'
      exact h.shaped t task' ht'
  · rw [hmoves.nextItem]
    by_cases heq : t = thread
    · subst heq
      rw [hmoves.getElem?_self ht] at ht'
      cases ht'
      exact hown key accepted reached hstage
    · rw [hmoves.getElem?_of_ne heq] at ht'
      obtain ⟨hle, hexcludes⟩ := h.drains t task' key accepted reached ht' hstage
      refine ⟨hle, fun hsamples item hmem hkey hnumber => ?_⟩
      refine (hexcludes hsamples item hmem hkey hnumber).moves hmoves ht ?_
      rintro rfl _ hlocks
      subst hkey
      rcases hfails item hsamples hlocks with hok | hwaits
      · exact hok
      · have hfor := stage_waitsFor (h.shaped t task' ht') hstage
        rw [hwaits task' (List.mem_of_getElem? ht')] at hfor
        cases hfor

theorem ItemInv.advance (h : ItemInv s log) (ht : s.tasks[thread]? = some task)
    (hstep : AdvanceStep s thread env task next s')
    (horderly : s.orderly (.advance thread env) = true) :
    ItemInv s' { log with dropped := log.dropped ++ task.drops } := by
  have hmoves := hstep.moves ht
  have hshaped := h.shaped thread task ht
  refine h.moves ht hmoves (fun _ => hstep.get?_of) (hstep.pending h.pending ht)
    (hstep.locksHeld h.locks ht) (hstep.shaped hshaped)
    (fun item hsamples hlocks => written_of_orderly horderly ht hlocks hsamples)
    fun key accepted reached hstage => ?_
  obtain ⟨stage₀, hstage₀, hnext⟩ := hstep.stage hshaped hstage
  obtain ⟨hle, hexcludes⟩ := h.drains thread task key accepted stage₀ ht hstage₀
  refine ⟨hle, fun hsamples item hmem hkey hnumber => ?_⟩
  subst hkey
  exact hnext.excludes h ht hmoves horderly hsamples (hexcludes hsamples item hmem rfl hnumber)

/-- A free thread is called. -/
theorem ItemInv.call (h : ItemInv s log) (hfree : s.isFree thread = true) {s₀ : Persistence}
    (htasks : s₀.tasks = s.tasks) (hnextItem : s₀.nextItem = s.nextItem)
    (hqueue : s₀.queue = s.queue) (hbuffers : s₀.buffers = s.buffers)
    (hfiles : s₀.files = s.files) (hwriteLocks : s₀.writeLocks = s.writeLocks)
    (hprepared : ∀ k, s₀.states.get? k = none → s.states.get? k = none)
    (hcounter : ∀ k, s₀.counter k (·.queuePending) = s.counter k (·.queuePending))
    (hgot : ∀ item, next ≠ .got item) (hnext : next.taken = [])
    (hlocks : ∀ item, ¬next.Locks item) (hunmarked : ∀ k, next.unmarked k = 0)
    (hlockKey : next.lockKey = none) (hshaped : next.Shaped)
    (hown : ∀ key accepted reached, next.stage = some (key, accepted, reached) →
      accepted ≤ s.nextItem ∧ reached = .asked) :
    ItemInv (s₀.goto thread next) log := by
  have htask (task : PersistenceTask) (ht : s.tasks[thread]? = some task)
      (hgot' : ∀ item, task ≠ .got item) (hbatch : task.unwritten = [])
      (hzero : ∀ k, task.unmarked k = 0) (hnone : ∀ item, ¬task.Locks item) :
      ItemInv (s₀.goto thread next) log := by
    have htasks' : (s₀.goto thread next).tasks = s.tasks.set thread next :=
      congrArg (List.set · thread next) htasks
    have hmoves : Moves s thread task next (s₀.goto thread next) false [] :=
      .of_empty htasks hnextItem hqueue hbuffers hfiles hgot hgot' hnext hlocks hbatch
    have hinv := h.moves ht hmoves hprepared
      (h.pending.congr ht htasks' hqueue hcounter fun k => by rw [hunmarked, hzero])
      (h.locks.congr htasks' ht hwriteLocks hlockKey) hshaped
      (fun item _ hlocks => absurd hlocks (hnone item)) fun key accepted reached hstage => by
        obtain ⟨hle, rfl⟩ := hown key accepted reached hstage
        exact ⟨hle, fun _ _ _ _ _ => trivial⟩
    rwa [List.append_nil] at hinv
  rcases isFree_iff.1 hfree with ht | ⟨success, ht⟩ | ⟨key, accepted, ht⟩
  · exact htask _ ht nofun rfl (fun _ => rfl) fun _ h => h
  · exact htask _ ht nofun rfl (fun _ => rfl) fun _ h => h
  · exact htask _ ht nofun rfl (fun _ => rfl) fun _ h => h

/-- The invariant is not about the states, but for what is pending. -/
theorem ItemInv.congr (h : ItemInv s log) (htasks : s'.tasks = s.tasks)
    (hnextItem : s'.nextItem = s.nextItem) (hqueue : s'.queue = s.queue)
    (hbuffers : s'.buffers = s.buffers) (hfiles : s'.files = s.files)
    (hwriteLocks : s'.writeLocks = s.writeLocks)
    (hprepared : ∀ k, s'.states.get? k = none → s.states.get? k = none)
    (hcounter : ∀ k, s'.counter k (·.queuePending) = s.counter k (·.queuePending)) :
    ItemInv s' log := by
  have hpending : s'.Pending := by
    intro k
    unfold queued unmarkedCount
    rw [hcounter, hqueue, htasks]
    exact h.pending k
  cases s
  cases s'
  dsimp only at *
  subst htasks hnextItem hqueue hbuffers hfiles hwriteLocks
  exact ⟨fun item hmem hnone => h.prepared item hmem (hprepared _ hnone), h.located, hpending,
    h.locks, h.shaped, h.drains⟩

theorem ItemInv.enqueue {message : PersistenceMessage} (h : ItemInv s log)
    (hsome : s.states.get? key ≠ none) :
    ItemInv { s.markEnqueued key with
      queue := s.queue ++ [{ number := s.nextItem, key, message }]
      unfinished := s.unfinished + 1
      nextItem := s.nextItem + 1 }
      { log with accepted := log.accepted ++ [{ number := s.nextItem, key, message }] } := by
  have hnew {item : PersistenceItem}
      (hmem : item ∈ log.accepted ++ [{ number := s.nextItem, key, message }]) :
      item ∈ log.accepted ∨ item = { number := s.nextItem, key, message } :=
    (List.mem_append.1 hmem).imp_right List.mem_singleton.1
  constructor
  case prepared =>
    intro item hmem hnone
    have hold : s.states.get? item.key = none := get?_of_modifyState hnone
    rcases hnew hmem with hacc | rfl
    · exact h.prepared item hacc hold
    · exact hsome hold
  case located =>
    intro item hmem hsamples
    rcases hnew hmem with hacc | rfl
    · rcases h.located item hacc hsamples with (hqueue | hgot) | hrest
      · exact .inl (.inl (List.mem_append_left _ hqueue))
      · exact .inl (.inr hgot)
      · exact .inr hrest
    · exact .inl (.inl (List.mem_append_right _ (List.mem_singleton_self _)))
  case pending =>
    intro k
    have hk := h.pending k
    have hcounter : (s.markEnqueued key).counter k (·.queuePending) =
        s.counter k (·.queuePending) + if key = k then 1 else 0 := by
      show ((s.states.modify key _).get? k).elim 0 _ = (s.states.get? k).elim 0 _ + _
      rw [Dict.get?_modify]
      by_cases heq : key = k
      · subst heq
        rw [if_pos rfl, if_pos rfl]
        cases hstate : s.states.get? key with
        | none => exact absurd hstate hsome
        | some state => rfl
      · rw [if_neg (Ne.symm heq), if_neg heq]
        rfl
    have hqueued : List.countP (fun item : PersistenceItem => item.key = k)
        (s.queue ++ [{ number := s.nextItem, key, message }]) =
        s.queued k + if key = k then 1 else 0 := by
      rw [List.countP_append, List.countP_singleton]
      simp only [decide_eq_true_eq]
      rfl
    show (s.markEnqueued key).counter k _ = (s.queue ++ [_]).countP _ + s.unmarkedCount k
    rw [hcounter, hqueued]
    omega
  case locks => exact h.locks
  case shaped => exact h.shaped
  case drains =>
    intro t task k accepted reached ht hstage
    obtain ⟨hle, hexcludes⟩ := h.drains t task k accepted reached ht hstage
    refine ⟨Nat.le_succ_of_le hle, fun hsamples item hmem hkey hnumber => ?_⟩
    rcases hnew hmem with hacc | rfl
    · have hold := hexcludes hsamples item hacc hkey hnumber
      -- the new item has a number that no drain asks for
      have hwaits (hwaits : ¬Waits s item) : ¬Waits { s.markEnqueued key with
          queue := s.queue ++ [{ number := s.nextItem, key, message }]
          unfinished := s.unfinished + 1
          nextItem := s.nextItem + 1 } item := by
        rintro (hqueue | hgot)
        · rcases List.mem_append.1 hqueue with hqueue | hsingle
          · exact hwaits (.inl hqueue)
          · rw [List.mem_singleton.1 hsingle] at hnumber
            exact absurd hnumber (Nat.not_lt_of_le hle)
        · exact hwaits (.inr hgot)
      cases reached with
      | asked => trivial
      | idle => exact hwaits hold
      | cleared => exact ⟨hwaits hold.1, hold.2⟩
      | alone => exact ⟨hwaits hold.1, hold.2⟩
    · exact absurd hnumber (Nat.not_lt_of_le hle)

theorem ItemInv.dropMore (h : ItemInv s log) (items : List PersistenceItem) :
    ItemInv s { log with dropped := log.dropped ++ items } where
  prepared := h.prepared
  located item hmem hsamples := by
    rcases h.located item hmem hsamples with hwaits | hbuffer | hbatch | hfile | hdropped
    · exact .inl hwaits
    · exact .inr (.inl hbuffer)
    · exact .inr (.inr (.inl hbatch))
    · exact .inr (.inr (.inr (.inl hfile)))
    · exact .inr (.inr (.inr (.inr (List.mem_append_left _ hdropped))))
  pending := h.pending
  locks := h.locks
  shaped := h.shaped
  drains := h.drains

theorem ItemInv.note {a : PersistenceAction} (h : ItemInv s' log) (ha : s.accepts a = none) :
    ItemInv s' (s.noteItems log a) := by
  cases a with
  | advance thread env => exact h.dropMore _
  | _ =>
    dsimp only [noteItems]
    rw [ha, Option.toList_none, List.append_nil]
    exact h

theorem ItemInv.step (h : ItemInv s log) {a : PersistenceAction} (horderly : s.orderly a = true) :
    ItemInv (s.step a) (s.noteItems log a) := by
  generalize hs' : s.step a = s'
  have hstep : ActionStep s a s' := hs' ▸ step_cases s a
  cases hstep with
  | stays haccepts => exact h.note haccepts
  | @prepares key saveFormat requestedIntervalNs interval =>
    have hprepares : ActionStep s (.prepare key saveFormat requestedIntervalNs)
        { s with states := s.states.set key (s.preparedState key saveFormat interval) } := .prepares
    refine ItemInv.note (h.congr rfl rfl rfl rfl rfl rfl (fun k => hprepares.get?_of) fun k => ?_)
      rfl
    show ((s.states.set key _).get? k).elim 0 _ = (s.states.get? k).elim 0 _
    rw [Dict.get?_set]
    split
    · next hk =>
      subst hk
      unfold preparedState
      cases s.states.get? k <;> rfl
    · rfl
  | @enables _ key value ha =>
    refine ItemInv.note (h.congr rfl rfl rfl rfl rfl rfl (fun k => get?_of_modifyState)
      (counter_modifyState fun _ => rfl)) ?_
    rcases ha with rfl | rfl <;> rfl
  | enqueues hsome haccepts =>
    unfold noteItems
    dsimp only
    rw [haccepts]
    exact h.enqueue hsome
  | refuses _ haccepts =>
    exact ItemInv.note (h.congr rfl rfl rfl rfl rfl rfl (fun k => get?_of_modifyState)
      (counter_modifyState fun _ => rfl)) haccepts
  | starts => exact ItemInv.note (h.congr rfl rfl rfl rfl rfl rfl (fun _ h => h) fun _ => rfl) rfl
  | calls hfree hnext =>
    rcases hnext with ⟨rfl, rfl⟩ | ⟨rfl, rfl | rfl⟩ | ⟨key, rfl, rfl⟩ <;>
      refine ItemInv.note (h.call hfree rfl rfl rfl rfl rfl rfl (fun _ h => h) (fun _ => rfl)
        (fun _ hgot => ?_) rfl (fun _ h => h) (fun _ => rfl) rfl trivial
        fun _ _ _ hstage => ?_) rfl
    all_goals contradiction
  | @drains thread key hfree =>
    refine ItemInv.note (h.call hfree rfl rfl rfl rfl rfl rfl (fun _ => get?_of_modifyState)
      (counter_modifyState fun _ => rfl) (fun _ hgot => ?_) rfl (fun _ h => h) (fun _ => rfl) rfl
      trivial ?_) rfl
    · cases hgot
    · rintro _ _ _ ⟨⟩
      exact ⟨Nat.le_refl _, rfl⟩
  | @advances thread env task next s' ht hstep =>
    have hnote : s.noteItems log (.advance thread env) =
        { log with dropped := log.dropped ++ task.drops } := by
      show { log with dropped := log.dropped ++ (s.tasks[thread]?).elim [] _ } = _
      rw [ht]
      rfl
    rw [hnote]
    exact h.advance ht hstep horderly

/-! ## Streams that are drained -/

/-- Where a thread has drained a stream, a sample that was accepted before is in its file or counted
as dropped, and is not in the queue, in the buffer, or in a batch that is still to be written. -/
def DrainedToDisk (x : Persistence × ItemLog) : Prop :=
  ∀ (thread : Nat) clientId channel accepted,
    x.1.tasks[thread]? = some (.drained (.stream clientId channel) accepted) →
    ∀ item ∈ x.2.accepted, item.key = .stream clientId channel → item.number < accepted →
      (item ∈ x.1.files item.key ∨ item ∈ x.2.dropped) ∧ item ∉ x.1.queue ∧
        item ∉ x.1.buffered item.key ∧
        ∀ task ∈ x.1.tasks, task ≠ .got item ∧ ¬Among item task.unwritten

theorem taken_or_locks (h : Among item task.unwritten) :
    Among item task.taken ∨ task.Locks item := by
  cases task with
  | locked batch format rest success after =>
    rcases h.cases with hbatch | hrest
    · exact .inr hbatch
    · exact .inl hrest
  | _ => exact .inl h

theorem ItemInv.drainedToDisk (h : ItemInv s log) : DrainedToDisk (s, log) := by
  intro thread clientId channel accepted ht item hmem hkey hnumber
  have hsamples : item.key.samples = true := by rw [hkey]; rfl
  obtain ⟨_, hexcludes⟩ := h.drains thread _ _ _ _ ht rfl
  obtain ⟨hwaits, htaken, hlocked⟩ := hexcludes rfl item hmem hkey hnumber
  have hbatch {t : Nat} {task : PersistenceTask} (ht' : s.tasks[t]? = some task) :
      ¬Among item task.unwritten := by
    intro hamong
    by_cases heq : t = thread
    · subst heq
      rw [ht] at ht'
      cases ht'
      exact not_among_nil item hamong
    · rcases taken_or_locks hamong with htake | hlocks
      · exact htaken (.inr ⟨t, task, heq, ht', htake⟩)
      · exact hlocked ⟨t, task, heq, ht', hlocks⟩
  refine ⟨?_, fun hqueue => hwaits (.inl hqueue), fun hbuffer => htaken (.inl hbuffer),
    fun task htask => ?_⟩
  · rcases h.located item hmem hsamples with hold | hbuffer | ⟨t, task, ht', hamong⟩ | hdone
    · exact absurd hold hwaits
    · exact absurd (.inl hbuffer) htaken
    · exact absurd hamong (hbatch ht')
    · exact hdone
  · obtain ⟨t, ht'⟩ := List.getElem?_of_mem htask
    refine ⟨?_, hbatch ht'⟩
    rintro rfl
    exact hwaits (.inr ⟨t, ht'⟩)

theorem itemInv_opened (threads : Nat) : ItemInv (opened threads) {} := by
  have hidle {t : Nat} {task : PersistenceTask} (ht : (opened threads).tasks[t]? = some task) :
      task = .idle := List.eq_of_mem_replicate (List.mem_of_getElem? ht)
  constructor
  case prepared | located => nofun
  case pending =>
    intro key
    show 0 = 0 + ((List.replicate threads PersistenceTask.idle).map _).sum
    simp [PersistenceTask.unmarked]
  case locks =>
    intro t task key ht hkey
    rw [hidle ht] at hkey
    cases hkey
  case shaped =>
    intro t task ht
    rw [hidle ht]
    trivial
  case drains =>
    intro t task key accepted reached ht hstage
    rw [hidle ht] at hstage
    cases hstage

/-- A drained stream is on disk if no flush overtakes a batch of it. -/
theorem drained_to_disk (threads : Nat) {as : List PersistenceAction}
    (h : Meets watchItems (fun x a => x.1.orderly a = true) (opened threads, {}) as)
    {pre : List PersistenceAction} (hpre : pre <+: as) :
    DrainedToDisk (run watchItems (opened threads, {}) pre) := by
  have hstep (x : Persistence × ItemLog) (a : PersistenceAction) (hx : ItemInv x.1 x.2)
      (ha : x.1.orderly a = true) : ItemInv (watchItems x a).1 (watchItems x a).2 := hx.step ha
  exact (run_invariant_along (I := fun x => ItemInv x.1 x.2) hstep (itemInv_opened threads) h
    hpre).drainedToDisk

/-- A sample comes, and a worker buffers it; the stream is drained. -/
def drainOps : List PersistenceAction :=
  [.prepare (.stream [1] .main) .csv 1, .activate (.stream [1] .main), .start, .work 0,
    .enqueue (.stream [1] .main) .complete, .advance 0 {}, .advance 0 {}, .advance 0 {},
    .drain 1 (.stream [1] .main), .advance 1 {}, .advance 1 {}, .advance 1 {}, .advance 1 {},
    .advance 1 {}, .advance 1 {}]

theorem drained_to_disk_flush :
    Meets watchItems (fun x a => x.1.orderly a = true) (opened 2, {}) drainOps ∧
      DrainedToDisk (run watchItems (opened 2, {}) drainOps) := by
  have horderly : Meets watchItems (fun x a => x.1.orderly a = true) (opened 2, {}) drainOps := by
    decide +kernel
  exact ⟨horderly, drained_to_disk 2 horderly (List.prefix_refl _)⟩

/-- The same, but the periodic flush of the worker has taken the batch. -/
def overtakenOps : List PersistenceAction :=
  [.prepare (.stream [1] .main) .csv 1, .activate (.stream [1] .main), .start, .work 0,
    .enqueue (.stream [1] .main) .complete, .advance 0 {}, .advance 0 {}, .advance 0 {},
    .advance 0 { due := some fun _ => true }, .drain 1 (.stream [1] .main), .advance 1 {},
    .advance 1 {}, .advance 1 {}]

/-- The stream is idle and flushed, and its sample is in the hands of the worker. -/
theorem flush_overtaken : ¬DrainedToDisk (run watchItems (opened 2, {}) overtakenOps) := by
  intro h
  have hdrained : (run watchItems (opened 2, {}) overtakenOps).1.tasks[1]? =
      some (.drained (.stream [1] .main) 1) := by decide +kernel
  exact absurd (h 1 [1] .main 1 hdrained ⟨0, .stream [1] .main, .complete⟩ (by decide +kernel) rfl
    (by decide)).1 (by decide +kernel)

end Persistence

end MultiDAQ.Server
