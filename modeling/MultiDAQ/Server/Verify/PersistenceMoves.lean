import MultiDAQ.Server.Verify.PersistenceAccounting

/-!
# What the persistence threads move

A step takes items from the queue, the buffers and the hands of its thread to where they are next:
what is there afterwards was there or came from one of these places, and what leaves them is in the
file or counted as dropped (`AdvanceStep.moves`).
-/

namespace MultiDAQ.Server

open MultiDAQ.Lib

/-! ## Batches in hand -/

/-- The item is in one of these batches. -/
def Among (item : PersistenceItem) (batches : List Batch) : Prop :=
  ∃ items, (item.key, items) ∈ batches ∧ item ∈ items

@[simp] theorem not_among_nil (item : PersistenceItem) : ¬Among item [] := by
  rintro ⟨items, hmem, _⟩
  cases hmem

theorem Among.tail {item : PersistenceItem} {batch : Batch} {rest : List Batch}
    (h : Among item rest) : Among item (batch :: rest) := by
  obtain ⟨items, hmem, hitem⟩ := h
  exact ⟨items, List.mem_cons_of_mem _ hmem, hitem⟩

theorem Among.cases {item : PersistenceItem} {batch : Batch} {rest : List Batch}
    (h : Among item (batch :: rest)) :
    (batch.1 = item.key ∧ item ∈ batch.2) ∨ Among item rest := by
  obtain ⟨items, hmem, hitem⟩ := h
  rcases List.mem_cons.1 hmem with rfl | hrest
  · exact .inl ⟨rfl, hitem⟩
  · exact .inr ⟨items, hrest, hitem⟩

namespace PersistenceTask

/-- The batches that are not on the disk. -/
def unwritten : PersistenceTask → List Batch
  | .writing batches _ _ => batches
  | .locked batch _ rest _ _ => batch :: rest
  | .written batch writeOk rest _ _ => if writeOk then rest else batch :: rest
  | _ => []

/-- Those of them that are not being written under the write lock. -/
def taken : PersistenceTask → List Batch
  | .locked _ _ rest _ _ => rest
  | task => task.unwritten

/-- The item is in the batch that is being written. -/
def Locks (item : PersistenceItem) : PersistenceTask → Prop
  | .locked batch _ _ _ _ => batch.1 = item.key ∧ item ∈ batch.2
  | _ => False

/-- The write comes to nothing. -/
def failsWrite (env : PersistenceEnv) : PersistenceTask → Bool
  | .locked _ format _ _ _ => decide ¬(format = .csv ∧ env.writeOk = true)
  | _ => false

/-- The items that the step of the thread counts as dropped. -/
def drops : PersistenceTask → List PersistenceItem
  | .got item =>
    match item.normalize with
    | .ok (some _) => []
    | .ok none | .error _ => [item]
  | .written batch writeOk _ _ _ => if writeOk then [] else batch.2
  | _ => []

/-- The item that the worker is still to mark as processed, if it is of this key. -/
def unmarked (key : PersistenceKey) : PersistenceTask → Nat
  | .got item | .marking item => if item.key = key then 1 else 0
  | .writing _ _ after | .locked _ _ _ _ after | .written _ _ _ _ after | .flushing _ after
  | .passing _ after =>
    match after with
    | .mark item => if item.key = key then 1 else 0
    | _ => 0
  | _ => 0

/-- The key whose write lock the thread holds. -/
def lockKey : PersistenceTask → Option PersistenceKey
  | .locked batch _ _ _ _ => some batch.1
  | _ => none

/-- The thread drains a stream and is to take its write lock. -/
def waitsFor (key : PersistenceKey) : PersistenceTask → Bool
  | .passing _ (.drain key' _) | .writing (_ :: _) _ (.drain key' _) => decide (key' = key)
  | _ => false

end PersistenceTask

namespace Persistence

variable {s s' : Persistence} {thread : Nat} {env : PersistenceEnv} {task next : PersistenceTask}

/-! ## What a thread moves -/

/-- A thread turns from one task to another, and takes items along: those that it takes come from
where they were, and none is left behind. -/
structure Moves (s : Persistence) (thread : Nat) (task next : PersistenceTask)
    (s' : Persistence) (fails : Bool) (dropped : List PersistenceItem) : Prop where
  tasks : s'.tasks = s.tasks.set thread next
  nextItem : s'.nextItem = s.nextItem
  queue : ∀ item ∈ s'.queue, item ∈ s.queue
  got : ∀ item, next = .got item → item ∈ s.queue ∨ task = .got item
  buffered : ∀ item, item ∈ s'.buffered item.key → item ∈ s.buffered item.key ∨ task = .got item
  taken : ∀ item, Among item next.taken → Among item task.taken ∨ item ∈ s.buffered item.key ∨
    task = .got item ∨ (task.Locks item ∧ fails = true)
  locked : ∀ item, next.Locks item → task.Locks item ∨ Among item task.taken
  leavesQueue : ∀ item ∈ s.queue, item ∈ s'.queue ∨ next = .got item
  leavesGot : ∀ item, task = .got item → next = .got item ∨ item ∈ s'.buffered item.key ∨
    Among item next.unwritten ∨ item ∈ dropped
  leavesBuffer : ∀ item ∈ s.buffered item.key,
    item ∈ s'.buffered item.key ∨ Among item next.unwritten
  leavesBatch : ∀ item, item.key.samples = true → s.states.get? item.key ≠ none →
    Among item task.unwritten →
      Among item next.unwritten ∨ item ∈ s'.files item.key ∨ item ∈ dropped
  files : ∀ item, item ∈ s.files item.key → item ∈ s'.files item.key

section Moves

variable {fails : Bool} {dropped : List PersistenceItem}

/-- A thread that leaves the queue, the buffers and the files alone. -/
theorem Moves.goto {s₀ : Persistence} (htasks : s₀.tasks = s.tasks)
    (hnextItem : s₀.nextItem = s.nextItem) (hqueue : s₀.queue = s.queue)
    (hbuffers : s₀.buffers = s.buffers) (hfiles : s₀.files = s.files)
    (hgot : ∀ item, next ≠ .got item) (hleaves : ∀ item, task = .got item → item ∈ dropped)
    (htaken : ∀ item, Among item next.taken → Among item task.taken ∨
      (task.Locks item ∧ fails = true))
    (hlocked : ∀ item, next.Locks item → Among item task.taken)
    (hbatch : ∀ item, item.key.samples = true → s.states.get? item.key ≠ none →
      Among item task.unwritten →
        Among item next.unwritten ∨ item ∈ s.files item.key ∨ item ∈ dropped) :
    Moves s thread task next (s₀.goto thread next) fails dropped where
  tasks := congrArg (List.set · thread next) htasks
  nextItem := hnextItem
  queue item h := hqueue ▸ h
  got item h := absurd h (hgot item)
  buffered item h := by
    have hsame : (s₀.goto thread next).buffered item.key = s.buffered item.key := by
      show (s₀.buffers.get? item.key).getD [] = _
      rw [hbuffers]
      rfl
    exact .inl (hsame ▸ h)
  taken item h := by
    rcases htaken item h with hold | hfails
    · exact .inl hold
    · exact .inr (.inr (.inr hfails))
  locked item h := .inr (hlocked item h)
  leavesQueue item h := .inl (hqueue.symm ▸ h)
  leavesGot item h := .inr (.inr (.inr (hleaves item h)))
  leavesBuffer item h := by
    refine .inl ?_
    show item ∈ (s₀.buffers.get? item.key).getD []
    rw [hbuffers]
    exact h
  leavesBatch item hsamples hsome h := by
    rcases hbatch item hsamples hsome h with hnext | hfile | hdropped
    · exact .inl hnext
    · exact .inr (.inl (hfiles.symm ▸ hfile))
    · exact .inr (.inr hdropped)
  files item h := hfiles.symm ▸ h

theorem Moves.refl (ht : s.tasks[thread]? = some task) :
    Moves s thread task task s fails dropped where
  tasks := by
    obtain ⟨hlt, hget⟩ := List.getElem?_eq_some_iff.1 ht
    rw [← hget, List.set_getElem_self hlt]
  nextItem := rfl
  queue _ h := h
  got _ h := .inr h
  buffered _ h := .inl h
  taken _ h := .inl h
  locked _ h := .inl h
  leavesQueue _ h := .inl h
  leavesGot _ h := .inl h
  leavesBuffer _ h := .inl h
  leavesBatch _ _ _ h := .inl h
  files _ h := h

/-- A thread with nothing in its hands turns to something else. -/
theorem Moves.of_empty {s₀ : Persistence} (htasks : s₀.tasks = s.tasks)
    (hnextItem : s₀.nextItem = s.nextItem) (hqueue : s₀.queue = s.queue)
    (hbuffers : s₀.buffers = s.buffers) (hfiles : s₀.files = s.files)
    (hgot : ∀ item, next ≠ .got item) (hgot' : ∀ item, task ≠ .got item)
    (hnext : next.taken = []) (hlocks : ∀ item, ¬next.Locks item) (hbatch : task.unwritten = []) :
    Moves s thread task next (s₀.goto thread next) fails dropped := by
  refine .goto htasks hnextItem hqueue hbuffers hfiles hgot (fun item h => absurd h (hgot' item))
    (fun item h => ?_) (fun item h => absurd h (hlocks item)) fun item _ _ h => ?_
  · rw [hnext] at h
    exact absurd h (not_among_nil item)
  · rw [hbatch] at h
    exact absurd h (not_among_nil item)

theorem forgottenBatch_samples {batch : Batch} (h : s.forgottenBatch env task = some batch) :
    batch.1.samples = false := by
  unfold forgottenBatch at h
  split at h
  · split at h
    · cases h
      rfl
    · cases h
  · cases h

theorem Goes.moves {stopEvent executor : Bool} (h : Goes s env task next) :
    Moves s thread task next ({ s with stopEvent, executor }.goto thread next) fails dropped := by
  have hfinish {success : Bool} (after : AfterWrite) (htask : ∀ item, task ≠ .got item)
      (hbatch : task.unwritten = []) : Moves s thread task (after.next success)
        ({ s with stopEvent, executor }.goto thread (after.next success)) fails dropped := by
    cases after with
    | drain key accepted =>
      cases success with
      | true => exact .of_empty rfl rfl rfl rfl rfl nofun htask rfl (fun _ h => h) hbatch
      | false => exact .of_empty rfl rfl rfl rfl rfl nofun htask rfl (fun _ h => h) hbatch
    | _ => exact .of_empty rfl rfl rfl rfl rfl nofun htask rfl (fun _ h => h) hbatch
  cases h with
  | leaves | checks | polls | waitsInVain | wasIdle | findsNothing | stops =>
    exact .of_empty rfl rfl rfl rfl rfl nofun nofun rfl (fun _ h => h) rfl
  | finishes => exact hfinish _ nofun rfl
  | passes => exact hfinish _ nofun rfl
  | @skips key rest success after =>
    refine .goto rfl rfl rfl rfl rfl nofun nofun (fun _ h => .inl h.tail) nofun fun item _ _ h => ?_
    rcases h.cases with ⟨_, hitem⟩ | hrest
    · cases hitem
    · exact .inl hrest
  | @unknown batch rest success after hnone =>
    refine .goto rfl rfl rfl rfl rfl nofun nofun (fun _ h => .inl h.tail) nofun
      fun item _ hsome h => ?_
    rcases h.cases with ⟨hkey, _⟩ | hrest
    · rw [hkey] at hnone
      exact absurd hnone hsome
    · exact .inl hrest
  | refuses =>
    exact .goto rfl rfl rfl rfl rfl nofun nofun (fun _ h => .inl h) nofun fun _ _ _ h => .inl h
  | forgets hforgot =>
    refine .goto rfl rfl rfl rfl rfl nofun nofun (fun _ h => .inl h.tail) nofun
      fun item hsamples _ h => ?_
    rcases h.cases with ⟨hkey, _⟩ | hrest
    · have hevents := forgottenBatch_samples hforgot
      rw [hkey, hsamples] at hevents
      cases hevents
    · exact .inl hrest

theorem mem_buffered_set {key : PersistenceKey} {items : List PersistenceItem}
    {item : PersistenceItem} :
    item ∈ ({ s with buffers := s.buffers.set key items }.goto thread next).buffered item.key ↔
      if item.key = key then item ∈ items else item ∈ s.buffered item.key := by
  show item ∈ ((s.buffers.set key items).get? item.key).getD [] ↔ _
  rw [Dict.get?_set]
  split
  · rfl
  · rfl

/-- A thread that changes one buffer. -/
theorem Moves.setBuffer {key : PersistenceKey} {items : List PersistenceItem}
    (hgot : ∀ item, next ≠ .got item)
    (hin : ∀ item ∈ items, item.key = key → item ∈ s.buffered key ∨ task = .got item)
    (hout : ∀ item ∈ s.buffered key, item.key = key → item ∈ items ∨ Among item next.unwritten)
    (htaken : ∀ item, Among item next.taken → item ∈ s.buffered item.key ∨ task = .got item)
    (hlocked : ∀ item, ¬next.Locks item)
    (hleaves : ∀ item, task = .got item → (item.key = key ∧ item ∈ items) ∨
      Among item next.unwritten)
    (hbatch : task.unwritten = []) :
    Moves s thread task next ({ s with buffers := s.buffers.set key items }.goto thread next)
      fails dropped where
  tasks := rfl
  nextItem := rfl
  queue _ h := h
  got item h := absurd h (hgot item)
  buffered item h := by
    have hmem := mem_buffered_set.1 h
    split at hmem
    · next hkey => exact hkey ▸ hin item hmem hkey
    · exact .inl hmem
  taken item h := .inr ((htaken item h).imp_right .inl)
  locked item h := absurd h (hlocked item)
  leavesQueue _ h := .inl h
  leavesGot item h := by
    rcases hleaves item h with ⟨hkey, hmem⟩ | hnext
    · exact .inr (.inl (mem_buffered_set.2 (by rwa [if_pos hkey])))
    · exact .inr (.inr (.inl hnext))
  leavesBuffer item h := by
    by_cases hkey : item.key = key
    · rcases hout item (hkey ▸ h) hkey with hmem | hnext
      · exact .inl (mem_buffered_set.2 (by rwa [if_pos hkey]))
      · exact .inr hnext
    · exact .inl (mem_buffered_set.2 (by rwa [if_neg hkey]))
  leavesBatch item _ _ h := by
    rw [hbatch] at h
    exact absurd h (not_among_nil item)
  files _ h := h

theorem mem_batchesWhere {due : PersistenceKey → Bool} {batch : Batch} :
    batch ∈ s.batchesWhere due ↔
      s.buffers.get? batch.1 = some batch.2 ∧ due batch.1 = true ∧ batch.2 ≠ [] := by
  have hentry : batch ∈ s.buffers.entries ↔ s.buffers.get? batch.1 = some batch.2 :=
    Dict.mem_entries
  unfold batchesWhere
  rw [← hentry]
  rcases batch with ⟨key, items⟩
  cases key <;> simp

theorem mem_buffered_iff {item : PersistenceItem} {key : PersistenceKey} :
    item ∈ s.buffered key ↔ ∃ items, s.buffers.get? key = some items ∧ item ∈ items := by
  unfold Persistence.buffered
  cases s.buffers.get? key with
  | none => simp
  | some items => simp

/-- What a flush takes is what the buffers lose. -/
theorem Moves.takeBatches {due : PersistenceKey → Bool} {after : AfterWrite}
    (hgot : ∀ item, task ≠ .got item) (hbatch : task.unwritten = []) :
    Moves s thread task (.writing (s.batchesWhere due) true after)
      (s.takeBatches thread due after) fails dropped := by
  have hbuffers (item : PersistenceItem) :
      item ∈ (s.takeBatches thread due after).buffered item.key ↔
        item ∈ s.buffered item.key ∧ due item.key = false := by
    show item ∈ ((s.buffers.mapVals fun key items =>
      if due key then [] else items).get? item.key).getD [] ↔ _
    rw [Dict.get?_mapVals]
    unfold Persistence.buffered
    cases s.buffers.get? item.key with
    | none => simp
    | some items => cases due item.key <;> simp
  constructor
  case tasks | nextItem => rfl
  case queue => exact fun _ h => h
  case got => nofun
  case buffered => exact fun item h => .inl ((hbuffers item).1 h).1
  case taken =>
    rintro item ⟨items, hmem, hitem⟩
    exact .inr (.inl (mem_buffered_iff.2 ⟨items, (mem_batchesWhere.1 hmem).1, hitem⟩))
  case locked => nofun
  case leavesQueue => exact fun _ h => .inl h
  case leavesGot => exact fun item h => absurd h (hgot item)
  case leavesBuffer =>
    intro item h
    cases hdue : due item.key with
    | false => exact .inl ((hbuffers item).2 ⟨h, hdue⟩)
    | true =>
      obtain ⟨items, hget, hitem⟩ := mem_buffered_iff.1 h
      exact .inr ⟨items, mem_batchesWhere.2 ⟨hget, hdue, List.ne_nil_of_mem hitem⟩, hitem⟩
  case leavesBatch =>
    intro item _ _ h
    rw [hbatch] at h
    exact absurd h (not_among_nil item)
  case files => exact fun _ h => h

/-- A batch is in the file. -/
theorem Moves.writes {batch : Batch} {format : SaveFormat} {rest : List Batch} {success : Bool}
    {after : AfterWrite} :
    Moves s thread (.locked batch format rest success after)
      (.written batch true rest success after)
      ({ s.setLock batch.1 none with
          files := Function.update s.files batch.1 (s.files batch.1 ++ batch.2) }.goto thread
        (.written batch true rest success after)) fails dropped where
  tasks := rfl
  nextItem := rfl
  queue _ h := h
  got := nofun
  buffered _ h := .inl h
  taken _ h := .inl h
  locked := nofun
  leavesQueue _ h := .inl h
  leavesGot := nofun
  leavesBuffer _ h := .inl h
  leavesBatch item _ _ h := by
    rcases h.cases with ⟨hkey, hitem⟩ | hrest
    · refine .inr (.inl ?_)
      show item ∈ Function.update s.files batch.1 (s.files batch.1 ++ batch.2) item.key
      rw [← hkey, Function.update_self]
      exact List.mem_append_right _ hitem
    · exact .inl hrest
  files item h := by
    show item ∈ Function.update s.files batch.1 (s.files batch.1 ++ batch.2) item.key
    rw [Function.update_apply]
    split
    · next hkey => exact List.mem_append_left _ (hkey ▸ h)
    · exact h

/-- What the step of a thread moves. -/
theorem AdvanceStep.moves (h : AdvanceStep s thread env task next s')
    (ht : s.tasks[thread]? = some task) :
    Moves s thread task next s' (task.failsWrite env) task.drops := by
  cases h with
  | stays => exact .refl ht
  | goes hgoes => exact hgoes.moves
  | @gets item queue hqueue =>
    constructor
    case tasks | nextItem => rfl
    case queue => exact fun i hi => hqueue ▸ List.mem_cons_of_mem _ hi
    case got =>
      rintro _ ⟨⟩
      exact .inl (hqueue ▸ List.mem_cons_self)
    case buffered => exact fun _ hi => .inl hi
    case taken => exact fun _ hi => .inl hi
    case locked => exact fun _ hi => .inl hi
    case leavesQueue =>
      intro i hi
      rw [hqueue] at hi
      rcases List.mem_cons.1 hi with rfl | hrest
      · exact .inr rfl
      · exact .inl hrest
    case leavesGot => nofun
    case leavesBuffer => exact fun _ hi => .inl hi
    case leavesBatch => exact fun _ _ _ hi => .inl hi
    case files => exact fun _ hi => hi
  | @drops item hdrops =>
    refine .goto rfl rfl rfl rfl rfl nofun ?_ (fun _ h => .inl h) nofun fun _ _ _ h => .inl h
    rintro _ ⟨⟩
    dsimp only [PersistenceTask.drops]
    split
    · next rows hrows => exact absurd hrows (hdrops rows)
    · exact List.mem_singleton_self _
    · exact List.mem_singleton_self _
  | @buffers item rows _ =>
    refine .setBuffer nofun (fun i hi hkey => ?_) (fun i hi _ => .inl (List.mem_append_left _ hi))
      (fun i hi => absurd hi (not_among_nil i)) (fun _ h => h) ?_ rfl
    · rcases List.mem_append.1 hi with hold | hnew
      · exact .inl hold
      · exact .inr (by rw [List.mem_singleton.1 hnew])
    · rintro _ ⟨⟩
      exact .inl ⟨rfl, List.mem_append_right _ (List.mem_singleton_self _)⟩
  | @fills item rows _ =>
    have hall (i : PersistenceItem) (hkey : i.key = item.key)
        (hi : i ∈ s.buffered item.key ++ [item]) :
        Among i [(item.key, s.buffered item.key ++ [item])] :=
      ⟨_, by rw [hkey]; exact List.mem_singleton_self _, hi⟩
    refine .setBuffer nofun nofun (fun i hi hkey => .inr (hall i hkey (List.mem_append_left _ hi)))
      (fun i hi => ?_) (fun _ h => h) ?_ rfl
    · rcases hi.cases with ⟨hkey, hi⟩ | hi
      · rcases List.mem_append.1 hi with hold | hnew
        · exact .inl (hkey ▸ hold)
        · exact .inr (by rw [List.mem_singleton.1 hnew])
      · exact absurd hi (not_among_nil i)
    · rintro _ ⟨⟩
      exact .inr (hall _ rfl (List.mem_append_right _ (List.mem_singleton_self _)))
  | @marks item => exact .of_empty rfl rfl rfl rfl rfl nofun nofun rfl (fun _ h => h) rfl
  | takes hfrom =>
    rcases hfrom with ⟨rfl, _⟩ | ⟨rfl, _⟩
    · exact .takeBatches nofun rfl
    · exact .takeBatches nofun rfl
  | @locks batch format rest success after _ _ _ =>
    refine .goto rfl rfl rfl rfl rfl nofun nofun (fun _ h => .inl h.tail) (fun item h => ?_)
      fun _ _ _ h => .inl h
    exact ⟨batch.2, by rw [← h.1]; exact List.mem_cons_self, h.2⟩
  | writes => exact .writes
  | @fails batch format rest success after hfails =>
    refine .goto rfl rfl rfl rfl rfl nofun nofun (fun item h => ?_) nofun fun _ _ _ h => .inl h
    rcases h.cases with hbatch | hrest
    · exact .inr ⟨hbatch, decide_eq_true hfails⟩
    · exact .inl hrest
  | counts =>
    exact .goto rfl rfl rfl rfl rfl nofun nofun (fun _ h => .inl h) nofun fun _ _ _ h => .inl h
  | discards =>
    refine .goto rfl rfl rfl rfl rfl nofun nofun (fun _ h => .inl h.tail) nofun
      fun item _ _ h => ?_
    rcases h.cases with ⟨_, hitem⟩ | hrest
    · exact .inr (.inr hitem)
    · exact .inl hrest
  | @flushes key after _ =>
    refine .setBuffer nofun nofun (fun i hi hkey => .inr ⟨s.buffered key, ?_, hi⟩)
      (fun i hi => ?_) (fun _ h => h) nofun rfl
    · rw [hkey]
      exact List.mem_singleton_self _
    · rcases hi.cases with ⟨hkey, hi⟩ | hi
      · exact .inl (hkey ▸ hi)
      · exact absurd hi (not_among_nil i)

end Moves

end Persistence

end MultiDAQ.Server
