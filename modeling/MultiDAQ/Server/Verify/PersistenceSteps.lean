import MultiDAQ.Server.Persistence

/-!
# The steps of the persistence threads

What the step of a thread comes to, one case for each outcome (`advanceTask_step`), and what an
action does besides (`step_cases`).
-/

namespace MultiDAQ.Server

open MultiDAQ.Lib

/-- Samples, not events. -/
def PersistenceKey.samples : PersistenceKey → Bool
  | .stream _ _ => true
  | .events _ => false

/-- What a thread turns to when its batches are written. -/
def AfterWrite.next (success : Bool) : AfterWrite → PersistenceTask
  | .mark item => .marking item
  | .poll => .polling
  | .flush => .returned success
  | .drain key accepted => if success then .drained key accepted else .returned false
  | .stop => .shutting success

namespace Persistence

variable {s : Persistence} {key k : PersistenceKey} {thread : Nat} {env : PersistenceEnv}
  {task : PersistenceTask}

/-! ## The step of a thread -/

/-- The events of a batch whose path is `None`. -/
def forgottenBatch (s : Persistence) (env : PersistenceEnv) : PersistenceTask → Option Batch
  | .writing ((.events clientId, items) :: _) _ _ =>
    if items ≠ [] ∧ (s.states.get? (.events clientId)).any (·.saveFormat = .csv) ∧
      env.pathResolved = false then some (.events clientId, items)
    else none
  | _ => none

/-- The thread does nothing but turn to another task. -/
inductive Goes (s : Persistence) (env : PersistenceEnv) : PersistenceTask → PersistenceTask → Prop
  | leaves : Goes s env .polling .idle
  | checks : Goes s env .polling .checking
  | polls : Goes s env .checking .polling
  | skips {key : PersistenceKey} {rest : List Batch} {success : Bool} {after : AfterWrite} :
    Goes s env (.writing ((key, []) :: rest) success after) (.writing rest success after)
  | unknown {batch : Batch} {rest : List Batch} {success : Bool} {after : AfterWrite} :
    s.states.get? batch.1 = none →
    Goes s env (.writing (batch :: rest) success after) (.writing rest false after)
  | refuses {batch : Batch} {rest : List Batch} {success : Bool} {after : AfterWrite} :
    batch.1.samples = false →
    s.forgottenBatch env (.writing (batch :: rest) success after) = none →
    Goes s env (.writing (batch :: rest) success after) (.written batch false rest success after)
  | forgets {batch : Batch} {rest : List Batch} {success : Bool} {after : AfterWrite} :
    s.forgottenBatch env (.writing (batch :: rest) success after) = some batch →
    Goes s env (.writing (batch :: rest) success after) (.writing rest false after)
  | finishes {success : Bool} {after : AfterWrite} :
    Goes s env (.writing [] success after) (after.next success)
  | waitsInVain {key : PersistenceKey} {accepted : Nat} :
    Goes s env (.draining key accepted) (.returned false)
  | wasIdle {key : PersistenceKey} {accepted : Nat} {state : PersistenceState} :
    s.states.get? key = some state → state.queuePending = 0 →
    Goes s env (.draining key accepted) (.flushing key (.drain key accepted))
  | findsNothing {key : PersistenceKey} {after : AfterWrite} : s.buffered key = [] →
    Goes s env (.flushing key after) (.passing key after)
  | passes {key : PersistenceKey} {after : AfterWrite} : s.writeLocks key = none →
    Goes s env (.passing key after) (after.next true)
  | stops {success : Bool} : Goes s env (.shutting success) (.returned success)

/-- What the step of a thread comes to. -/
inductive AdvanceStep (s : Persistence) (thread : Nat) (env : PersistenceEnv) :
    PersistenceTask → PersistenceTask → Persistence → Prop
  | stays {task : PersistenceTask} : s.forgottenBatch env task = none →
    AdvanceStep s thread env task task s
  | goes {task next : PersistenceTask} {stopEvent executor : Bool} : Goes s env task next →
    AdvanceStep s thread env task next ({ s with stopEvent, executor }.goto thread next)
  | gets {item : PersistenceItem} {queue : List PersistenceItem} : s.queue = item :: queue →
    AdvanceStep s thread env .polling (.got item) ({ s with queue }.goto thread (.got item))
  | drops {item : PersistenceItem} : (∀ rows, item.normalize ≠ .ok (some rows)) →
    AdvanceStep s thread env (.got item) (.marking item)
      ((s.markDropped item.key 1).goto thread (.marking item))
  | buffers {item : PersistenceItem} {rows : List Nat} : item.normalize = .ok (some rows) →
    AdvanceStep s thread env (.got item) (.marking item)
      ({ s with buffers := s.buffers.set item.key (s.buffered item.key ++ [item]) }.goto thread
        (.marking item))
  | fills {item : PersistenceItem} {rows : List Nat} : item.normalize = .ok (some rows) →
    AdvanceStep s thread env (.got item)
      (.writing [(item.key, s.buffered item.key ++ [item])] true (.mark item))
      ({ s with buffers := s.buffers.set item.key [] }.goto thread
        (.writing [(item.key, s.buffered item.key ++ [item])] true (.mark item)))
  | marks {item : PersistenceItem} :
    AdvanceStep s thread env (.marking item) .checking
      ((s.markProcessed item.key).goto thread .checking)
  | takes {task : PersistenceTask} {due : PersistenceKey → Bool} {after : AfterWrite} :
    task = .checking ∧ after = .poll ∨ task = .joining ∧ after = .stop →
    AdvanceStep s thread env task (.writing (s.batchesWhere due) true after)
      (s.takeBatches thread due after)
  | locks {batch : Batch} {format : SaveFormat} {rest : List Batch} {success : Bool}
      {after : AfterWrite} : batch.2 ≠ [] → s.writeLocks batch.1 = none →
    s.forgottenBatch env (.writing (batch :: rest) success after) = none →
    AdvanceStep s thread env (.writing (batch :: rest) success after)
      (.locked batch format rest success after)
      ((s.setLock batch.1 (some thread)).goto thread (.locked batch format rest success after))
  | writes {batch : Batch} {rest : List Batch} {success : Bool} {after : AfterWrite} :
    env.writeOk = true →
    AdvanceStep s thread env (.locked batch .csv rest success after)
      (.written batch true rest success after)
      ({ s.setLock batch.1 none with
          files := Function.update s.files batch.1 (s.files batch.1 ++ batch.2) }.goto thread
        (.written batch true rest success after))
  | fails {batch : Batch} {format : SaveFormat} {rest : List Batch} {success : Bool}
      {after : AfterWrite} : ¬(format = .csv ∧ env.writeOk = true) →
    AdvanceStep s thread env (.locked batch format rest success after)
      (.written batch false rest success after)
      ((s.setLock batch.1 none).goto thread (.written batch false rest success after))
  | counts {batch : Batch} {rest : List Batch} {success : Bool} {after : AfterWrite} :
    AdvanceStep s thread env (.written batch true rest success after)
      (.writing rest success after)
      ((s.markWritten batch.1 batch.2).goto thread (.writing rest success after))
  | discards {batch : Batch} {rest : List Batch} {success : Bool} {after : AfterWrite} :
    AdvanceStep s thread env (.written batch false rest success after) (.writing rest false after)
      ((s.markDropped batch.1 batch.2.length).goto thread (.writing rest false after))
  | flushes {key : PersistenceKey} {after : AfterWrite} : s.buffered key ≠ [] →
    AdvanceStep s thread env (.flushing key after) (.writing [(key, s.buffered key)] true after)
      ({ s with buffers := s.buffers.set key [] }.goto thread
        (.writing [(key, s.buffered key)] true after))

theorem finish_step {success : Bool} {after : AfterWrite}
    (hgoes : Goes s env task (after.next success)) :
    ∃ next, AdvanceStep s thread env task next (s.finish thread success after) := by
  cases after with
  | mark | poll | flush | stop => exact ⟨_, .goes hgoes⟩
  | drain key accepted =>
    unfold finish
    cases success with
    | true => exact ⟨_, .goes hgoes⟩
    | false => exact ⟨_, .goes hgoes⟩

theorem lockBatch_step {batch : Batch} {rest : List Batch} {success : Bool} {after : AfterWrite}
    (hitems : batch.2 ≠ [])
    (hnone : s.forgottenBatch env (.writing (batch :: rest) success after) = none)
    (format : SaveFormat) :
    ∃ next, AdvanceStep s thread env (.writing (batch :: rest) success after) next
      (s.lockBatch thread batch format rest success after) := by
  unfold lockBatch
  split
  · exact ⟨_, .stays hnone⟩
  · next hfree => exact ⟨_, .locks hitems hfree hnone⟩

theorem writeBatch_step {batch : Batch} {rest : List Batch} {success : Bool} {after : AfterWrite} :
    ∃ next, AdvanceStep s thread env (.writing (batch :: rest) success after) next
      (s.writeBatch thread batch rest success after env.pathResolved) := by
  obtain ⟨key, items⟩ := batch
  unfold writeBatch
  split
  · next hempty =>
    obtain rfl : items = [] := List.isEmpty_iff.1 hempty
    exact ⟨_, .goes .skips⟩
  · next hempty =>
    have hitems : items ≠ [] := fun h => hempty (List.isEmpty_iff.2 h)
    cases hstate : s.states.get? key with
    | none => exact ⟨_, .goes (.unknown hstate)⟩
    | some state =>
      cases key with
      | stream clientId channel => exact lockBatch_step hitems rfl state.saveFormat
      | events clientId =>
        have hforgot : s.forgottenBatch env
            (.writing ((.events clientId, items) :: rest) success after) =
            if state.saveFormat = .csv ∧ env.pathResolved = false then
              some (.events clientId, items)
            else none := by
          dsimp only [forgottenBatch]
          rw [hstate]
          simp [hitems]
        dsimp only
        cases hformat : state.saveFormat with
        | parquet =>
          rw [hformat] at hforgot
          exact ⟨_, .goes (.refuses rfl hforgot)⟩
        | csv =>
          rw [hformat] at hforgot
          dsimp only
          split
          · next hpath =>
            rw [hpath] at hforgot
            exact lockBatch_step hitems hforgot .csv
          · next hpath =>
            rw [if_pos ⟨rfl, Bool.eq_false_iff.2 hpath⟩] at hforgot
            exact ⟨_, .goes (.forgets hforgot)⟩

theorem processItem_step {item : PersistenceItem} :
    ∃ next, AdvanceStep s thread env (.got item) next (s.processItem thread item) := by
  unfold processItem
  split
  · next rows hrows =>
    unfold bufferItem
    dsimp only
    split
    · exact ⟨_, .fills hrows⟩
    · exact ⟨_, .buffers hrows⟩
  · next hnone => exact ⟨_, .drops fun rows hrows => by rw [hnone] at hrows; cases hrows⟩
  · next herror => exact ⟨_, .drops fun rows hrows => by rw [herror] at hrows; cases hrows⟩

theorem endWrite_step {batch : Batch} {format : SaveFormat} {rest : List Batch} {success : Bool}
    {after : AfterWrite} :
    ∃ next, AdvanceStep s thread env (.locked batch format rest success after) next
      (s.endWrite thread batch format rest success after env.writeOk) := by
  unfold endWrite
  dsimp only
  split
  · next hok =>
    obtain ⟨rfl, hwrite⟩ := hok
    exact ⟨_, .writes hwrite⟩
  · next hfail => exact ⟨_, .fails hfail⟩

/-- Every step of a thread is one of these. -/
theorem advanceTask_step (s : Persistence) (thread : Nat) (env : PersistenceEnv)
    (task : PersistenceTask) :
    ∃ next, AdvanceStep s thread env task next (s.advanceTask thread env task) := by
  cases task with
  | idle | returned | drained => exact ⟨_, .stays rfl⟩
  | polling =>
    dsimp only [advanceTask]
    unfold poll
    split
    · exact ⟨_, .goes .leaves⟩
    · split
      · next hqueue => exact ⟨_, .gets hqueue⟩
      · split
        · exact ⟨_, .goes .checks⟩
        · exact ⟨_, .stays rfl⟩
  | got item => exact processItem_step
  | marking item => exact ⟨_, .marks⟩
  | checking =>
    dsimp only [advanceTask]
    split
    · exact ⟨_, .takes (.inl ⟨rfl, rfl⟩)⟩
    · exact ⟨_, .goes .polls⟩
  | writing batches success after =>
    cases batches with
    | nil => exact finish_step .finishes
    | cons batch rest => exact writeBatch_step
  | locked batch format rest success after => exact endWrite_step
  | written batch writeOk rest success after =>
    cases writeOk with
    | true => exact ⟨_, .counts⟩
    | false => exact ⟨_, .discards⟩
  | draining key accepted =>
    dsimp only [advanceTask]
    split
    · exact ⟨_, .goes .waitsInVain⟩
    · next hstate =>
      split
      · next hidle => exact ⟨_, .goes (.wasIdle hstate hidle)⟩
      · split
        · exact ⟨_, .goes .waitsInVain⟩
        · exact ⟨_, .stays rfl⟩
  | flushing key after =>
    dsimp only [advanceTask]
    split
    · next hempty => exact ⟨_, .goes (.findsNothing (List.isEmpty_iff.1 hempty))⟩
    · next hitems => exact ⟨_, .flushes fun h => hitems (List.isEmpty_iff.2 h)⟩
  | passing key after =>
    dsimp only [advanceTask]
    split
    · exact ⟨_, .stays rfl⟩
    · next hfree => exact finish_step (.passes hfree)
  | joining =>
    dsimp only [advanceTask]
    split
    · exact ⟨_, .takes (.inr ⟨rfl, rfl⟩)⟩
    · exact ⟨_, .stays rfl⟩
  | shutting success =>
    dsimp only [advanceTask]
    split
    · exact ⟨_, .goes .stops⟩
    · exact ⟨_, .stays rfl⟩

theorem AdvanceStep.tasks {next : PersistenceTask} {s' : Persistence}
    (h : AdvanceStep s thread env task next s') (ht : s.tasks[thread]? = some task) :
    s'.tasks = s.tasks.set thread next := by
  cases h with
  | stays =>
    obtain ⟨hlt, hget⟩ := List.getElem?_eq_some_iff.1 ht
    rw [← hget, List.set_getElem_self hlt]
  | goes | gets | drops | buffers | fills | marks | takes | locks | writes | fails | counts
  | discards | flushes => rfl

/-! ## The actions -/

/-- The item that the queue takes. -/
def accepts (s : Persistence) : PersistenceAction → Option PersistenceItem
  | .enqueue key message =>
    if s.running ∧ (s.states.get? key).any (·.enabled) ∧
      s.queue.length < persistenceQueueMaxsize then some { number := s.nextItem, key, message }
    else none
  | _ => none

/-- The row of an enabled stream that the queue has no room for. -/
def refuses (s : Persistence) : PersistenceAction → Option PersistenceKey
  | .enqueue key _ =>
    if s.running ∧ (s.states.get? key).any (·.enabled) ∧
      persistenceQueueMaxsize ≤ s.queue.length then some key
    else none
  | _ => none

/-- The events that a step neither writes nor counts. -/
def forgets (s : Persistence) : PersistenceAction → Option Batch
  | .advance thread env => (s.tasks[thread]?).bind (s.forgottenBatch env)
  | _ => none

/-- The state that a preparation leaves: it keeps the counters. -/
def preparedState (s : Persistence) (key : PersistenceKey) (saveFormat : SaveFormat)
    (interval : Option Int) : PersistenceState :=
  match s.states.get? key with
  | none => { saveFormat, requestedIntervalNs := interval }
  | some state => { state with saveFormat, requestedIntervalNs := interval }

/-- What an action comes to. -/
inductive ActionStep (s : Persistence) : PersistenceAction → Persistence → Prop
  | stays {a : PersistenceAction} : s.accepts a = none → s.refuses a = none →
    s.forgets a = none → ActionStep s a s
  | prepares {key : PersistenceKey} {saveFormat : SaveFormat} {requestedIntervalNs : Int}
      {interval : Option Int} :
    ActionStep s (.prepare key saveFormat requestedIntervalNs)
      { s with states := s.states.set key (s.preparedState key saveFormat interval) }
  | enables {a : PersistenceAction} {key : PersistenceKey} (value : Bool) :
    a = .activate key ∨ a = .deactivate key →
    ActionStep s a (s.modifyState key fun state => { state with enabled := value })
  | enqueues {key : PersistenceKey} {message : PersistenceMessage} :
    s.states.get? key ≠ none →
    s.accepts (.enqueue key message) = some { number := s.nextItem, key, message } →
    s.refuses (.enqueue key message) = none →
    ActionStep s (.enqueue key message) { s.markEnqueued key with
      queue := s.queue ++ [{ number := s.nextItem, key, message }]
      unfinished := s.unfinished + 1
      nextItem := s.nextItem + 1 }
  | refuses {key : PersistenceKey} {message : PersistenceMessage} :
    s.states.get? key ≠ none → s.accepts (.enqueue key message) = none →
    s.refuses (.enqueue key message) = some key →
    ActionStep s (.enqueue key message) (s.markDropped key 1)
  | starts {stopEvent executor running : Bool} {submitted : Nat} :
    ActionStep s .start { s with stopEvent, executor, running, submitted }
  | calls {a : PersistenceAction} {thread : Nat} {next : PersistenceTask} {running : Bool}
      {submitted : Nat} : s.isFree thread = true →
    a = .work thread ∧ next = .polling ∨
      a = .stop thread ∧ (next = .joining ∨ next = .returned true) ∨
      (∃ key, a = .flush thread key ∧ next = .flushing key .flush) →
    ActionStep s a ({ s with running, submitted }.goto thread next)
  | drains {thread : Nat} {key : PersistenceKey} : s.isFree thread = true →
    ActionStep s (.drain thread key) ((s.deactivate key).goto thread (.draining key s.nextItem))
  | advances {thread : Nat} {env : PersistenceEnv} {task next : PersistenceTask}
      {s' : Persistence} : s.tasks[thread]? = some task → AdvanceStep s thread env task next s' →
    ActionStep s (.advance thread env) s'

theorem prepare_step (s : Persistence) (key : PersistenceKey) (saveFormat : SaveFormat)
    (requestedIntervalNs : Int) : ActionStep s (.prepare key saveFormat requestedIntervalNs)
      (s.prepare key saveFormat requestedIntervalNs) := by
  have hset (interval : Option Int) :
      ActionStep s (.prepare key saveFormat requestedIntervalNs)
        (match s.states.get? key with
          | none =>
            { s with states := s.states.set key { saveFormat, requestedIntervalNs := interval } }
          | some state =>
            if state.enabled then s
            else { s with states :=
              s.states.set key { state with saveFormat, requestedIntervalNs := interval } }) := by
    have hprepares : ActionStep s (.prepare key saveFormat requestedIntervalNs)
        { s with states := s.states.set key (s.preparedState key saveFormat interval) } := .prepares
    unfold preparedState at hprepares
    cases hstate : s.states.get? key with
    | none =>
      rw [hstate] at hprepares
      exact hprepares
    | some state =>
      rw [hstate] at hprepares
      dsimp only
      split
      · exact .stays rfl rfl rfl
      · exact hprepares
  cases key with
  | events clientId => exact hset none
  | stream clientId channel =>
    unfold prepare
    dsimp only
    split
    · exact .stays rfl rfl rfl
    · exact hset (some requestedIntervalNs)

theorem enqueue_step (s : Persistence) (key : PersistenceKey) (message : PersistenceMessage) :
    ActionStep s (.enqueue key message) (s.enqueue key message) := by
  have hstays (h : ¬(s.running = true ∧ (s.states.get? key).any (·.enabled) = true)) :
      ActionStep s (.enqueue key message) s :=
    .stays (if_neg fun h' => h ⟨h'.1, h'.2.1⟩) (if_neg fun h' => h ⟨h'.1, h'.2.1⟩) rfl
  unfold enqueue
  split
  · next hrunning =>
    cases hstate : s.states.get? key with
    | none => exact hstays fun h => by rw [hstate] at h; exact Bool.false_ne_true h.2
    | some state =>
      have hsome : s.states.get? key ≠ none := by rw [hstate]; exact Option.some_ne_none _
      dsimp only
      split
      · next henabled =>
        have hany : (s.states.get? key).any (·.enabled) = true := by rw [hstate]; exact henabled
        split
        · next hroom =>
          exact .enqueues hsome (if_pos ⟨hrunning, hany, hroom⟩)
            (if_neg fun h => Nat.not_le_of_lt hroom h.2.2)
        · next hroom =>
          exact .refuses hsome (if_neg fun h => hroom h.2.2)
            (if_pos ⟨hrunning, hany, Nat.le_of_not_lt hroom⟩)
      · next henabled => exact hstays fun h => by rw [hstate] at h; exact henabled h.2
  · next hrunning => exact hstays fun h => hrunning h.1

/-- Every action is one of these. -/
theorem step_cases (s : Persistence) (a : PersistenceAction) : ActionStep s a (s.step a) := by
  cases a with
  | prepare key saveFormat requestedIntervalNs => exact prepare_step ..
  | activate key => exact .enables true (.inl rfl)
  | deactivate key => exact .enables false (.inr rfl)
  | enqueue key message => exact enqueue_step ..
  | start =>
    dsimp only [step]
    unfold start
    split
    · exact .stays rfl rfl rfl
    · exact .starts
  | work thread =>
    dsimp only [step]
    split
    · next h => exact .calls h.1 (.inl ⟨rfl, rfl⟩)
    · exact .stays rfl rfl rfl
  | stop thread =>
    dsimp only [step]
    split
    · next hfree =>
      split
      · exact .calls hfree (.inr (.inl ⟨rfl, .inl rfl⟩))
      · exact .calls hfree (.inr (.inl ⟨rfl, .inr rfl⟩))
    · exact .stays rfl rfl rfl
  | flush thread key =>
    dsimp only [step]
    split
    · next hfree => exact .calls hfree (.inr (.inr ⟨key, rfl, rfl⟩))
    · exact .stays rfl rfl rfl
  | drain thread key =>
    dsimp only [step]
    split
    · next h => exact .drains h.1
    · exact .stays rfl rfl rfl
  | advance thread env =>
    dsimp only [step]
    cases ht : s.tasks[thread]? with
    | none =>
      refine .stays rfl rfl ?_
      show (s.tasks[thread]?).bind _ = none
      rw [ht]
      rfl
    | some task =>
      obtain ⟨next, hstep⟩ := advanceTask_step s thread env task
      exact .advances ht hstep

theorem isFree_iff : s.isFree thread = true ↔ s.tasks[thread]? = some .idle ∨
    (∃ success, s.tasks[thread]? = some (.returned success)) ∨
    ∃ key accepted, s.tasks[thread]? = some (.drained key accepted) := by
  unfold isFree
  split
  · next h => simp [h]
  · next h => simp [h]
  · next h => simp [h]
  · next hidle hreturned hdrained =>
    simp only [Bool.false_eq_true, false_iff, not_or, not_exists]
    exact ⟨hidle, hreturned, hdrained⟩

end Persistence

end MultiDAQ.Server
