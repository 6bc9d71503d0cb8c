import MultiDAQ.Server.MonitorStreams

/-!
# The state of the sample streams

The desired interval of a stream is always the smallest that its consumers ask for, and a stream is
active exactly when the interval of its producer is recorded. The copies that the calls keep to undo
a change say the same, so undoing one keeps it. A producer lock belongs to the one thread that is
between the copy and the answer.
-/

namespace MultiDAQ.Server

open MultiDAQ.Lib

/-! ## One stream -/

namespace MonitorStreamState

variable {stream : MonitorStreamState}

/-- The smallest interval that a consumer of the stream asks for, if it has any. -/
def SmallestInterval (stream : MonitorStreamState) : Option Int → Prop
  | none => ∀ consumer, stream.consumers.get? consumer = none
  | some intervalNs =>
    (∃ consumer sub, stream.consumers.get? consumer = some sub ∧
        sub.requestedIntervalNs = intervalNs) ∧
      ∀ consumer sub, stream.consumers.get? consumer = some sub →
        intervalNs ≤ sub.requestedIntervalNs

theorem smallestInterval_compute (stream : MonitorStreamState) :
    stream.SmallestInterval stream.computeProducerIntervalNs := by
  cases h : stream.computeProducerIntervalNs with
  | none =>
    have hnil : stream.consumers.entries = [] :=
      List.map_eq_nil_iff.1 (List.min?_eq_none_iff.1 h)
    intro consumer
    unfold Dict.get?
    rw [hnil]
    rfl
  | some intervalNs =>
    obtain ⟨hmem, hle⟩ := List.min?_eq_some_iff.1 h
    constructor
    · obtain ⟨⟨consumer, sub⟩, hentry, rfl⟩ := List.mem_map.1 hmem
      exact ⟨consumer, sub, Dict.mem_entries.1 hentry, rfl⟩
    · intro consumer sub hsub
      exact hle _ (List.mem_map.2 ⟨(consumer, sub), Dict.mem_entries.2 hsub, rfl⟩)

/-- What is recorded of the producer agrees with the consumers and with itself. -/
structure Consistent (stream : MonitorStreamState) : Prop where
  desired : stream.desiredProducerIntervalNs = stream.computeProducerIntervalNs
  active : stream.active = stream.activeProducerIntervalNs.isSome

theorem consistent_new (key : StreamKey) : Consistent { key } := ⟨rfl, rfl⟩

theorem Consistent.withConsumers (h : stream.Consistent) (key : StreamKey)
    (consumers : Dict String StreamSubscription) :
    (stream.withConsumers key consumers).1.Consistent :=
  ⟨rfl, h.active⟩

theorem Consistent.deliver (h : stream.Consistent) (nowNs : Int) :
    (stream.deliver nowNs).Consistent where
  desired := by
    have hkept (sub : StreamSubscription) :
        (sub.deliver nowNs).requestedIntervalNs = sub.requestedIntervalNs := by
      unfold StreamSubscription.deliver
      split <;> rfl
    have hsame : (stream.deliver nowNs).computeProducerIntervalNs =
        stream.computeProducerIntervalNs := by
      simp [computeProducerIntervalNs, MonitorStreamState.deliver, Dict.mapVals,
        Function.comp_def, hkept]
    rw [hsame]
    exact h.desired
  active := h.active

end MonitorStreamState

/-! ## The operations -/

namespace Streamers

open MonitorStreamState

variable {s s' s'' : Streamers} {key : StreamKey}

def AllConsistent (s : Streamers) : Prop :=
  ∀ key stream, s.get? key = some stream → Consistent stream

/-- Only this stream is changed, and it stays consistent. -/
structure Touches (s : Streamers) (key : StreamKey) (s' : Streamers) : Prop where
  consistent : s.AllConsistent → s'.AllConsistent
  frame : ∀ key', key' ≠ key → s'.get? key' = s.get? key'

theorem Touches.refl (s : Streamers) (key : StreamKey) : Touches s key s := ⟨id, fun _ _ => rfl⟩

theorem Touches.trans (h : Touches s key s') (h' : Touches s' key s'') : Touches s key s'' where
  consistent hs := h'.consistent (h.consistent hs)
  frame key' hne := (h'.frame key' hne).trans (h.frame key' hne)

theorem touches_set {stream : MonitorStreamState} (hnew : s.AllConsistent → stream.Consistent) :
    Touches s key (s.set key stream) where
  consistent hs := by
    intro key' stream' hget
    rw [Dict.get?_set] at hget
    split at hget
    · cases hget
      exact hnew hs
    · exact hs key' stream' hget
  frame key' hne := by simp [hne]

theorem touches_addOrUpdateSubscription {consumer : String} {requestedIntervalNs nowNs : Int}
    {update : StreamUpdateResult}
    (hok : s.addOrUpdateSubscription key consumer requestedIntervalNs nowNs = .ok (s', update)) :
    Touches s key s' ∧ update.key = key := by
  unfold addOrUpdateSubscription at hok
  split at hok
  · cases hok
    refine ⟨touches_set fun hs => Consistent.withConsumers ?_ key _, rfl⟩
    cases hget : s.get? key with
    | none => exact consistent_new key
    | some stream => exact hs key stream hget
  · cases hok

theorem touches_removeSubscription {consumer : String} {update : StreamUpdateResult}
    (hok : s.removeSubscription key consumer = .ok (s', update)) :
    Touches s key s' ∧ update.key = key := by
  unfold removeSubscription at hok
  split at hok
  · cases hok
  next stream hget =>
    split at hok
    · cases hok
      exact ⟨touches_set fun hs => (hs key stream hget).withConsumers key _, rfl⟩
    · cases hok

theorem touches_recordAnswer (s : Streamers) (key : StreamKey) (active : Bool)
    (activeIntervalNs : Option Int) (reply : StreamOutcome) :
    Touches s key (s.recordAnswer key active activeIntervalNs reply).1 := by
  cases reply with
  | failure => exact .refl s key
  | raised => exact .refl s key
  | success =>
    unfold recordAnswer setActiveProducerState
    dsimp only
    cases hget : s.get? key with
    | none => exact .refl s key
    | some stream =>
      dsimp only
      by_cases hactive : active = activeIntervalNs.isSome
      · rw [if_pos hactive]
        exact touches_set fun hs => ⟨(hs key stream hget).desired, hactive⟩
      · rw [if_neg hactive]
        exact .refl s key

theorem touches_applyProducerAction (s : Streamers) (update : StreamUpdateResult)
    (reply : StreamOutcome) : Touches s update.key (s.applyProducerAction update reply).1 := by
  unfold applyProducerAction
  split
  · exact .refl s update.key
  · split
    · exact .refl s update.key
    · exact touches_recordAnswer s update.key _ _ reply
  · split
    · exact .refl s update.key
    · exact touches_recordAnswer s update.key _ _ reply
  · exact touches_recordAnswer s update.key _ _ reply

theorem touches_restoreStreamState {previous : Option MonitorStreamState}
    (hprevious : ∀ p, previous = some p → p.Consistent) :
    Touches s key (s.restoreStreamState key previous) := by
  cases previous with
  | some p => exact touches_set fun _ => hprevious p rfl
  | none =>
    refine ⟨fun hs key' stream hget => ?_, fun key' hne => by simp [restoreStreamState, hne]⟩
    rw [restoreStreamState, Dict.get?_erase] at hget
    split at hget
    · cases hget
    · exact hs key' stream hget

theorem touches_getDueSubscriptions (s : Streamers) (key : StreamKey) (nowNs : Int) :
    Touches s key (s.getDueSubscriptions key nowNs).1 := by
  unfold getDueSubscriptions
  split
  · exact .refl s key
  next stream hget => exact touches_set fun hs => (hs key stream hget).deliver nowNs

theorem touches_invalidate (s : Streamers) (key : StreamKey) :
    Touches s key (s.invalidate key) where
  consistent hs := by
    intro key' stream hget
    rw [invalidate, Dict.get?_modify] at hget
    split at hget
    · obtain ⟨old, hold, rfl⟩ := Option.map_eq_some_iff.1 hget
      exact ⟨(hs _ old hold).desired, rfl⟩
    · exact hs key' stream hget
  frame key' hne := by simp [invalidate, hne]

end Streamers

/-! ## The threads -/

namespace MonitorStreams

open Streamers

variable {s : MonitorStreams} {t : Nat}

/-- A change that is asked for, or a copy that is kept, is in order. -/
def TaskOk : StreamTask → Prop
  | .copied _ previous => ∀ p, previous = some p → p.Consistent
  | .requested call previous update =>
    (∀ p, previous = some p → p.Consistent) ∧ update.key = call.key
  | _ => True

structure Inv (s : MonitorStreams) : Prop where
  consistent : s.streamers.AllConsistent
  tasksOk : ∀ t, TaskOk (s.tasks t)
  locks : ∀ t key, s.producerLocks key = some t ↔ (s.tasks t).holds = some key

/-- What a step of a thread can do. It changes a stream under the producer lock that it holds, or
when no thread holds the lock. -/
inductive Moved (s : MonitorStreams) (t : Nat) : MonitorStreams → Prop
  | stay : Moved s t s
  | goto {task : StreamTask} (hok : TaskOk task) (hholds : task.holds = (s.tasks t).holds) :
    Moved s t (s.goto t task)
  | change {streamers : Streamers} {task : StreamTask} {key : StreamKey} (hok : TaskOk task)
    (hholds : task.holds = (s.tasks t).holds) (htouch : Touches s.streamers key streamers)
    (hkey : (s.tasks t).holds = some key ∨ s.producerLocks key = none) :
    Moved s t ({ s with streamers }.goto t task)
  | lock {task : StreamTask} {key : StreamKey} (hok : TaskOk task)
    (hnone : (s.tasks t).holds = none) (hfree : s.producerLocks key = none)
    (hholds : task.holds = some key) : Moved s t ((s.setLock key (some t)).goto t task)
  | unlock {streamers : Streamers} {task : StreamTask} {key : StreamKey} (hok : TaskOk task)
    (hkey : (s.tasks t).holds = some key) (hholds : task.holds = none)
    (htouch : Touches s.streamers key streamers) :
    Moved s t (({ s with streamers }.setLock key none).goto t task)

theorem moved_copyStream {call : SubscriptionCall} (h : Inv s)
    (htask : s.tasks t = .called (.subscription call)) : Moved s t (s.copyStream t call) := by
  have hnone : (s.tasks t).holds = none := by rw [htask]; rfl
  unfold copyStream
  split
  · exact .stay
  next hfree =>
    split
    · exact .goto trivial hnone.symm
    · exact .lock (fun p hp => h.consistent _ p hp) hnone hfree rfl

theorem touches_changeSubscription {streamers streamers' : Streamers} {call : SubscriptionCall}
    {nowNs : Int} {update : StreamUpdateResult}
    (hok : changeSubscription streamers nowNs call = .ok (streamers', update)) :
    Touches streamers call.key streamers' ∧ update.key = call.key := by
  cases call with
  | subscribe key consumer requestedIntervalNs => exact touches_addOrUpdateSubscription hok
  | unsubscribe key consumer => exact touches_removeSubscription hok

theorem moved_changeStream {call : SubscriptionCall} {previous : Option MonitorStreamState}
    (h : Inv s) (htask : s.tasks t = .copied call previous) (nowNs : Int) :
    Moved s t (s.changeStream t call previous nowNs) := by
  have hprevious : ∀ p, previous = some p → p.Consistent := by
    have hok := h.tasksOk t
    rw [htask] at hok
    exact hok
  have hkey : (s.tasks t).holds = some call.key := by rw [htask]; rfl
  unfold changeStream
  split
  · exact .unlock trivial hkey rfl (.refl _ call.key)
  next streamers update hchange =>
    obtain ⟨htouch, hupdate⟩ := touches_changeSubscription hchange
    exact .change ⟨hprevious, hupdate⟩ hkey.symm htouch (.inl hkey)

theorem moved_endChange {call : SubscriptionCall} {previous : Option MonitorStreamState}
    {update : StreamUpdateResult} (h : Inv s) (htask : s.tasks t = .requested call previous update)
    (reply : StreamOutcome) : Moved s t (s.endChange t call previous update reply) := by
  obtain ⟨hprevious, hupdate⟩ : TaskOk (.requested call previous update) := htask ▸ h.tasksOk t
  have hkey : (s.tasks t).holds = some call.key := by rw [htask]; rfl
  have htouch := touches_applyProducerAction s.streamers update reply
  rw [hupdate] at htouch
  unfold endChange
  split
  next streamers happly =>
    rw [happly] at htouch
    exact .unlock trivial hkey rfl htouch
  next streamers outcome _ happly =>
    rw [happly] at htouch
    exact .unlock trivial hkey rfl (htouch.trans (touches_restoreStreamState hprevious))

theorem moved_invalidateNext {rest : List StreamKey} (htask : s.tasks t = .invalidating rest) :
    Moved s t (s.invalidateNext t rest) := by
  have hnone : (s.tasks t).holds = none := by rw [htask]; rfl
  cases rest with
  | nil => exact .goto trivial hnone.symm
  | cons key rest =>
    unfold invalidateNext
    dsimp only
    split
    · exact .stay
    next hfree =>
      exact .change trivial hnone.symm (touches_invalidate s.streamers key) (.inr hfree)

theorem moved_reconcileNext {rest : List StreamKey} {allSuccess : Bool}
    (htask : s.tasks t = .reconciling rest allSuccess) :
    Moved s t (s.reconcileNext t allSuccess rest) := by
  have hnone : (s.tasks t).holds = none := by rw [htask]; rfl
  cases rest with
  | nil => exact .goto trivial hnone.symm
  | cons key rest =>
    unfold reconcileNext
    dsimp only
    split
    · exact .stay
    · exact .goto trivial hnone.symm
    next hfree _ => exact .lock trivial hnone hfree rfl

theorem moved_endReconcile {update : StreamUpdateResult} {rest : List StreamKey} {allSuccess : Bool}
    (htask : s.tasks t = .reconcileRequested update rest allSuccess) (reply : StreamOutcome) :
    Moved s t (s.endReconcile t update rest allSuccess reply) := by
  have hkey : (s.tasks t).holds = some update.key := by rw [htask]; rfl
  have htouch := touches_applyProducerAction s.streamers update reply
  unfold endReconcile
  split
  next streamers happly =>
    rw [happly] at htouch
    exact .unlock trivial hkey rfl htouch
  next streamers outcome _ happly =>
    rw [happly] at htouch
    exact .unlock trivial hkey rfl htouch

theorem moved_advance (h : Inv s) (t : Nat) (nowNs : Int) (reply : StreamOutcome) :
    Moved s t (s.advance t nowNs reply) := by
  unfold advance
  split
  next => exact .stay
  next => exact .stay
  next htask => exact moved_copyStream h htask
  next htask => exact moved_changeStream h htask nowNs
  next htask => exact moved_endChange h htask reply
  next htask => exact .goto trivial (by rw [htask]; rfl)
  next htask => exact moved_invalidateNext htask
  next htask => exact .goto trivial (by rw [htask]; rfl)
  next htask => exact moved_reconcileNext htask
  next htask => exact moved_endReconcile htask reply

/-! ## The invariant -/

theorem inv_init : Inv {} where
  consistent _ _ h := nomatch h
  tasksOk _ := trivial
  locks _ _ := ⟨nofun, nofun⟩

theorem Inv.tasksOk_goto (h : Inv s) {task : StreamTask} (hok : TaskOk task) (u : Nat) :
    TaskOk ((s.goto t task).tasks u) := by
  show TaskOk (Function.update s.tasks t task u)
  by_cases hu : u = t
  · rw [hu, Function.update_self]
    exact hok
  · rw [Function.update_of_ne hu]
    exact h.tasksOk u

theorem holds_goto (s : MonitorStreams) (t u : Nat) (task : StreamTask) :
    ((s.goto t task).tasks u).holds = if u = t then task.holds else (s.tasks u).holds := by
  show (Function.update s.tasks t task u).holds = _
  by_cases hu : u = t
  · rw [hu, Function.update_self, if_pos rfl]
  · rw [Function.update_of_ne hu, if_neg hu]

theorem Inv.locks_goto (h : Inv s) {task : StreamTask} (hholds : task.holds = (s.tasks t).holds)
    (u : Nat) (key : StreamKey) :
    s.producerLocks key = some u ↔ ((s.goto t task).tasks u).holds = some key := by
  rw [holds_goto, h.locks u key]
  split
  next hu => rw [hholds, hu]
  · exact Iff.rfl

theorem Inv.moved {s' : MonitorStreams} (h : Inv s) (hmove : Moved s t s') : Inv s' := by
  cases hmove with
  | stay => exact h
  | goto hok hholds => exact ⟨h.consistent, h.tasksOk_goto hok, h.locks_goto hholds⟩
  | change hok hholds htouch _ =>
    exact ⟨htouch.consistent h.consistent, h.tasksOk_goto hok, h.locks_goto hholds⟩
  | @lock task key hok hnone hfree hholds =>
    refine ⟨h.consistent, h.tasksOk_goto hok, fun u key' => ?_⟩
    show Function.update s.producerLocks key (some t) key' = some u ↔
      ((s.goto t task).tasks u).holds = some key'
    rw [holds_goto]
    have hlocks := h.locks u key'
    by_cases hkey : key' = key
    · subst hkey
      rw [Function.update_self]
      split
      next hu => simp [hholds, hu]
      next hu =>
        rw [hfree] at hlocks
        simp [← hlocks, Ne.symm hu]
    · rw [Function.update_of_ne hkey]
      split
      next hu =>
        subst hu
        rw [hlocks, hnone, hholds]
        simp [Ne.symm hkey]
      · exact hlocks
  | @unlock streamers task key hok hkey hholds htouch =>
    refine ⟨htouch.consistent h.consistent, h.tasksOk_goto hok, fun u key' => ?_⟩
    show Function.update s.producerLocks key none key' = some u ↔
      ((s.goto t task).tasks u).holds = some key'
    rw [holds_goto]
    have hlocks := h.locks u key'
    by_cases hkey' : key' = key
    · subst hkey'
      rw [Function.update_self]
      split
      next hu => simp [hholds]
      next hu =>
        rw [(h.locks t key').2 hkey] at hlocks
        simp [← hlocks, Ne.symm hu]
    · rw [Function.update_of_ne hkey']
      split
      next hu =>
        subst hu
        rw [hlocks, hkey, hholds]
        simp [Ne.symm hkey']
      · exact hlocks

theorem Inv.step (h : Inv s) (a : StreamAction) : Inv (s.step a) := by
  cases a with
  | call thread call =>
    unfold MonitorStreams.step
    dsimp only
    split
    next htask => exact h.moved (.goto trivial (by rw [htask]; rfl))
    next htask => exact h.moved (.goto trivial (by rw [htask]; rfl))
    · exact h
  | advance thread nowNs reply => exact h.moved (moved_advance h thread nowNs reply)
  | getDue key nowNs =>
    exact ⟨(touches_getDueSubscriptions s.streamers key nowNs).consistent h.consistent, h.tasksOk,
      h.locks⟩

theorem inv_run (as : List StreamAction) : Inv (run MonitorStreams.step {} as) :=
  Reachable.invariant (fun _ a h => h.step a) inv_init ⟨as, rfl⟩

/-- After any run, the desired interval of every stream is the smallest that its consumers ask for,
and the stream is active exactly when an interval is recorded. -/
theorem stream_consistent (as : List StreamAction) {key : StreamKey} {stream : MonitorStreamState}
    (h : (run MonitorStreams.step {} as).streamers.get? key = some stream) :
    stream.SmallestInterval stream.desiredProducerIntervalNs ∧
      (stream.active = true ↔ stream.activeProducerIntervalNs ≠ none) := by
  obtain ⟨hdesired, hactive⟩ := (inv_run as).consistent key stream h
  refine ⟨hdesired ▸ stream.smallestInterval_compute, ?_⟩
  rw [hactive]
  exact Option.isSome_iff_ne_none

end MonitorStreams

end MultiDAQ.Server
