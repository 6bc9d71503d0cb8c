import MultiDAQ.Lib.Run
import MultiDAQ.Server.TimeSync

/-!
# Stale synchronisation

A client that is invalidated has no state, and no probe of it is pending: what it answers to an
earlier probe is not taken. A measurement that a round already holds is taken nevertheless when the
round ends.
-/

namespace MultiDAQ.Server.TimeSync

open MultiDAQ.Lib

variable {s : TimeSync}

/-! ## Measurements and invalidations -/

/-- What the code does not keep: when the probe behind a measurement was sent. -/
structure SyncLog where
  /-- How many times a client has been invalidated. -/
  invalidations : ClientId → Nat := fun _ => 0
  /-- How many times its client had been invalidated when this probe was sent. -/
  begun : Nat → Option Nat := fun _ => none
  /-- The same for the measurement behind the state of a client. -/
  origin : ClientId → Option Nat := fun _ => none

namespace SyncLog

variable (log : SyncLog) (clientId : ClientId)

def send (requestId : Nat) : SyncLog :=
  { log with
    begun := Function.update log.begun requestId (some (log.invalidations clientId)) }

def invalidate : SyncLog :=
  { log with
    invalidations := Function.update log.invalidations clientId (log.invalidations clientId + 1) }

def invalidateAll : SyncLog :=
  { log with invalidations := fun c => log.invalidations c + 1 }

def apply (best : TimeSyncMeasurement) : SyncLog :=
  { log with origin := Function.update log.origin clientId (log.begun best.requestId) }

section Fields

variable (requestId id : Nat) (c : ClientId) (best : TimeSyncMeasurement)

@[simp] theorem begun_send : (log.send clientId requestId).begun id =
    if id = requestId then some (log.invalidations clientId) else log.begun id :=
  Function.update_apply ..

@[simp] theorem invalidations_send :
    (log.send clientId requestId).invalidations = log.invalidations := rfl

@[simp] theorem origin_send : (log.send clientId requestId).origin = log.origin := rfl

@[simp] theorem invalidations_invalidate : (log.invalidate clientId).invalidations c =
    if c = clientId then log.invalidations clientId + 1 else log.invalidations c :=
  Function.update_apply ..

@[simp] theorem begun_invalidate : (log.invalidate clientId).begun = log.begun := rfl
@[simp] theorem origin_invalidate : (log.invalidate clientId).origin = log.origin := rfl
@[simp] theorem begun_invalidateAll : log.invalidateAll.begun = log.begun := rfl

@[simp] theorem origin_apply : (log.apply clientId best).origin c =
    if c = clientId then log.begun best.requestId else log.origin c := Function.update_apply ..

@[simp] theorem begun_apply : (log.apply clientId best).begun = log.begun := rfl

@[simp] theorem invalidations_apply :
    (log.apply clientId best).invalidations = log.invalidations := rfl

end Fields

/-- What the end of a round does to the state of its client. -/
def applied : TimeSyncService.Applied → SyncLog
  | .noMeasurements => log
  | .bootChanged => log.invalidate clientId
  | .best best => log.apply clientId best

/-- A round ends when no probe is left. -/
def endRound : SyncTask → SyncLog
  | .collecting clientId 0 measurements =>
    log.applied clientId (TimeSyncService.applied clientId measurements)
  | _ => log

end SyncLog

def note (s : TimeSync) (log : SyncLog) : TimeSyncAction → SyncLog
  | .sendProbe .sent _ _ =>
    match s.received, s.outgoing with
    | none, (clientId, requestId) :: _ => log.send clientId requestId
    | _, _ => log
  | .invalidateClient clientId => log.invalidate clientId
  | .clear => log.invalidateAll
  | .advance thread _ => log.endRound (s.tasks thread)
  | _ => log

def watch (x : TimeSync × SyncLog) (a : TimeSyncAction) : TimeSync × SyncLog :=
  (x.1.step a, x.1.note x.2 a)

/-- A measurement that has been made, and is still to be applied. -/
def Held (s : TimeSync) (m : TimeSyncMeasurement) : Prop :=
  (∃ thread, m ∈ (s.tasks thread).measurements) ∨
    (∃ key, s.waiters.get? key = some (some m)) ∨ s.received = some m

/-! ## The invariant -/

variable {log : SyncLog}

structure Inv (s : TimeSync) (log : SyncLog) : Prop where
  /-- The probes in the queue have request ids of their own. -/
  unsent : ∀ e ∈ s.outgoing, log.begun e.2 = none ∧ e.2 < s.nextRequestId
  nodup : (s.outgoing.map Prod.snd).Nodup
  fresh : ∀ id, log.begun id ≠ none → id < s.nextRequestId
  pending : ∀ id probe, s.service.pendingProbes.get? id = some probe →
    log.begun id = some (log.invalidations probe.clientId)
  held : ∀ m, s.Held m → log.begun m.requestId = some (log.invalidations m.clientId)
  current : ∀ clientId state, s.service.clientStates.get? clientId = some state →
    log.origin clientId = some (log.invalidations clientId)

theorem inv_init : Inv {} {} where
  unsent _ h := by cases h
  nodup := List.nodup_nil
  fresh _ h := absurd rfl h
  pending _ _ h := by cases h
  held m h := by
    rcases h with ⟨_, h⟩ | ⟨_, h⟩ | h
    · cases h
    · cases h
    · cases h
  current _ _ h := by cases h

/-- A step that sends no probe, and makes no measurement, keeps the invariant. -/
theorem Inv.of_held {s' : TimeSync} (h : Inv s log) (houtgoing : s'.outgoing = s.outgoing)
    (hnext : s'.nextRequestId = s.nextRequestId)
    (hpending : ∀ id probe, s'.service.pendingProbes.get? id = some probe →
      s.service.pendingProbes.get? id = some probe)
    (hstates : s'.service.clientStates = s.service.clientStates)
    (hheld : ∀ m, s'.Held m → s.Held m) : Inv s' log where
  unsent := by rw [houtgoing, hnext]; exact h.unsent
  nodup := by rw [houtgoing]; exact h.nodup
  fresh := by rw [hnext]; exact h.fresh
  pending id probe hget := h.pending id probe (hpending id probe hget)
  held m hm := h.held m (hheld m hm)
  current := by rw [hstates]; exact h.current

/-- A thread that goes on holds what it has held, and what it takes. -/
theorem held_goto {thread : Nat} {task : SyncTask} {m : TimeSyncMeasurement}
    (h : (s.goto thread task).Held m) (htask : m ∈ task.measurements → s.Held m) : s.Held m := by
  rcases h with ⟨t, ht⟩ | h
  · by_cases hne : t = thread
    · subst hne
      refine htask ?_
      have heq : (s.goto t task).tasks t = task := Function.update_self ..
      rwa [heq] at ht
    · refine .inl ⟨t, ?_⟩
      have heq : (s.goto thread task).tasks t = s.tasks t := Function.update_of_ne hne ..
      rwa [heq] at ht
  · exact .inr h

/-- An invalidation leaves nothing of the client, if no measurement of it is held. -/
theorem Inv.invalidate (h : Inv s log) {clientId : ClientId}
    (hfree : ∀ m, s.Held m → m.clientId ≠ clientId) :
    Inv { s with service := s.service.invalidateClient clientId } (log.invalidate clientId) where
  unsent := h.unsent
  nodup := h.nodup
  fresh := h.fresh
  pending id probe hget := by
    obtain ⟨hget, hne⟩ := Dict.get?_filter_eq_some.1 hget
    have hne : probe.clientId ≠ clientId := by simpa using hne
    simpa [hne] using h.pending id probe hget
  held m hm := by simpa [hfree m hm] using h.held m hm
  current c state hget := by
    have hget : (s.service.clientStates.erase clientId).get? c = some state := hget
    rw [Dict.get?_erase] at hget
    split at hget
    · cases hget
    · next hne => simpa [hne] using h.current c state hget

theorem Inv.clear (h : Inv s log) (hfree : ∀ m, ¬s.Held m) :
    Inv { s with service := .clear } log.invalidateAll where
  unsent := h.unsent
  nodup := h.nodup
  fresh := h.fresh
  pending _ _ hget := by cases hget
  held m hm := absurd hm (hfree m)
  current _ _ hget := by cases hget

/-! ## The steps -/

theorem applied_best {clientId : ClientId} {measurements : List TimeSyncMeasurement}
    {best : TimeSyncMeasurement}
    (h : TimeSyncService.applied clientId measurements = .best best) :
    best ∈ measurements ∧ best.clientId = clientId := by
  unfold TimeSyncService.applied at h
  dsimp only at h
  split at h
  · cases h
  · next m hmin =>
    split at h
    · cases h
      have hmem := List.mem_filter.1 (List.minOn?_mem hmin)
      exact ⟨hmem.1, by simpa using hmem.2⟩
    · cases h

/-- The thread of a round is left. -/
theorem Inv.goto_idle (h : Inv s log) (thread : Nat) : Inv (s.goto thread .idle) log := by
  refine h.of_held rfl rfl (fun _ _ hget => hget) rfl fun m hm => ?_
  exact held_goto hm fun hmem => absurd hmem List.not_mem_nil

theorem Inv.applyMeasurements (h : Inv s log) {thread : Nat} {clientId : ClientId}
    {measurements : List TimeSyncMeasurement}
    (htask : s.tasks thread = .collecting clientId 0 measurements)
    (hfree : TimeSyncService.applied clientId measurements = .bootChanged →
      ∀ m, (s.goto thread .idle).Held m → m.clientId ≠ clientId) :
    Inv ({ s with service := s.service.applyMeasurements clientId measurements }.goto thread .idle)
      (log.applied clientId (TimeSyncService.applied clientId measurements)) := by
  unfold TimeSyncService.applyMeasurements
  cases happlied : TimeSyncService.applied clientId measurements with
  | noMeasurements => exact h.goto_idle thread
  | bootChanged => exact (h.goto_idle thread).invalidate (hfree happlied)
  | best best =>
    obtain ⟨hmem, rfl⟩ := applied_best happlied
    have hbest : log.begun best.requestId = some (log.invalidations best.clientId) :=
      h.held best (.inl ⟨thread, by rw [htask]; exact hmem⟩)
    have hidle := h.goto_idle thread
    refine ⟨hidle.unsent, hidle.nodup, hidle.fresh, hidle.pending, hidle.held, ?_⟩
    intro c state hget
    have hget : (s.service.clientStates.set best.clientId (best.state best.clientId)).get? c =
      some state := hget
    rw [Dict.get?_set] at hget
    show (log.apply best.clientId best).origin c =
      some ((log.apply best.clientId best).invalidations c)
    rw [SyncLog.origin_apply, SyncLog.invalidations_apply]
    split at hget
    · next heq => rw [heq, if_pos rfl]; exact hbest
    · next hne => rw [if_neg hne]; exact h.current c state hget

theorem Inv.queueProbe (h : Inv s log) (clientId : ClientId) : Inv (s.queueProbe clientId) log where
  unsent e he := by
    rcases List.mem_append.1 he with he | he
    · obtain ⟨hnone, hlt⟩ := h.unsent e he
      exact ⟨hnone, Nat.lt_succ_of_lt hlt⟩
    · obtain rfl := List.mem_singleton.1 he
      refine ⟨?_, Nat.lt_succ_self _⟩
      by_contra hne
      exact absurd (h.fresh _ hne) (Nat.lt_irrefl _)
  nodup := by
    show ((s.outgoing ++ [(clientId, s.nextRequestId)]).map Prod.snd).Nodup
    rw [List.map_append, List.nodup_append]
    refine ⟨h.nodup, List.nodup_singleton _, ?_⟩
    rintro id hid _ hid'
    obtain rfl := List.mem_singleton.1 hid'
    obtain ⟨e, he, rfl⟩ := List.mem_map.1 hid
    exact Nat.ne_of_lt (h.unsent e he).2
  fresh id hid := Nat.lt_succ_of_lt (h.fresh id hid)
  pending := h.pending
  held m hm := by
    refine h.held m ?_
    rcases hm with hm | ⟨key, hkey⟩ | hm
    · exact .inl hm
    · have hkey : (s.waiters.set (clientId, s.nextRequestId) none).get? key = some (some m) := hkey
      rw [Dict.get?_set] at hkey
      split at hkey
      · cases hkey
      · exact .inr (.inl ⟨key, hkey⟩)
    · exact .inr (.inr hm)
  current := h.current

theorem Inv.goto (h : Inv s log) (thread : Nat) {task : SyncTask}
    (htask : ∀ m ∈ task.measurements, s.Held m) : Inv (s.goto thread task) log := by
  refine h.of_held rfl rfl (fun _ _ hget => hget) rfl fun m hm => ?_
  exact held_goto hm (htask m)

theorem Inv.dropWaiter (h : Inv s log) (clientId : ClientId) (requestId : Nat) :
    Inv (s.dropWaiter clientId requestId) log := by
  refine h.of_held rfl rfl (fun _ _ hget => hget) rfl fun m hm => ?_
  rcases hm with hm | ⟨key, hkey⟩ | hm
  · exact .inl hm
  · exact .inr (.inl ⟨key, Dict.get?_erase_of_some hkey⟩)
  · exact .inr (.inr hm)

theorem Inv.cancelProbe (h : Inv s log) (requestId : Nat) :
    Inv { s with service := s.service.cancelProbe requestId } log :=
  h.of_held rfl rfl (fun _ _ hget => Dict.get?_erase_of_some hget) rfl fun _ hm => hm

/-- A round that ends with a changed boot is the only one that holds measurements of its client. -/
def EndsAlone (s : TimeSync) (thread : Nat) : SyncTask → Prop
  | .collecting clientId 0 measurements =>
    TimeSyncService.applied clientId measurements = .bootChanged →
      ∀ m, (s.goto thread .idle).Held m → m.clientId ≠ clientId
  | _ => True

/-- A client is invalidated only while no measurement of it is held. -/
def Orderly (s : TimeSync) : TimeSyncAction → Prop
  | .invalidateClient clientId => ∀ m, s.Held m → m.clientId ≠ clientId
  | .clear => ∀ m, ¬s.Held m
  | .advance thread _ => s.EndsAlone thread (s.tasks thread)
  | _ => True

theorem Inv.advance (h : Inv s log) {thread : Nat} (timedOut : Bool)
    (halone : s.EndsAlone thread (s.tasks thread)) :
    Inv (s.advance thread timedOut) (log.endRound (s.tasks thread)) := by
  unfold TimeSync.advance
  cases htask : s.tasks thread with
  | idle => exact h
  | collecting clientId left measurements =>
    cases left with
    | zero =>
      rw [htask] at halone
      exact h.applyMeasurements htask halone
    | succ left =>
      refine (h.queueProbe clientId).goto thread fun m hm => .inl ⟨thread, ?_⟩
      show m ∈ (s.tasks thread).measurements
      rw [htask]
      exact hm
  | waiting clientId requestId left measurements =>
    have hheld {m : TimeSyncMeasurement} (hm : m ∈ measurements) : s.Held m :=
      .inl ⟨thread, by rw [htask]; exact hm⟩
    show Inv _ log
    dsimp only
    split
    · next taken hwaiter =>
      -- the measurement goes from the waiter to the round
      have hround :
          Inv (s.goto thread (.collecting clientId left (measurements ++ [taken]))) log := by
        refine h.goto thread fun m hm => ?_
        rcases List.mem_append.1 hm with hm | hm
        · exact hheld hm
        · obtain rfl := List.mem_singleton.1 hm
          exact .inr (.inl ⟨_, hwaiter⟩)
      exact hround.dropWaiter clientId requestId
    · split
      · have hround : Inv (s.goto thread (.collecting clientId left measurements)) log :=
          h.goto thread fun m hm => hheld hm
        exact (hround.dropWaiter clientId requestId).cancelProbe requestId
      · exact h

theorem Inv.sendProbe (h : Inv s log) (hreceived : s.received = none) (sending : ProbeSending)
    (t1UtcNs t1ServerMonotonicNs : Int) :
    Inv (s.sendProbe sending t1UtcNs t1ServerMonotonicNs)
      (s.note log (.sendProbe sending t1UtcNs t1ServerMonotonicNs)) := by
  unfold TimeSync.sendProbe
  cases hout : s.outgoing with
  | nil =>
    cases sending with
    | dropped | failed => exact h
    | sent =>
      dsimp only [note]
      rw [hout]
      split
      · next heq => cases heq
      · exact h
  | cons e outgoing =>
    obtain ⟨clientId, requestId⟩ := e
    have hunsent := h.unsent
    have hnodup := h.nodup
    rw [hout] at hunsent hnodup
    have htail : Inv { s with outgoing } log :=
      ⟨fun e he => hunsent e (List.mem_cons_of_mem _ he), (List.nodup_cons.1 hnodup).2, h.fresh,
        h.pending, h.held, h.current⟩
    cases sending with
    | dropped => exact htail
    | failed => exact htail.cancelProbe requestId
    | sent =>
      obtain ⟨hnone, hlt⟩ := hunsent (clientId, requestId) List.mem_cons_self
      have hnote : s.note log (.sendProbe .sent t1UtcNs t1ServerMonotonicNs) =
          log.send clientId requestId := by
        dsimp only [note]
        rw [hout, hreceived]
      rw [hnote]
      -- another probe is another request
      have hne {id n : Nat} (hid : log.begun id = some n) : id ≠ requestId := by
        rintro rfl
        rw [hnone] at hid
        cases hid
      refine ⟨fun e he => ?_, htail.nodup, fun id hid => ?_, fun id probe hget => ?_,
        fun m hm => ?_, h.current⟩
      · have hmem : e.2 ≠ requestId := by
          intro heq
          exact (List.nodup_cons.1 hnodup).1 (List.mem_map.2 ⟨e, he, heq⟩)
        simpa [hmem] using htail.unsent e he
      · by_cases heq : id = requestId
        · rw [heq]; exact hlt
        · exact h.fresh id (by simpa [heq] using hid)
      · have hget : (s.service.pendingProbes.set requestId _).get? id = some probe := hget
        rw [Dict.get?_set] at hget
        split at hget
        · next heq =>
          cases hget
          simp [heq]
        · next heq => simpa [heq] using h.pending id probe hget
      · have hbegun := h.held m hm
        simpa [hne hbegun] using hbegun

theorem Inv.receiveReply (h : Inv s log) (reply : TimeSyncReply) :
    Inv { s with service := (s.service.completeProbe reply).1
                 received := (s.service.completeProbe reply).2 } log := by
  have hcancel := h.cancelProbe reply.inReplyTo
  unfold TimeSyncService.completeProbe
  cases hget : s.service.pendingProbes.get? reply.inReplyTo with
  | none =>
    refine ⟨hcancel.unsent, hcancel.nodup, hcancel.fresh, hcancel.pending, fun m hm => ?_,
      hcancel.current⟩
    rcases hm with hm | hm | hm
    · exact h.held m (.inl hm)
    · exact h.held m (.inr (.inl hm))
    · cases hm
  | some probe =>
    refine ⟨hcancel.unsent, hcancel.nodup, hcancel.fresh, hcancel.pending, fun m hm => ?_,
      hcancel.current⟩
    rcases hm with hm | hm | hm
    · exact h.held m (.inl hm)
    · exact h.held m (.inr (.inl hm))
    · dsimp only at hm
      split at hm
      · next haccepts =>
        cases hm
        have hclient : probe.clientId = reply.clientId := by
          unfold PendingTimeSyncProbe.accepts at haccepts
          exact (of_decide_eq_true haccepts).1
        have hbegun := h.pending reply.inReplyTo probe hget
        rw [hclient] at hbegun
        exact hbegun
      · cases hm

theorem Inv.deliver (h : Inv s log) : Inv s.deliver log := by
  unfold TimeSync.deliver
  cases hreceived : s.received with
  | none => exact h
  | some taken =>
    dsimp only
    split
    · refine h.of_held rfl rfl (fun _ _ hget => hget) rfl fun m hm => ?_
      rcases hm with hm | ⟨key, hkey⟩ | hm
      · exact .inl hm
      · have hkey : (s.waiters.set (taken.clientId, taken.requestId) (some taken)).get? key =
          some (some m) := hkey
        rw [Dict.get?_set] at hkey
        split at hkey
        · cases hkey
          exact .inr (.inr hreceived)
        · exact .inr (.inl ⟨key, hkey⟩)
      · cases hm
    · refine h.of_held rfl rfl (fun _ _ hget => hget) rfl fun m hm => ?_
      rcases hm with hm | hm | hm
      · exact .inl hm
      · exact .inr (.inl hm)
      · cases hm

theorem Inv.step (h : Inv s log) {a : TimeSyncAction} (horderly : s.Orderly a) :
    Inv (s.step a) (s.note log a) := by
  cases a with
  | synchronizeClient thread clientId probeCount =>
    dsimp only [TimeSync.step, note]
    split
    · exact h.goto thread fun m hm => absurd hm List.not_mem_nil
    · exact h
  | advance thread timedOut => exact h.advance timedOut horderly
  | sendProbe sending t1UtcNs t1ServerMonotonicNs =>
    dsimp only [TimeSync.step]
    split
    · next hreceived => exact h.sendProbe hreceived sending _ _
    · next hreceived =>
      have hnote : s.note log (.sendProbe sending t1UtcNs t1ServerMonotonicNs) = log := by
        unfold note
        split
        · split
          · next hnone _ => exact absurd hnone hreceived
          · rfl
        all_goals first | rfl | contradiction
      rw [hnote]
      exact h
  | receiveReply reply =>
    dsimp only [TimeSync.step, note]
    split
    · exact h.receiveReply reply
    · exact h
  | deliver => exact h.deliver
  | invalidateClient clientId => exact h.invalidate horderly
  | clear => exact h.clear horderly

/-! ## No state is stale -/

/-- Whatever a client is converted with was measured after the client has been invalidated last. -/
structure UpToDate (s : TimeSync) (log : SyncLog) : Prop where
  state : ∀ clientId state, s.service.clientStates.get? clientId = some state →
    log.origin clientId = some (log.invalidations clientId)
  converted : ∀ clientId clientMonotonicNs utcNs,
    s.service.clientMonotonicToUtc clientId clientMonotonicNs = some utcNs →
      log.origin clientId = some (log.invalidations clientId)

theorem Inv.upToDate (h : Inv s log) : UpToDate s log where
  state := h.current
  converted clientId clientMonotonicNs utcNs hconverted := by
    obtain ⟨state, hstate, _⟩ := Option.map_eq_some_iff.1 hconverted
    exact h.current clientId state hstate

theorem sync_not_stale {as : List TimeSyncAction}
    (h : Meets watch (fun x a => x.1.Orderly a) ({}, {}) as) {pre : List TimeSyncAction}
    (hpre : pre <+: as) :
    UpToDate (run watch ({}, {}) pre).1 (run watch ({}, {}) pre).2 := by
  have hstep (x : TimeSync × SyncLog) (a : TimeSyncAction) (h : Inv x.1 x.2)
      (horderly : x.1.Orderly a) : Inv (watch x a).1 (watch x a).2 := h.step horderly
  exact (run_invariant_along (I := fun x => Inv x.1 x.2) hstep inv_init h hpre).upToDate

/-- A round of one probe: it is sent at 100, received and answered by the client at 5, and the
answer is received at 102. -/
def roundOps : List TimeSyncAction :=
  [.synchronizeClient 0 [1] 1, .advance 0 false, .sendProbe .sent 1000 100,
    .receiveReply { clientId := [1], inReplyTo := 0, bootId := "a", c2ClientMonotonicNs := 5
                    c3ClientMonotonicNs := 5, t4ServerMonotonicNs := 102 },
    .deliver, .advance 0 false]

theorem sync_not_stale_round :
    Meets watch (fun x a => x.1.Orderly a) ({}, {})
        (.invalidateClient [1] :: roundOps ++ [.advance 0 false]) ∧
      UpToDate (run watch ({}, {}) (.invalidateClient [1] :: roundOps ++ [.advance 0 false])).1
        (run watch ({}, {}) (.invalidateClient [1] :: roundOps ++ [.advance 0 false])).2 := by
  have horderly : Meets watch (fun x a => x.1.Orderly a) ({}, {})
      (.invalidateClient [1] :: roundOps ++ [.advance 0 false]) := by
    refine ⟨fun m hm => ?_, trivial, trivial, trivial, trivial, trivial, trivial,
      fun hboot => ?_, trivial⟩
    · rcases hm with ⟨_, hm⟩ | ⟨_, hm⟩ | hm
      · cases hm
      · cases hm
      · cases hm
    · exact absurd hboot (by decide +kernel)
  exact ⟨horderly, sync_not_stale horderly (List.prefix_refl _)⟩

/-- The client is lost before the round ends, and the round ends with a state. -/
theorem sync_stale :
    ¬UpToDate (run watch ({}, {}) (roundOps ++ [.invalidateClient [1], .advance 0 false])).1
      (run watch ({}, {}) (roundOps ++ [.invalidateClient [1], .advance 0 false])).2 := by
  intro h
  have hconverted : (run watch ({}, {}) (roundOps ++ [.invalidateClient [1],
      .advance 0 false])).1.service.clientMonotonicToUtc [1] 7 = some 1003 := by decide +kernel
  exact absurd (h.converted _ _ _ hconverted) (by decide +kernel)

end MultiDAQ.Server.TimeSync
