import MultiDAQ.Server.Verify.StreamState
import Mathlib.Data.List.Infix

/-!
# A subscription that is undone

While a subscription, or the end of one, waits for the answer of the client, the samples that arrive
are delivered, and the next delivery of each consumer that is due is moved on. When the client does
not accept the change, the copy from before the change is put back. The stream is then as if the
call had not been made, unless a consumer has been served in the meantime: its delivery is
forgotten, and it is served again too soon.
-/

namespace MultiDAQ.Server

open MultiDAQ.Lib

/-! ## Deliveries -/

namespace StreamSubscription

theorem lt_skipTo (intervalNs nowNs : Int) (h : 0 < intervalNs) (nextNs : Int) :
    nowNs < skipTo intervalNs nowNs h nextNs := by
  fun_induction skipTo intervalNs nowNs h nextNs with
  | case1 nextNs _ ih => exact ih
  | case2 nextNs hnext => exact Int.not_le.1 hnext

variable (sub : StreamSubscription)

theorem deliver_of_not_due {nowNs : Int} (h : nowNs < sub.nextDeliveryNs) :
    sub.deliver nowNs = sub := by
  simp [deliver, isDue, h]

theorem lt_deliver (nowNs : Int) : nowNs < (sub.deliver nowNs).nextDeliveryNs := by
  unfold deliver
  split
  · exact lt_skipTo _ nowNs _ _
  next h => simpa [isDue] using h

theorem le_deliver (nowNs : Int) : sub.nextDeliveryNs ≤ (sub.deliver nowNs).nextDeliveryNs := by
  by_cases h : nowNs < sub.nextDeliveryNs
  · exact Int.le_of_eq (congrArg nextDeliveryNs (sub.deliver_of_not_due h)).symm
  · exact Int.le_trans (Int.not_lt.1 h) (Int.le_of_lt (sub.lt_deliver nowNs))

end StreamSubscription

/-- What the samples that arrive at these times do to a stream, if there is one. -/
def deliverAll (stream : Option MonitorStreamState) (times : List Int) :
    Option MonitorStreamState :=
  run (fun stream nowNs => stream.map (·.deliver nowNs)) stream times

/-- No consumer of the stream is due at this time. -/
def NoneDue (stream : Option MonitorStreamState) (nowNs : Int) : Prop :=
  ∀ state, stream = some state → ∀ consumer sub, state.consumers.get? consumer = some sub →
    nowNs < sub.nextDeliveryNs

@[simp] theorem deliverAll_nil (stream : Option MonitorStreamState) :
    deliverAll stream [] = stream := rfl

theorem deliverAll_cons (stream : Option MonitorStreamState) (nowNs : Int) (times : List Int) :
    deliverAll stream (nowNs :: times) = deliverAll (stream.map (·.deliver nowNs)) times := rfl

theorem deliverAll_append (stream : Option MonitorStreamState) (times times' : List Int) :
    deliverAll stream (times ++ times') = deliverAll (deliverAll stream times) times' :=
  run_append stream times times'

theorem map_deliver_of_noneDue {stream : Option MonitorStreamState} {nowNs : Int}
    (h : NoneDue stream nowNs) : stream.map (·.deliver nowNs) = stream := by
  cases stream with
  | none => rfl
  | some state =>
    have hsame : state.consumers.mapVals (fun _ sub => sub.deliver nowNs) = state.consumers :=
      Dict.mapVals_eq_self fun consumer sub hentry =>
        sub.deliver_of_not_due (h state rfl consumer sub (Dict.mem_entries.1 hentry))
    simp [MonitorStreamState.deliver, hsame]

theorem get?_deliver {state : MonitorStreamState} {consumer : String} {sub : StreamSubscription}
    (nowNs : Int) (hsub : state.consumers.get? consumer = some sub) :
    (state.deliver nowNs).consumers.get? consumer = some (sub.deliver nowNs) := by
  simp [MonitorStreamState.deliver, hsub]

/-- The consumers stay, and no delivery is moved back. -/
theorem le_deliverAll {state : MonitorStreamState} {consumer : String} {sub : StreamSubscription}
    (times : List Int) (hsub : state.consumers.get? consumer = some sub) :
    ∃ state' sub', deliverAll (some state) times = some state' ∧
      state'.consumers.get? consumer = some sub' ∧ sub.nextDeliveryNs ≤ sub'.nextDeliveryNs := by
  induction times generalizing state sub with
  | nil => exact ⟨state, sub, rfl, hsub, Int.le_refl _⟩
  | cons nowNs times ih =>
    obtain ⟨state', sub', hstate', hsub', hle⟩ := ih (get?_deliver nowNs hsub)
    exact ⟨state', sub', hstate', hsub', Int.le_trans (sub.le_deliver nowNs) hle⟩

theorem deliverAll_none (times : List Int) : deliverAll none times = none := by
  induction times with
  | nil => rfl
  | cons nowNs times ih => exact ih

theorem deliverAll_some (state : MonitorStreamState) (consumer : String) (times : List Int) :
    ∃ state', deliverAll (some state) times = some state' ∧
      (state'.consumers.get? consumer = none ↔ state.consumers.get? consumer = none) := by
  induction times generalizing state with
  | nil => exact ⟨state, rfl, Iff.rfl⟩
  | cons nowNs times ih =>
    obtain ⟨state', hstate', hnone⟩ := ih (state.deliver nowNs)
    refine ⟨state', hstate', hnone.trans ?_⟩
    simp [MonitorStreamState.deliver]

/-- The samples leave a stream as it is exactly when they find no consumer due. -/
theorem deliverAll_eq_self_iff (stream : Option MonitorStreamState) (times : List Int) :
    deliverAll stream times = stream ↔ ∀ nowNs ∈ times, NoneDue stream nowNs := by
  induction times with
  | nil => simp
  | cons nowNs times ih =>
    have hhead (h : deliverAll stream (nowNs :: times) = stream) : NoneDue stream nowNs := by
      intro state hstate consumer sub hsub
      subst hstate
      obtain ⟨state', sub', hstate', hsub', hle⟩ := le_deliverAll times (get?_deliver nowNs hsub)
      obtain rfl : state' = state := Option.some.inj (hstate'.symm.trans h)
      obtain rfl : sub' = sub := Option.some.inj (hsub'.symm.trans hsub)
      exact Int.lt_of_lt_of_le (sub'.lt_deliver nowNs) hle
    rw [List.forall_mem_cons]
    constructor
    · intro h
      have hnone := hhead h
      rw [deliverAll_cons, map_deliver_of_noneDue hnone] at h
      exact ⟨hnone, ih.1 h⟩
    · rintro ⟨hnone, hrest⟩
      rw [deliverAll_cons, map_deliver_of_noneDue hnone]
      exact ih.2 hrest

/-! ## A call that fails -/

/-- The end of a subscription that is not there. -/
def SubscriptionCall.Vain (s : Streamers) : SubscriptionCall → Prop
  | .subscribe _ _ _ => False
  | .unsubscribe key consumer =>
    ∀ state, s.get? key = some state → state.consumers.get? consumer = none

/-- The times of the samples of a stream. -/
def deliveriesOf (key : StreamKey) (as : List StreamAction) : List Int :=
  as.filterMap fun
    | .getDue key' nowNs => if key' = key then some nowNs else none
    | _ => none

theorem changeSubscription_error {s : Streamers} {call : SubscriptionCall} {nowNs : Int}
    (h : MonitorStreams.changeSubscription s nowNs call = .error .failure) : call.Vain s := by
  cases call with
  | subscribe key consumer requestedIntervalNs =>
    simp only [MonitorStreams.changeSubscription, Streamers.addOrUpdateSubscription] at h
    split at h <;> cases h
  | unsubscribe key consumer =>
    simp only [MonitorStreams.changeSubscription, Streamers.removeSubscription] at h
    intro state hstate
    rw [hstate] at h
    dsimp only at h
    split at h
    · cases h
    next hcontains => exact Option.not_isSome_iff_eq_none.1 hcontains

theorem changeSubscription_ok {s s' : Streamers} {call : SubscriptionCall} {nowNs : Int}
    {update : StreamUpdateResult}
    (h : MonitorStreams.changeSubscription s nowNs call = .ok (s', update)) : ¬ call.Vain s := by
  cases call with
  | subscribe key consumer requestedIntervalNs => exact id
  | unsubscribe key consumer =>
    simp only [MonitorStreams.changeSubscription, Streamers.removeSubscription] at h
    intro hvain
    split at h
    · cases h
    next state hstate =>
      split at h
      next hcontains =>
        rw [Dict.contains, hvain state hstate] at hcontains
        cases hcontains
      · cases h

/-- Samples do not bring or take away consumers. -/
theorem vain_of_deliverAll {s s' : Streamers} {call : SubscriptionCall} {times : List Int}
    (h : s'.get? call.key = deliverAll (s.get? call.key) times) :
    call.Vain s' ↔ call.Vain s := by
  cases call with
  | subscribe key consumer requestedIntervalNs => exact Iff.rfl
  | unsubscribe key consumer =>
    show (∀ state, s'.get? key = some state → _) ↔ ∀ state, s.get? key = some state → _
    replace h : s'.get? key = deliverAll (s.get? key) times := h
    cases hs : s.get? key with
    | none =>
      rw [h, hs, deliverAll_none]
    | some state =>
      obtain ⟨state', hstate', hnone⟩ := deliverAll_some state consumer times
      rw [h, hs, hstate']
      simpa using hnone

namespace MonitorStreams

variable {s : MonitorStreams} {t : Nat} {call : SubscriptionCall}

/-- The run in which the call holds its producer lock, from the state in which it takes it to the
one in which it has reported failure. -/
structure Failing (s : MonitorStreams) (t : Nat) (call : SubscriptionCall)
    (as : List StreamAction) : Prop where
  called : s.tasks t = .called (.subscription call)
  inFlight : ∀ pre, pre <+: as → pre ≠ [] → pre ≠ as → ((run step s pre).tasks t).holds ≠ none
  failed : (run step s as).tasks t = .returned .failure

/-- Between the copy and the answer of the client, the call knows the stream from before. Before the
change the stream has only seen samples. -/
def InFlight (s₀ : Streamers) (call : SubscriptionCall) (times : List Int) (t : Nat)
    (s : MonitorStreams) : Prop :=
  (s.tasks t = .copied call (s₀.get? call.key) ∧
      s.streamers.get? call.key = deliverAll (s₀.get? call.key) times) ∨
    (∃ update, s.tasks t = .requested call (s₀.get? call.key) update) ∧ ¬ call.Vain s₀

theorem InFlight.holds {s₀ : Streamers} {times : List Int} (h : InFlight s₀ call times t s) :
    (s.tasks t).holds = some call.key := by
  rcases h with ⟨htask, -⟩ | ⟨⟨update, htask⟩, -⟩ <;> rw [htask] <;> rfl

theorem Moved.tasks_other {s' : MonitorStreams} {u : Nat} (hmove : Moved s u s') (hne : t ≠ u) :
    s'.tasks t = s.tasks t := by
  have htask (task : StreamTask) : Function.update s.tasks u task t = s.tasks t :=
    Function.update_of_ne hne task s.tasks
  cases hmove with
  | stay => rfl
  | goto | change | lock | unlock => exact htask _

/-- A thread that does not hold the producer lock leaves the stream alone. -/
theorem Moved.streamers_other {s' : MonitorStreams} {u : Nat} {key : StreamKey} (h : Inv s)
    (hmove : Moved s u s') (hne : t ≠ u) (hkey : (s.tasks t).holds = some key) :
    s'.streamers.get? key = s.streamers.get? key := by
  have hlock : s.producerLocks key = some t := (h.locks t key).2 hkey
  have hother (key' : StreamKey) (hkey' : (s.tasks u).holds = some key') : key ≠ key' := by
    rintro rfl
    exact hne (Option.some.inj (hlock.symm.trans ((h.locks u key).2 hkey')))
  cases hmove with
  | stay => rfl
  | goto => rfl
  | lock => rfl
  | @change streamers task key' _ _ htouch hkey' =>
    refine htouch.frame key ?_
    rcases hkey' with hkey' | hfree
    · exact hother key' hkey'
    · rintro rfl
      rw [hlock] at hfree
      cases hfree
  | @unlock streamers task key' _ hkey' _ htouch =>
    exact htouch.frame key (hother key' hkey')

/-- What a failing call leaves of the stream. -/
def LeftBy (s₀ : Streamers) (call : SubscriptionCall) (times : List Int)
    (stream : Option MonitorStreamState) : Prop :=
  call.Vain s₀ ∧ stream = deliverAll (s₀.get? call.key) times ∨
    ¬ call.Vain s₀ ∧ stream = s₀.get? call.key

theorem get?_restoreStreamState (s : Streamers) (key : StreamKey)
    (previous : Option MonitorStreamState) :
    (s.restoreStreamState key previous).get? key = previous := by
  cases previous <;> simp [Streamers.restoreStreamState]

theorem tasks_goto (s : MonitorStreams) (t : Nat) (task : StreamTask) :
    (s.goto t task).tasks t = task := by
  show Function.update s.tasks t task t = task
  rw [Function.update_self]

/-- The next step of the call itself. -/
theorem inFlight_advance {s₀ : Streamers} {times : List Int} (h : InFlight s₀ call times t s)
    (nowNs : Int) (reply : StreamOutcome) :
    InFlight s₀ call times t (s.advance t nowNs reply) ∨
      ∃ outcome, (s.advance t nowNs reply).tasks t = .returned outcome ∧
        (outcome = .failure →
          LeftBy s₀ call times ((s.advance t nowNs reply).streamers.get? call.key)) := by
  unfold advance
  rcases h with ⟨htask, hstream⟩ | ⟨⟨update, htask⟩, hvain⟩
  · rw [htask]
    dsimp only
    unfold changeStream
    split
    next outcome hchange =>
      refine .inr ⟨outcome, tasks_goto _ t _, ?_⟩
      rintro rfl
      exact .inl ⟨(vain_of_deliverAll hstream).1 (changeSubscription_error hchange), hstream⟩
    next streamers update hchange =>
      refine .inl (.inr ⟨⟨update, tasks_goto _ t _⟩, fun hvain => ?_⟩)
      exact changeSubscription_ok hchange ((vain_of_deliverAll hstream).2 hvain)
  · rw [htask]
    dsimp only
    unfold endChange
    split
    next => exact .inr ⟨.success, tasks_goto _ t _, fun hfailure => by cases hfailure⟩
    next =>
      exact .inr ⟨.failure, tasks_goto _ t _, fun _ =>
        .inr ⟨hvain, get?_restoreStreamState _ call.key _⟩⟩

theorem get?_getDueSubscriptions (s : Streamers) (key key' : StreamKey) (nowNs : Int) :
    (s.getDueSubscriptions key' nowNs).1.get? key =
      if key' = key then (s.get? key).map (·.deliver nowNs) else s.get? key := by
  unfold Streamers.getDueSubscriptions
  split
  next hnone =>
    split
    next hkey => rw [← hkey, hnone]; rfl
    · rfl
  next state hstate =>
    by_cases hkey : key' = key
    · subst hkey
      simp [hstate]
    · simp [hkey, Ne.symm hkey]

/-- Any step while the call is in flight. -/
theorem inFlight_step {s₀ : Streamers} {times : List Int} (hinv : Inv s)
    (h : InFlight s₀ call times t s) (a : StreamAction) :
    InFlight s₀ call (times ++ deliveriesOf call.key [a]) t (s.step a) ∨
      ∃ outcome, (s.step a).tasks t = .returned outcome ∧ (outcome = .failure →
        LeftBy s₀ call (times ++ deliveriesOf call.key [a])
          ((s.step a).streamers.get? call.key)) := by
  have hkept {s' : MonitorStreams} (htask : s'.tasks t = s.tasks t)
      (hstream : s'.streamers.get? call.key = s.streamers.get? call.key) :
      InFlight s₀ call (times ++ []) t s' := by
    unfold InFlight at h ⊢
    rwa [htask, hstream, List.append_nil]
  cases a with
  | call u c =>
    refine .inl ?_
    by_cases hu : t = u
    · subst hu
      refine hkept ?_ ?_ <;>
      rcases h with ⟨htask, -⟩ | ⟨⟨update, htask⟩, -⟩ <;> simp [step, htask]
    · show InFlight s₀ call (times ++ []) t (s.step (.call u c))
      unfold step
      dsimp only
      split
      · exact hkept (Function.update_of_ne hu _ _) rfl
      · exact hkept (Function.update_of_ne hu _ _) rfl
      · exact hkept rfl rfl
  | advance u nowNs reply =>
    show InFlight s₀ call (times ++ []) t (s.advance u nowNs reply) ∨ ∃ outcome,
      (s.advance u nowNs reply).tasks t = .returned outcome ∧ (outcome = .failure →
        LeftBy s₀ call (times ++ []) ((s.advance u nowNs reply).streamers.get? call.key))
    by_cases hu : t = u
    · subst hu
      rw [List.append_nil]
      exact inFlight_advance h nowNs reply
    · have hmove := moved_advance hinv u nowNs reply
      exact .inl (hkept (hmove.tasks_other hu) (hmove.streamers_other hinv hu h.holds))
  | getDue key nowNs =>
    refine .inl ?_
    rcases h with ⟨htask, hstream⟩ | hrequested
    · refine .inl ⟨htask, ?_⟩
      show (s.streamers.getDueSubscriptions key nowNs).1.get? call.key = _
      rw [get?_getDueSubscriptions, hstream, deliverAll_append]
      by_cases hkey : key = call.key <;> simp [deliveriesOf, hkey, deliverAll_cons]
    · exact .inr hrequested

theorem deliveriesOf_cons (key : StreamKey) (a : StreamAction) (as : List StreamAction) :
    deliveriesOf key (a :: as) = deliveriesOf key [a] ++ deliveriesOf key as := by
  rw [← List.singleton_append]
  exact List.filterMap_append

/-- The call is taken to its end from any point of its flight. -/
theorem leftBy_of_inFlight {s₀ : Streamers} {times : List Int} {as : List StreamAction}
    (hinv : Inv s) (h : InFlight s₀ call times t s)
    (hflight : ∀ pre, pre <+: as → pre ≠ as → ((run step s pre).tasks t).holds ≠ none)
    (hfailed : (run step s as).tasks t = .returned .failure) :
    LeftBy s₀ call (times ++ deliveriesOf call.key as)
      ((run step s as).streamers.get? call.key) := by
  induction as generalizing s times with
  | nil =>
    have hholds := h.holds
    rw [show s.tasks t = _ from hfailed] at hholds
    cases hholds
  | cons a as ih =>
    rw [deliveriesOf_cons, ← List.append_assoc]
    rcases inFlight_step hinv h a with hnext | ⟨outcome, htask, hleft⟩
    · refine ih (hinv.step a) hnext (fun pre hpre hne => ?_) hfailed
      exact hflight (a :: pre) (List.cons_prefix_cons.2 ⟨rfl, hpre⟩) fun heq =>
        hne (List.cons.inj heq).2
    · -- the call has returned, so the run is at its end
      cases as with
      | nil =>
        rw [show (s.step a).tasks t = _ from hfailed] at htask
        cases htask
        simpa [deliveriesOf] using hleft rfl
      | cons b bs =>
        refine absurd ?_ (hflight [a] ⟨b :: bs, rfl⟩ (by simp))
        show ((s.step a).tasks t).holds = none
        rw [htask]
        rfl

/-- The step in which the call takes its producer lock, or finds nothing to do. -/
theorem called_step {a : StreamAction} (hinv : Inv s)
    (h : s.tasks t = .called (.subscription call)) :
    ((s.step a).tasks t).holds = none ∧ (s.step a).tasks t ≠ .returned .failure ∨
      deliveriesOf call.key [a] = [] ∧ (InFlight s.streamers call [] t (s.step a) ∨
        (s.step a).tasks t = .returned .failure ∧ call.Vain s.streamers ∧
          (s.step a).streamers = s.streamers) := by
  have hstays {s' : MonitorStreams} (htask : s'.tasks t = s.tasks t) :
      (s'.tasks t).holds = none ∧ s'.tasks t ≠ .returned .failure := by
    rw [htask, h]
    exact ⟨rfl, nofun⟩
  cases a with
  | getDue key nowNs => exact .inl (hstays rfl)
  | call u c =>
    refine .inl ?_
    by_cases hu : t = u
    · subst hu
      refine hstays ?_
      simp [step, h]
    · unfold step
      dsimp only
      split
      · exact hstays (Function.update_of_ne hu _ _)
      · exact hstays (Function.update_of_ne hu _ _)
      · exact hstays rfl
  | advance u nowNs reply =>
    by_cases hu : t = u
    · subst hu
      have hstep : s.step (.advance t nowNs reply) = s.copyStream t call := by
        show s.advance t nowNs reply = _
        unfold advance
        rw [h]
      rw [hstep]
      unfold copyStream
      split
      · exact .inl (hstays rfl)
      · refine .inr ⟨rfl, ?_⟩
        split
        next key consumer hnone =>
          refine .inr ⟨tasks_goto s t _, fun state hstate => ?_, rfl⟩
          cases hnone.symm.trans hstate
        next => exact .inl (.inl ⟨tasks_goto _ t _, rfl⟩)
    · exact .inl (hstays ((moved_advance hinv u nowNs reply).tasks_other hu))

/-- A call that has reported failure leaves the stream as the samples alone would have left it
exactly when it has changed nothing, or when no consumer was due while it was in flight. -/
theorem failing_leaves_iff {as : List StreamAction} (hinv : Inv s) (h : Failing s t call as) :
    (run step s as).streamers.get? call.key =
        deliverAll (s.streamers.get? call.key) (deliveriesOf call.key as) ↔
      call.Vain s.streamers ∨
        ∀ nowNs ∈ deliveriesOf call.key as, NoneDue (s.streamers.get? call.key) nowNs := by
  have hleft : LeftBy s.streamers call (deliveriesOf call.key as)
      ((run step s as).streamers.get? call.key) := by
    cases as with
    | nil => exact absurd (h.called.symm.trans h.failed) nofun
    | cons a as =>
      rcases called_step hinv h.called with ⟨hholds, hreturned⟩ | ⟨htimes, hnext⟩
      · cases as with
        | nil => exact absurd h.failed hreturned
        | cons b bs => exact absurd hholds (h.inFlight [a] ⟨b :: bs, rfl⟩ (by simp) (by simp))
      · rw [deliveriesOf_cons, htimes]
        rcases hnext with hflight | ⟨hreturned, hvain, hsame⟩
        · refine leftBy_of_inFlight (hinv.step a) hflight (fun pre hpre hne => ?_) h.failed
          exact h.inFlight (a :: pre) (List.cons_prefix_cons.2 ⟨rfl, hpre⟩) (List.cons_ne_nil a pre)
            fun heq => hne (List.cons.inj heq).2
        · cases as with
          | nil => exact .inl ⟨hvain, by rw [run_cons, run_nil, hsame]; rfl⟩
          | cons b bs =>
            refine absurd ?_ (h.inFlight [a] ⟨b :: bs, rfl⟩ (by simp) (by simp))
            show ((s.step a).tasks t).holds = none
            rw [hreturned]
            rfl
  rcases hleft with ⟨hvain, hstream⟩ | ⟨hvain, hstream⟩
  · exact iff_of_true hstream (.inl hvain)
  · rw [hstream, eq_comm, deliverAll_eq_self_iff]
    exact (or_iff_right hvain).symm

/-- After any run, every stream is as `stream_consistent` says. A call that reports failure, from
wherever a run has come to, leaves its stream as if it had not been made exactly when it has changed
nothing, or when no consumer that was there before it was due while it was in flight. -/
theorem streams_kept (before : List StreamAction) :
    (∀ key stream, (run step {} before).streamers.get? key = some stream →
      stream.SmallestInterval stream.desiredProducerIntervalNs ∧
        (stream.active = true ↔ stream.activeProducerIntervalNs ≠ none)) ∧
    ∀ as t call, Failing (run step {} before) t call as →
      ((run step {} (before ++ as)).streamers.get? call.key =
          deliverAll ((run step {} before).streamers.get? call.key) (deliveriesOf call.key as) ↔
        call.Vain (run step {} before).streamers ∨
          ∀ nowNs ∈ deliveriesOf call.key as,
            NoneDue ((run step {} before).streamers.get? call.key) nowNs) := by
  refine ⟨fun key stream => stream_consistent before, fun as t call h => ?_⟩
  rw [run_append]
  exact failing_leaves_iff (inv_run before) h

/-- A consumer that is subscribed, and a second one whose subscription is to be tried. -/
def subscribedOnce (key : StreamKey) : List StreamAction :=
  [.call 0 (.subscription (.subscribe key "persistence" 100)), .advance 0 0 .success,
    .advance 0 0 .success, .advance 0 0 .success,
    .call 1 (.subscription (.subscribe key "prometheus" 50))]

theorem failing_of_inits {as : List StreamAction}
    (hcalled : s.tasks t = .called (.subscription call))
    (hflight : ∀ pre ∈ as.inits, pre ≠ [] → pre ≠ as → ((run step s pre).tasks t).holds ≠ none)
    (hfailed : (run step s as).tasks t = .returned .failure) : Failing s t call as :=
  ⟨hcalled, fun pre hpre => hflight pre ((List.mem_inits pre as).2 hpre), hfailed⟩

/-- A subscription that the client refuses while no sample arrives. -/
theorem streams_kept_quiet :
    let key : StreamKey := ([1], .hv)
    let as : List StreamAction :=
      [.advance 1 0 .success, .advance 1 0 .success, .advance 1 0 .failure]
    (run step {} (subscribedOnce key ++ as)).streamers.get? key =
      (run step {} (subscribedOnce key)).streamers.get? key :=
  ((streams_kept (subscribedOnce ([1], .hv))).2 _ 1 (.subscribe ([1], .hv) "prometheus" 50)
    (failing_of_inits (by decide +kernel) (by decide +kernel) (by decide +kernel))).2
    (.inr (List.forall_mem_nil _))

/-- A sample is delivered to the first consumer, whose next delivery was at 0, while the second
waits for an answer. The client refuses, and the next delivery is at 0 again. -/
theorem delivery_forgotten :
    let key : StreamKey := ([1], .hv)
    let as : List StreamAction :=
      [.advance 1 0 .success, .advance 1 0 .success, .getDue key 100, .advance 1 0 .failure]
    Failing (run step {} (subscribedOnce key)) 1 (.subscribe key "prometheus" 50) as ∧
      (run step {} (subscribedOnce key ++ as)).streamers.get? key ≠
        deliverAll ((run step {} (subscribedOnce key)).streamers.get? key)
          (deliveriesOf key as) := by
  intro key as
  refine ⟨failing_of_inits (by decide +kernel) (by decide +kernel) (by decide +kernel), fun h => ?_⟩
  have hback : (run step {} (subscribedOnce key ++ as)).streamers.get? key =
      (run step {} (subscribedOnce key)).streamers.get? key := by
    decide +kernel
  have hnone := (deliverAll_eq_self_iff _ _).1 (h.symm.trans hback) 100 (by decide)
  have hdue : (100 : Int) < 0 := hnone _ rfl "persistence" _ rfl
  exact absurd hdue (by decide)

end MonitorStreams

end MultiDAQ.Server
