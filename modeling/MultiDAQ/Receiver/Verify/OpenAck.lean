import MultiDAQ.Receiver.Verify.Threads

/-!
# Acknowledgements of OPEN_READY and CLOSE_READY

The listener waits for the completion of one token at a time. Between the moment it takes the token
and the moment the wait returns, the flags it looks at are set by the completions of that token only
(`AckAgrees`), so an older item that is handled late does not count. The wait succeeds exactly if the
last completion of its own token was a success (`ackReturned_iff`).
-/

namespace MultiDAQ.Receiver

open MultiDAQ.Lib

namespace ThreadEvent

/-- The event begins or ends a wait. -/
def ofWait : ThreadEvent → Bool
  | .ackBegun _ | .ackReturned _ _ => true
  | _ => false

/-- The handling of an item that carries the token: whether it succeeded. -/
def completion (token : UInt64) : ThreadEvent → Option Bool
  | .handled _ item ok => if item.openRequest = token ∧ token ≠ 0 then some ok else Option.none
  | _ => Option.none

theorem completion_handled (token : UInt64) (worker : Nat) (item : QueuedItem) (ok : Bool) :
    (handled worker item ok).completion token =
      if item.openRequest = token ∧ token ≠ 0 then some ok else Option.none := rfl

end ThreadEvent

/-- What follows the last of several elements follows each of them. -/
theorem subset_of_append_cons_eq {α : Type} {x y : α} {before since before' since' : List α}
    (h : before ++ x :: since = before' ++ y :: since') (hxy : x ≠ y) (hy : y ∉ since) :
    since ⊆ since' := by
  rcases List.append_eq_append_iff.1 h with ⟨mid, rfl, hmid⟩ | ⟨mid, rfl, hmid⟩
  · cases mid with
    | nil => exact absurd (List.cons.inj hmid).1 hxy
    | cons z mid =>
      obtain ⟨-, rfl⟩ := List.cons.inj hmid
      exact absurd (List.mem_append_right mid List.mem_cons_self) hy
  · cases mid with
    | nil => exact absurd (List.cons.inj hmid).1.symm hxy
    | cons z mid =>
      obtain ⟨-, rfl⟩ := List.cons.inj hmid
      exact fun e he => List.mem_append_right _ (List.mem_cons_of_mem _ he)

/-- The last handling of an item that carries the token. -/
def lastCompletion (token : UInt64) (events : List ThreadEvent) : Option Bool :=
  (events.filterMap (ThreadEvent.completion token)).getLast?

theorem lastCompletion_append (token : UInt64) (events : List ThreadEvent) (e : ThreadEvent) :
    lastCompletion token (events ++ [e]) =
      (e.completion token).or (lastCompletion token events) := by
  unfold lastCompletion
  rw [List.filterMap_append, List.filterMap_cons, List.filterMap_nil]
  cases e.completion token <;> simp

theorem exists_of_lastCompletion {token : UInt64} {events : List ThreadEvent} {ok : Bool}
    (h : lastCompletion token events = some ok) :
    ∃ worker item, .handled worker item ok ∈ events ∧ item.openRequest = token := by
  obtain ⟨e, he, hok⟩ := List.mem_filterMap.1 (List.mem_of_getLast? h)
  cases e with
  | handled worker item b =>
    by_cases htoken : item.openRequest = token ∧ token ≠ 0
    · obtain rfl : b = ok := Option.some.inj ((if_pos htoken).symm.trans hok)
      exact ⟨worker, item, he, htoken.1⟩
    · exact nomatch (if_neg htoken).symm.trans hok
  | _ => cases hok

namespace ReceiverThreads

variable {s : ReceiverThreads}

/-- The token of the request that the listener is busy with. -/
def waitsFor (s : ReceiverThreads) : Option UInt64 :=
  match s.listener with
  | .begun r token => if r.ready then some token else none
  | .waitingAck token => some token
  | _ => none

end ReceiverThreads

/-- The flags say what the last completion was. -/
def OpenAck.Holds (a : OpenAck) : Option Bool → Prop
  | none => a.openDone = false
  | some ok => a.openDone = true ∧ a.openSuccess = ok

theorem OpenAck.Holds.complete {a : OpenAck} {token : UInt64} {last : Option Bool}
    (h : a.Holds last) (hwaiting : a.openWaiting = token) (worker : Nat) (item : QueuedItem)
    (ok : Bool) : (a.completeOpenAck item.openRequest ok).Holds
      (((ThreadEvent.handled worker item ok).completion token).or last) ∧
    (a.completeOpenAck item.openRequest ok).openWaiting = token := by
  unfold OpenAck.completeOpenAck
  rw [ThreadEvent.completion_handled]
  by_cases hzero : item.openRequest = 0
  · rw [if_pos hzero, if_neg fun hi => hi.2 (hi.1.symm.trans hzero)]
    exact ⟨h, hwaiting⟩
  · rw [if_neg hzero, hwaiting]
    by_cases htoken : token = item.openRequest
    · rw [if_pos htoken, if_pos ⟨htoken.symm, htoken ▸ hzero⟩]
      exact ⟨⟨rfl, rfl⟩, rfl⟩
    · rw [if_neg htoken, if_neg fun hi => htoken hi.1.symm]
      exact ⟨h, hwaiting⟩

theorem OpenAck.Holds.success {a : OpenAck} {token : UInt64} {last : Option Bool}
    (h : a.Holds last) (hwaiting : a.openWaiting = token) :
    (a.waitOpenAck token).1 = true ↔ last = some true := by
  show (decide (a.openWaiting = token) && a.openDone && a.openSuccess) = true ↔ _
  rw [decide_eq_true hwaiting, Bool.true_and, Bool.and_eq_true]
  cases last with
  | none =>
    have h : a.openDone = false := h
    simp [h]
  | some ok =>
    obtain ⟨hdone, hok⟩ := h
    simp [hdone, hok]

namespace ReceiverThreads

variable {s s' : ReceiverThreads} {a : Action} {events : List ThreadEvent} {e : ThreadEvent}

/-- Since the listener took its token, no other wait has begun or ended, and the flags say what the
last completion of the token was. -/
def AckAgrees (s : ReceiverThreads) (events : List ThreadEvent) : Prop :=
  ∀ token, s.waitsFor = some token → ∃ before since,
    events = before ++ .ackBegun token :: since ∧ (∀ e ∈ since, e.ofWait = false) ∧
    s.openAck.openWaiting = token ∧ s.openAck.Holds (lastCompletion token since)

theorem ackAgrees_of_none (h : s.waitsFor = none) : AckAgrees s events := fun _ hw =>
  nomatch h.symm.trans hw

theorem waitsFor_of_listener {l : Listener} (h : s.listener = l) :
    s.waitsFor = ({ listener := l } : ReceiverThreads).waitsFor := by
  unfold waitsFor
  rw [h]

/-- A step that has nothing to do with the wait. -/
theorem AckAgrees.frame (h : AckAgrees s events) (hwaits : s'.waitsFor = s.waitsFor)
    (hack : s'.openAck = s.openAck) (hwait : e.ofWait = false)
    (hcompletion : ∀ token, e.completion token = none) : AckAgrees s' (events ++ [e]) := by
  intro token hw
  obtain ⟨before, since, rfl, hsince, hwaiting, hholds⟩ := h token (hwaits ▸ hw)
  refine ⟨before, since ++ [e], by simp, fun x hx => ?_, hack ▸ hwaiting, ?_⟩
  · rcases List.mem_append.1 hx with hx | hx
    · exact hsince x hx
    · exact List.mem_singleton.1 hx ▸ hwait
  · rw [lastCompletion_append, hcompletion token, hack]
    exact hholds

theorem AckAgrees.quiet (h : AckAgrees s events) (hwaits : s'.waitsFor = s.waitsFor)
    (hack : s'.openAck = s.openAck) : AckAgrees s' (events ++ [.none]) :=
  h.frame hwaits hack rfl fun _ => rfl

theorem ackAgrees_step (h : AckAgrees s events) (ht : s.Takes a s' e) :
    AckAgrees s' (events ++ [e]) := by
  cases ht with
  | unchanged => exact h.quiet rfl rfl
  | scheduled => exact h.frame rfl rfl rfl fun _ => rfl
  | accepted | pendingChecked | listenerStops => exact ackAgrees_of_none rfl
  | @ackBegins r _ hready =>
    intro token hw
    have hw : (if r.ready then some s.openAck.beginOpenAck.1 else none) = some token := hw
    rw [if_pos hready] at hw
    obtain rfl := Option.some.inj hw
    exact ⟨events, [], rfl, List.forall_mem_nil _, rfl, rfl⟩
  | @noAck r _ hready => exact ackAgrees_of_none (if_neg (by simp [hready]))
  | @queues r token listener =>
    have hbefore : s.waitsFor = if r.ready then some token else none :=
      waitsFor_of_listener listener
    refine h.frame (hbefore ▸ ?_) rfl rfl fun _ => rfl
    show (match (if r.ready then Listener.waitingAck token else .polling) with
      | .begun r token => if r.ready then some token else none
      | .waitingAck token => some token
      | _ => none) = _
    cases r.ready <;> rfl
  | ackReturns => exact ackAgrees_of_none rfl
  | closeStops | closeSelected | closeCleared | batchTaken | clock | stop => exact h.quiet rfl rfl
  | closeQueued | dataQueued => exact h.frame rfl rfl rfl fun _ => rfl
  | @handled worker item rest ok _ =>
    intro token hw
    obtain ⟨before, since, rfl, hsince, hwaiting, hholds⟩ := h token hw
    obtain ⟨hholds', hwaiting'⟩ := hholds.complete hwaiting worker item ok
    refine ⟨before, since ++ [.handled worker item ok], by simp, fun x hx => ?_, hwaiting', ?_⟩
    · rcases List.mem_append.1 hx with hx | hx
      · exact hsince x hx
      · exact List.mem_singleton.1 hx ▸ rfl
    · rw [lastCompletion_append]
      exact hholds'

theorem ackAgrees_run (actions : List Action) :
    AckAgrees (finalState step {} actions) (outputs step {} actions) :=
  outputs_invariant (I := AckAgrees) (C := fun _ => True)
    (fun s _ a h _ => ackAgrees_step h (step_cases s a)) (ackAgrees_of_none rfl) fun _ _ => trivial

theorem of_takes_ackReturned {token : UInt64} {ok : Bool}
    (ht : s.Takes a s' (.ackReturned token ok)) :
    s.waitsFor = some token ∧ ok = (s.openAck.waitOpenAck token).1 := by
  cases ht with
  | ackReturns listener => exact ⟨waitsFor_of_listener listener, rfl⟩

/-- A wait returns success exactly if the last completion of its own token since the token was taken
was a success; and the completion it is due to came after every wait that had returned before. -/
theorem ackReturned_iff {actions : List Action} {pre post : List ThreadEvent} {token : UInt64}
    {ok : Bool} (h : outputs step {} actions = pre ++ .ackReturned token ok :: post) :
    (∃ before since, pre = before ++ .ackBegun token :: since ∧ (∀ e ∈ since, e.ofWait = false) ∧
      (ok = true ↔ lastCompletion token since = some true)) ∧
    (ok = true → ∀ before token' ok' since, pre = before ++ .ackReturned token' ok' :: since →
      ∃ worker item, .handled worker item true ∈ since ∧ item.openRequest = token) := by
  obtain ⟨actions₁, a, -, -, hpre, hreturned, -⟩ := outputs_eq_append_cons h
  have ht := step_cases (finalState step {} actions₁) a
  rw [hreturned] at ht
  obtain ⟨hwaits, hok⟩ := of_takes_ackReturned ht
  have hagrees := ackAgrees_run actions₁
  rw [hpre] at hagrees
  obtain ⟨before, since, hsplit, hsince, hwaiting, hholds⟩ := hagrees token hwaits
  have hiff : ok = true ↔ lastCompletion token since = some true := by
    rw [hok]
    exact hholds.success hwaiting
  refine ⟨⟨before, since, hsplit, hsince, hiff⟩, fun hsuccess before' token' ok' since' hreturn => ?_⟩
  obtain ⟨worker, item, hmem, htoken⟩ := exists_of_lastCompletion (hiff.1 hsuccess)
  have hnotMem : ThreadEvent.ackReturned token' ok' ∉ since := fun hret => nomatch hsince _ hret
  exact ⟨worker, item, subset_of_append_cons_eq (hsplit.symm.trans hreturn) nofun hnotMem hmem,
    htoken⟩

/-- The file of tank `A` is opened too late for its request, while tank `B` waits for its own. -/
def lateOpen : List Action :=
  [.request (.queue (.opening true [65])), .pendingChecked, .ackBegins, .queues, .ackReturns,
    .request (.queue (.opening true [66])), .pendingChecked, .ackBegins, .queues,
    .batchTaken (workerOf [65]), .itemHandled (workerOf [65]) false,
    .batchTaken (workerOf [66]), .itemHandled (workerOf [66]) true]

theorem ackReturned_lateOpen :
    ∃ before since, outputs step {} lateOpen = before ++ .ackBegun 2 :: since ∧
      lastCompletion 2 since = some true := by
  have h : outputs step {} (lateOpen ++ [.ackReturns]) =
      outputs step {} lateOpen ++ .ackReturned 2 true :: [] := by
    decide +kernel
  obtain ⟨before, since, hsplit, -, hiff⟩ := (ackReturned_iff h).1
  exact ⟨before, since, hsplit, hiff.1 rfl⟩

end ReceiverThreads

end MultiDAQ.Receiver
