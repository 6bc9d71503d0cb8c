import MultiDAQ.Server.PlaneHello

/-!
# A hello before the admission on the control plane

A client says hello on a data plane once, at most `lateHelloGrace` before the control plane admits
it. If the client is to be registered exactly once for it, the hello must have been received by the
I/O loop of the acquisition plane: this is the only one that keeps it. The monitoring plane and
`handshake_core` forget a hello of a client that is not on the control plane yet.
-/

namespace MultiDAQ.Server.PlaneHello

open MultiDAQ.Lib MultiDAQ.Common

variable {s : PlaneHello} {plane : DataPlane} {a : PlaneAction}

/-! ## Statement -/

/-- No hello on this plane, no loss of the control plane, no stop of the listener, and the client
can be answered. -/
def Undisturbed (plane : DataPlane) : PlaneAction → Prop
  | .loseControl => False
  | .receive p _ message _ => p = plane → message.msgType ≠ .handshake
  | .turn p sent => p = plane → sent = true
  | .stopListener p => p ≠ plane
  | _ => True

instance (plane : DataPlane) (a : PlaneAction) : Decidable (Undisturbed plane a) := by
  cases a with
  | loseControl => exact .isFalse id
  | receive p _ message _ => exact inferInstanceAs (Decidable (p = plane → _))
  | turn p sent => exact inferInstanceAs (Decidable (p = plane → _))
  | stopListener p => exact inferInstanceAs (Decidable (p ≠ plane))
  | _ => exact .isTrue trivial

theorem Undisturbed.ne_loseControl (h : Undisturbed plane a) : a ≠ .loseControl := by
  rintro rfl
  exact h

/-- What has been noted of the client on this plane. -/
def eventsOn (s : PlaneHello) (plane : DataPlane) : List PlaneEvent :=
  s.history.filter fun e => e.plane = plane

/-- A run with one hello on the plane, and with one admission on the control plane that comes at
most `lateHelloGrace` after the hello, and before the end of a turn of the I/O loop. -/
structure OneHello (plane : DataPlane) (hello : PlaneAction) (before after : List PlaneAction) :
    Prop where
  undisturbed : ∀ a ∈ before ++ after, Undisturbed plane a
  admittedOnce : (before ++ after).count .admitControl = 1
  inTime : ∀ meanwhile rest, after = meanwhile ++ .admitControl :: rest →
    (run step (step (run step {} before) hello) meanwhile).clock ≤
        (run step {} before).clock + lateHelloGrace ∧
      .turn plane true ∈ rest

/-! ## Steps that do not touch the plane -/

/-- The hello of the client that waits on this plane. -/
def waiting (s : PlaneHello) : DataPlane → Option PendingHello
  | .acquisition => s.pendingHello
  | .monitoring => none

/-- From `s` to `s'`, nothing happens to the client on this plane, unless it is lost there. -/
structure Unmoved (plane : DataPlane) (s s' : PlaneHello) : Prop where
  eventsOn : s'.eventsOn plane = s.eventsOn plane
  waiting : s'.waiting plane = s.waiting plane
  onPlane : s'.onPlane plane = true → s.onPlane plane = true

theorem Unmoved.refl (plane : DataPlane) (s : PlaneHello) : Unmoved plane s s := ⟨rfl, rfl, id⟩

theorem Unmoved.trans {s' s'' : PlaneHello} (h : Unmoved plane s s') (h' : Unmoved plane s' s'') :
    Unmoved plane s s'' where
  eventsOn := h'.eventsOn.trans h.eventsOn
  waiting := h'.waiting.trans h.waiting
  onPlane hp := h.onPlane (h'.onPlane hp)

theorem Unmoved.onPlane_false {s' : PlaneHello} (h : Unmoved plane s s')
    (hoff : s.onPlane plane = false) : s'.onPlane plane = false := by
  rw [Bool.eq_false_iff]
  intro hp
  exact Bool.eq_false_iff.1 hoff (h.onPlane hp)

/-- What `_accept_hello` does, if anything. -/
theorem acceptHello_cases (s : PlaneHello) (p : DataPlane) (message : PlaneMessage) (sent : Bool) :
    s.acceptHello p message sent = s ∨
      p.isHello message = true ∧ s.acceptHello p message sent =
        (if s.onPlane p then s.replace p else s).register p message.requestId := by
  unfold acceptHello
  split
  · exact .inl rfl
  · split
    · exact .inl rfl
    next hhello =>
      split
      · exact .inl rfl
      · exact .inr ⟨by simpa using hhello, rfl⟩

theorem acceptHello_of_control {message : PlaneMessage} (hc : s.onControl = true)
    (hm : plane.isHello message = true) : s.acceptHello plane message true =
      (if s.onPlane plane then s.replace plane else s).register plane message.requestId := by
  unfold acceptHello
  simp [hc, hm]

theorem acceptHello_of_not_control {message : PlaneMessage} (hc : s.onControl = false)
    (sent : Bool) : s.acceptHello plane message sent = s := by
  unfold acceptHello
  simp [hc]

theorem msgType_of_isHello {message : PlaneMessage} (h : plane.isHello message = true) :
    message.msgType = .handshake := by
  unfold DataPlane.isHello at h
  exact (of_decide_eq_true h).1

/-- A hello on another plane. -/
theorem unmoved_acceptHello {p : DataPlane} (hp : p ≠ plane) (message : PlaneMessage)
    (sent : Bool) : Unmoved plane s (s.acceptHello p message sent) := by
  rcases acceptHello_cases s p message sent with heq | ⟨-, heq⟩
  · rw [heq]
    exact .refl plane s
  · rw [heq]
    split
    · refine ⟨?_, ?_, ?_⟩
      · simp [eventsOn, register, replace, leave, PlaneEvent.plane, hp]
      · cases plane <;> rfl
      · simp [register, replace, leave, hp.symm]
    · refine ⟨?_, ?_, ?_⟩
      · simp [eventsOn, register, PlaneEvent.plane, hp]
      · cases plane <;> rfl
      · simp [register, hp.symm]

/-- A message that is no hello is left to others. -/
theorem unmoved_acceptHello_of_not_handshake {p : DataPlane} {message : PlaneMessage}
    (h : message.msgType ≠ .handshake) (sent : Bool) :
    Unmoved plane s (s.acceptHello p message sent) := by
  rcases acceptHello_cases s p message sent with heq | ⟨hhello, -⟩
  · rw [heq]
    exact .refl plane s
  · exact absurd (msgType_of_isHello hhello) h

theorem unmoved_handleLateHello {p : DataPlane} (hp : p ≠ plane) (message : PlaneMessage)
    (sent : Bool) : Unmoved plane s (s.handleLateHello p message sent) := by
  cases p with
  | acquisition =>
    unfold handleLateHello
    dsimp only
    split
    · cases plane with
      | acquisition => exact absurd rfl hp
      | monitoring => exact ⟨rfl, rfl, id⟩
    · exact unmoved_acceptHello hp message sent
  | monitoring => exact unmoved_acceptHello hp message sent

theorem unmoved_retryPendingHellos (hp : DataPlane.acquisition ≠ plane) (sent : Bool) :
    Unmoved plane s (s.retryPendingHellos sent) := by
  cases plane with
  | acquisition => exact absurd rfl hp
  | monitoring =>
    unfold retryPendingHellos
    split
    · exact .refl _ s
    · split
      next pending hpending hc =>
        have hrest :=
          unmoved_acceptHello (s := { s with pendingHello := none }) hp pending.message sent
        exact ⟨hrest.eventsOn, rfl, hrest.onPlane⟩
      next =>
        split
        · exact ⟨rfl, rfl, id⟩
        · exact .refl _ s

/-- Only the turn that finds a hello waiting changes something on the plane. -/
theorem unmoved_step (ha : Undisturbed plane a)
    (hturn : s.waiting plane = none ∨ ∀ sent, a ≠ .turn plane sent) :
    Unmoved plane s (s.step a) := by
  cases a with
  | wait duration => exact ⟨rfl, by cases plane <;> rfl, id⟩
  | admitControl =>
    unfold step
    dsimp only
    split
    · exact ⟨rfl, by cases plane <;> rfl, nofun⟩
    · exact ⟨rfl, by cases plane <;> rfl, id⟩
  | loseControl => exact absurd ha id
  | losePlane p =>
    refine ⟨rfl, by cases plane <;> rfl, fun h => ?_⟩
    by_cases hp : plane = p
    · simp [step, leave, hp] at h
    · simpa [step, leave, hp] using h
  | receive p server message sent =>
    by_cases hp : p = plane
    · cases server with
      | ioLoop =>
        show Unmoved plane s (if message.msgType = .handshake then s.handleLateHello p message sent
          else s)
        rw [if_neg (ha hp)]
        exact .refl plane s
      | handshakeCore => exact unmoved_acceptHello_of_not_handshake (ha hp) sent
    · cases server with
      | ioLoop =>
        show Unmoved plane s (if message.msgType = .handshake then s.handleLateHello p message sent
          else s)
        split
        · exact unmoved_handleLateHello hp message sent
        · exact .refl plane s
      | handshakeCore => exact unmoved_acceptHello hp message sent
  | turn p sent =>
    cases p with
    | monitoring => exact .refl plane s
    | acquisition =>
      by_cases hp : DataPlane.acquisition = plane
      · have hnone : s.pendingHello = none := by
          subst hp
          exact hturn.resolve_right fun hne => hne sent rfl
        unfold step retryPendingHellos
        rw [hnone]
        exact .refl plane s
      · exact unmoved_retryPendingHellos hp sent
  | stopListener p =>
    cases p with
    | monitoring => exact .refl plane s
    | acquisition =>
      cases plane with
      | acquisition => exact absurd rfl ha
      | monitoring => exact ⟨rfl, rfl, id⟩

/-! ## The control plane and the time -/

theorem acceptHello_frame (p : DataPlane) (message : PlaneMessage) (sent : Bool) :
    (s.acceptHello p message sent).onControl = s.onControl ∧
      (s.acceptHello p message sent).clock = s.clock := by
  rcases acceptHello_cases s p message sent with heq | ⟨-, heq⟩
  · rw [heq]
    exact ⟨rfl, rfl⟩
  · rw [heq]
    split <;> exact ⟨rfl, rfl⟩

theorem handleLateHello_frame (p : DataPlane) (message : PlaneMessage) (sent : Bool) :
    (s.handleLateHello p message sent).onControl = s.onControl ∧
      (s.handleLateHello p message sent).clock = s.clock := by
  cases p with
  | acquisition =>
    unfold handleLateHello
    dsimp only
    split
    · exact ⟨rfl, rfl⟩
    · exact acceptHello_frame _ message sent
  | monitoring => exact acceptHello_frame _ message sent

theorem retryPendingHellos_frame (sent : Bool) :
    (s.retryPendingHellos sent).onControl = s.onControl ∧
      (s.retryPendingHellos sent).clock = s.clock := by
  unfold retryPendingHellos
  split
  · exact ⟨rfl, rfl⟩
  · split
    · exact acceptHello_frame (s := { s with pendingHello := none }) _ _ sent
    · split <;> exact ⟨rfl, rfl⟩

/-- The client is on the control plane since its admission, if it is not lost. -/
theorem onControl_step (ha : a ≠ .loseControl) :
    (s.step a).onControl = (s.onControl || decide (a = .admitControl)) := by
  cases a with
  | loseControl => exact absurd rfl ha
  | admitControl =>
    unfold step
    cases hc : s.onControl <;> simp
  | receive p server message sent =>
    cases server with
    | ioLoop =>
      show (if message.msgType = .handshake then s.handleLateHello p message sent
        else s).onControl = _
      split
      · simpa using (handleLateHello_frame p message sent).1
      · simp
    | handshakeCore =>
      show (s.acceptHello p message sent).onControl = _
      simpa using (acceptHello_frame p message sent).1
  | turn p sent =>
    cases p with
    | acquisition =>
      show (s.retryPendingHellos sent).onControl = _
      simpa using (retryPendingHellos_frame sent).1
    | monitoring => simp [step]
  | stopListener p => cases p <;> simp [step]
  | wait | losePlane => simp [step, leave]

theorem clock_step (s : PlaneHello) (a : PlaneAction) : s.clock ≤ (s.step a).clock := by
  cases a with
  | wait duration => exact Nat.le_add_right _ _
  | receive p server message sent =>
    cases server with
    | ioLoop =>
      show s.clock ≤ (if message.msgType = .handshake then s.handleLateHello p message sent
        else s).clock
      split
      · exact Nat.le_of_eq (handleLateHello_frame p message sent).2.symm
      · exact Nat.le_refl _
    | handshakeCore => exact Nat.le_of_eq (acceptHello_frame p message sent).2.symm
  | turn p sent =>
    cases p with
    | acquisition => exact Nat.le_of_eq (retryPendingHellos_frame sent).2.symm
    | monitoring => exact Nat.le_refl _
  | admitControl =>
    unfold step
    dsimp only
    split <;> exact Nat.le_refl _
  | stopListener p => cases p <;> exact Nat.le_refl _
  | loseControl => exact Nat.le_refl _
  | losePlane p => exact Nat.le_refl _

theorem clock_run (s : PlaneHello) (as : List PlaneAction) : s.clock ≤ (run step s as).clock := by
  induction as generalizing s with
  | nil => exact Nat.le_refl _
  | cons a as ih => exact Nat.le_trans (clock_step s a) (ih (s.step a))

/-- Once admitted, the client stays. -/
theorem onControl_run_of_admitted {s : PlaneHello} {as : List PlaneAction}
    (has : ∀ a ∈ as, Undisturbed plane a) (h : s.onControl = true ∨ .admitControl ∈ as) :
    (run step s as).onControl = true := by
  induction as generalizing s with
  | nil => exact h.resolve_right (List.not_mem_nil)
  | cons a as ih =>
    have hstep := onControl_step (s := s) (has a List.mem_cons_self).ne_loseControl
    refine ih (fun b hb => has b (List.mem_cons_of_mem a hb)) ?_
    rcases h with h | h
    · exact .inl (by rw [hstep, h]; rfl)
    · rcases List.mem_cons.1 h with rfl | h
      · exact .inl (by rw [hstep]; simp)
      · exact .inr h

/-! ## Runs -/

/-- As long as no hello waits, nothing happens to the client on the plane. -/
theorem unmoved_run {s : PlaneHello} {as : List PlaneAction}
    (has : ∀ a ∈ as, Undisturbed plane a) (hnone : s.waiting plane = none) :
    Unmoved plane s (run step s as) := by
  induction as generalizing s with
  | nil => exact .refl plane s
  | cons a as ih =>
    have hhead := unmoved_step (has a List.mem_cons_self) (.inl hnone)
    have htail := ih (fun b hb => has b (List.mem_cons_of_mem a hb)) (hhead.waiting.trans hnone)
    exact hhead.trans htail

/-- The turns of the I/O loop leave a hello alone until it is too old. -/
theorem unmoved_retry {pending : PendingHello} (hwait : s.pendingHello = some pending)
    (hc : s.onControl = false) (htime : s.clock ≤ pending.deadline) (sent : Bool) :
    s.retryPendingHellos sent = s := by
  unfold retryPendingHellos
  rw [hwait]
  dsimp only
  rw [if_neg (by simp [hc]), if_neg (Nat.not_lt.2 htime)]

/-- A hello waits for the admission, as long as it is not too old. -/
theorem unmoved_run_of_waiting {as : List PlaneAction} {pending : PendingHello}
    (has : ∀ a ∈ as, Undisturbed .acquisition a) (hno : .admitControl ∉ as)
    (hwait : s.pendingHello = some pending) (hc : s.onControl = false)
    (htime : (run step s as).clock ≤ pending.deadline) :
    Unmoved .acquisition s (run step s as) := by
  induction as generalizing s with
  | nil => exact .refl _ s
  | cons a as ih =>
    have hnow : s.clock ≤ pending.deadline := Nat.le_trans (clock_run s (a :: as)) htime
    have hhead : Unmoved .acquisition s (s.step a) := by
      by_cases hturn : ∃ sent, a = .turn .acquisition sent
      · obtain ⟨sent, rfl⟩ := hturn
        show Unmoved .acquisition s (s.retryPendingHellos sent)
        rw [unmoved_retry hwait hc hnow]
        exact .refl _ s
      · exact unmoved_step (has a List.mem_cons_self) (.inr fun sent h => hturn ⟨sent, h⟩)
    have hc' : (s.step a).onControl = false := by
      have hne : a ≠ .admitControl := fun h => hno (h ▸ List.mem_cons_self)
      rw [onControl_step (has a List.mem_cons_self).ne_loseControl, hc]
      simp [hne]
    have htail := ih (fun b hb => has b (List.mem_cons_of_mem a hb))
      (fun h => hno (List.mem_cons_of_mem a h)) (hhead.waiting.trans hwait) hc' htime
    exact hhead.trans htail

/-- The first turn after the admission serves the hello, and the later ones find none. -/
theorem registered_run_of_waiting {as : List PlaneAction} {pending : PendingHello}
    (has : ∀ a ∈ as, Undisturbed .acquisition a) (hno : .admitControl ∉ as)
    (hturn : .turn .acquisition true ∈ as) (hwait : s.pendingHello = some pending)
    (hhello : DataPlane.acquisition.isHello pending.message = true) (hc : s.onControl = true)
    (hoff : s.onPlane .acquisition = false) :
    (run step s as).eventsOn .acquisition =
      s.eventsOn .acquisition ++ [.registered .acquisition pending.message.requestId] := by
  induction as generalizing s with
  | nil => exact absurd hturn List.not_mem_nil
  | cons a as ih =>
    have hrest := fun b hb => has b (List.mem_cons_of_mem a hb)
    by_cases hserve : ∃ sent, a = .turn .acquisition sent
    · obtain ⟨sent, rfl⟩ := hserve
      have hsent : sent = true := has _ List.mem_cons_self rfl
      subst hsent
      have hstep : s.step (.turn .acquisition true) =
          { s with pendingHello := none }.register .acquisition pending.message.requestId := by
        show s.retryPendingHellos true = _
        unfold retryPendingHellos
        rw [hwait]
        dsimp only
        rw [if_pos hc, acceptHello_of_control (s := { s with pendingHello := none }) hc hhello,
          if_neg (by simp [hoff])]
      rw [run_cons, (unmoved_run hrest (by rw [hstep]; rfl)).eventsOn, hstep]
      simp [eventsOn, register, PlaneEvent.plane]
    · have hhead : Unmoved .acquisition s (s.step a) :=
        unmoved_step (has a List.mem_cons_self) (.inr fun sent h => hserve ⟨sent, h⟩)
      have hone : (s.step a).onControl = true := by
        rw [onControl_step (has a List.mem_cons_self).ne_loseControl, hc]
        rfl
      have hturn' : .turn .acquisition true ∈ as :=
        (List.mem_cons.1 hturn).resolve_left fun h => hserve ⟨true, h.symm⟩
      rw [run_cons, ih hrest (fun h => hno (List.mem_cons_of_mem a h)) hturn'
        (hhead.waiting.trans hwait) hone (hhead.onPlane_false hoff), hhead.eventsOn]

/-! ## The hello -/

/-- The planes and their servers answer the hello of an admitted client alike. -/
theorem receive_of_control {message : PlaneMessage} (hm : plane.isHello message = true)
    (hc : s.onControl = true) (server : PlaneServer) :
    s.step (.receive plane server message true) =
      (if s.onPlane plane then s.replace plane else s).register plane message.requestId := by
  cases server with
  | handshakeCore => exact acceptHello_of_control hc hm
  | ioLoop =>
    show (if message.msgType = .handshake then s.handleLateHello plane message true else s) = _
    rw [if_pos (msgType_of_isHello hm)]
    cases plane with
    | monitoring => exact acceptHello_of_control hc hm
    | acquisition =>
      show (if !s.onControl then _ else s.acceptHello .acquisition message true) = _
      rw [if_neg (by simp [hc])]
      exact acceptHello_of_control hc hm

/-- The hello of a client that is not admitted yet is kept by one server of one plane only. -/
theorem receive_of_not_control {message : PlaneMessage} {server : PlaneServer}
    (hm : plane.isHello message = true) (hc : s.onControl = false) :
    s.step (.receive plane server message true) =
      if plane = .acquisition ∧ server = .ioLoop then
        { s with pendingHello := some { message, deadline := s.clock + lateHelloGrace } }
      else s := by
  cases server with
  | handshakeCore =>
    rw [if_neg (fun h => PlaneServer.noConfusion h.2)]
    exact acceptHello_of_not_control hc true
  | ioLoop =>
    show (if message.msgType = .handshake then s.handleLateHello plane message true else s) = _
    rw [if_pos (msgType_of_isHello hm)]
    cases plane with
    | monitoring => exact acceptHello_of_not_control hc true
    | acquisition =>
      show (if !s.onControl then _ else s.acceptHello .acquisition message true) = _
      rw [if_pos (by simp [hc]), if_pos ⟨rfl, rfl⟩]

/-- The run is cut at its only admission. -/
theorem OneHello.split {hello : PlaneAction} {before after : List PlaneAction}
    (h : OneHello plane hello before after) (hno : .admitControl ∉ before) :
    ∃ meanwhile rest, after = meanwhile ++ .admitControl :: rest ∧
      .admitControl ∉ meanwhile ∧ .admitControl ∉ rest := by
  have hcount : after.count .admitControl = 1 := by
    have hone := h.admittedOnce
    rwa [List.count_append, List.count_eq_zero_of_not_mem hno, Nat.zero_add] at hone
  have hmem : .admitControl ∈ after := List.count_pos_iff.1 (by omega)
  obtain ⟨meanwhile, rest, rfl⟩ := List.append_of_mem hmem
  rw [List.count_append, List.count_cons_self] at hcount
  exact ⟨meanwhile, rest, rfl, List.count_eq_zero.1 (by omega), List.count_eq_zero.1 (by omega)⟩

/-- The acquisition plane serves a kept hello once the client is admitted. -/
theorem registered_of_kept {s : PlaneHello} {message : PlaneMessage}
    {meanwhile rest : List PlaneAction} (hm : DataPlane.acquisition.isHello message = true)
    (hmeanwhile : ∀ a ∈ meanwhile, Undisturbed .acquisition a)
    (hnoMeanwhile : .admitControl ∉ meanwhile)
    (hrest : ∀ a ∈ rest, Undisturbed .acquisition a) (hnoRest : .admitControl ∉ rest)
    (hturn : .turn .acquisition true ∈ rest) {deadline : Nat}
    (hwait : s.pendingHello = some { message, deadline }) (hc : s.onControl = false)
    (hoff : s.onPlane .acquisition = false) (htime : (run step s meanwhile).clock ≤ deadline) :
    (run step s (meanwhile ++ .admitControl :: rest)).eventsOn .acquisition =
      s.eventsOn .acquisition ++ [.registered .acquisition message.requestId] := by
  have hkept := unmoved_run_of_waiting hmeanwhile hnoMeanwhile hwait hc htime
  have hadmission : Unmoved .acquisition s (step (run step s meanwhile) .admitControl) :=
    hkept.trans (unmoved_step trivial (.inr nofun))
  have hadmitted : (step (run step s meanwhile) .admitControl).onControl = true := by
    rw [onControl_step (a := .admitControl) nofun]
    simp
  rw [run_append, run_cons, registered_run_of_waiting hrest hnoRest hturn
    (hadmission.waiting.trans hwait) hm hadmitted (hadmission.onPlane_false hoff), hadmission.eventsOn]

/-! ## The grace -/

/-- A client that says hello at most `lateHelloGrace` before it is admitted is registered exactly
once for it, and never lost because of it, exactly when its hello finds it admitted already or was
received by the I/O loop of the acquisition plane. -/
theorem registered_once_iff {server : PlaneServer} {message : PlaneMessage}
    {before after : List PlaneAction} (hm : plane.isHello message = true)
    (h : OneHello plane (.receive plane server message true) before after) :
    (run step {} (before ++ .receive plane server message true :: after)).eventsOn plane =
        [.registered plane message.requestId] ↔
      (run step {} before).onControl = true ∨ plane = .acquisition ∧ server = .ioLoop := by
  have hbefore : ∀ a ∈ before, Undisturbed plane a := fun a ha =>
    h.undisturbed a (List.mem_append_left after ha)
  have hafter : ∀ a ∈ after, Undisturbed plane a := fun a ha =>
    h.undisturbed a (List.mem_append_right before ha)
  have hstart : Unmoved plane {} (run step {} before) :=
    unmoved_run hbefore (by cases plane <;> rfl)
  have hintime := h.inTime
  rw [run_append, run_cons]
  generalize hs : run step {} before = s at hstart hintime ⊢
  have hnone : s.waiting plane = none := hstart.waiting.trans (by cases plane <;> rfl)
  have hoff : s.onPlane plane = false := hstart.onPlane_false rfl
  have hempty : s.eventsOn plane = [] := hstart.eventsOn
  cases hc : s.onControl with
  | true =>
    refine iff_of_true ?_ (.inl rfl)
    have hstep : s.step (.receive plane server message true) =
        s.register plane message.requestId := by
      rw [receive_of_control hm hc server, if_neg (by simp [hoff])]
    have hwait : (s.register plane message.requestId).waiting plane = none := by
      rw [← hnone]
      cases plane <;> rfl
    rw [hstep, (unmoved_run hafter hwait).eventsOn]
    have hnew : (s.register plane message.requestId).eventsOn plane =
        s.eventsOn plane ++ [.registered plane message.requestId] := by
      simp [eventsOn, register, PlaneEvent.plane]
    rw [hnew, hempty, List.nil_append]
  | false =>
    by_cases hkeep : plane = .acquisition ∧ server = .ioLoop
    · refine iff_of_true ?_ (.inr hkeep)
      obtain ⟨rfl, rfl⟩ := hkeep
      have hno : .admitControl ∉ before := fun hmem => by
        have hyes := onControl_run_of_admitted (s := {}) hbefore (.inr hmem)
        rw [hs, hc] at hyes
        exact Bool.noConfusion hyes
      obtain ⟨meanwhile, rest, rfl, hnoMeanwhile, hnoRest⟩ := h.split hno
      obtain ⟨htime, hturn⟩ := hintime meanwhile rest rfl
      rw [receive_of_not_control hm hc, if_pos ⟨rfl, rfl⟩] at htime ⊢
      have hserved := registered_of_kept
        (s := { s with pendingHello := some { message, deadline := s.clock + lateHelloGrace } }) hm
        (fun a ha => hafter a (List.mem_append_left _ ha)) hnoMeanwhile
        (fun a ha => hafter a (List.mem_append_right meanwhile (List.mem_cons_of_mem _ ha))) hnoRest
        hturn rfl hc hoff htime
      refine hserved.trans ?_
      show s.eventsOn .acquisition ++ _ = _
      rw [hempty, List.nil_append]
    · refine iff_of_false ?_ (fun hor => hor.elim Bool.noConfusion hkeep)
      rw [receive_of_not_control hm hc, if_neg hkeep, (unmoved_run hafter hnone).eventsOn, hempty]
      exact List.cons_ne_nil _ _ ∘ Eq.symm

/-- The shortest run of the kind: the hello, the admission, and a turn of the I/O loop. -/
theorem oneHello_of_wait (plane : DataPlane) (hello : PlaneAction) {duration : Nat}
    (hclock : ((step {} hello).step (.wait duration)).clock ≤ lateHelloGrace) :
    OneHello plane hello [] [.wait duration, .admitControl, .turn plane true] where
  undisturbed a ha := by
    simp only [List.nil_append, List.mem_cons, List.not_mem_nil, or_false] at ha
    rcases ha with rfl | rfl | rfl
    · trivial
    · trivial
    · exact fun _ => rfl
  admittedOnce := by simp
  inTime meanwhile rest h := by
    match meanwhile, h with
    | [a], h =>
      obtain ⟨rfl, rfl⟩ : PlaneAction.wait duration = a ∧ [.turn plane true] = rest := by
        simpa using h
      exact ⟨by simpa using hclock, List.mem_cons_self⟩
    | [a, b], h => simp at h
    | a :: b :: c :: more, h => simp at h

/-- A hello on the acquisition plane, one second before the admission. -/
theorem registered_once_acquisition :
    let hello : PlaneMessage :=
      { msgType := .handshake, requestId := "r1", phase := some "acquisition_hello",
        payload := some "Acq_hello" }
    (run step {} [.receive .acquisition .ioLoop hello true, .wait 1000000000, .admitControl,
        .turn .acquisition true]).eventsOn .acquisition = [.registered .acquisition "r1"] :=
  (@registered_once_iff .acquisition .ioLoop _ [] _ (by decide)
    (oneHello_of_wait .acquisition _ (by decide))).2 (.inr ⟨rfl, rfl⟩)

/-- The monitoring plane forgets a hello that comes one second before the admission. -/
theorem hello_forgotten :
    let hello : PlaneMessage :=
      { msgType := .handshake, requestId := "r1", phase := some "monitoring_hello",
        payload := some "Mon_hello" }
    let after : List PlaneAction := [.wait 1000000000, .admitControl, .turn .monitoring true]
    DataPlane.monitoring.isHello hello = true ∧
      OneHello .monitoring (.receive .monitoring .ioLoop hello true) [] after ∧
      (run step {} (.receive .monitoring .ioLoop hello true :: after)).eventsOn .monitoring = [] :=
  ⟨by decide, oneHello_of_wait .monitoring _ (by decide), by decide +kernel⟩

end MultiDAQ.Server.PlaneHello
