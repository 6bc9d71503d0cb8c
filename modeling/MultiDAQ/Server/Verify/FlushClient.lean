import MultiDAQ.Server.FlushClient

/-!
# The reset bit is released

However `flush_client` ends, a write that holds the reset bit of register 15 is followed by one that
releases it: the `finally` clause writes the released value last, and nothing is written after it
(`releases_flushClient`). A run that returns `True` went through the whole sequence, and every step
of it was confirmed (`flushClient_true`).
-/

namespace MultiDAQ.Server

open MultiDAQ.Lib MultiDAQ.Lib.Interaction

namespace AcquisitionService

variable {dev : FlushPeers}

/-! ## The release -/

/-- A write to register 15 that holds the reset bit is followed by one that releases it. -/
def Releases (calls : List FlushCall) : Prop :=
  ∀ pre value post, calls = pre ++ .writeRcRegister 15 value :: post → value &&& resetMask ≠ 0 →
    ∃ value', .writeRcRegister 15 value' ∈ post ∧ value' &&& resetMask = 0

/-- The last call of a list that a call was added to, or a call before it. -/
theorem append_single_eq {calls pre post : List FlushCall} {c d : FlushCall}
    (h : calls ++ [c] = pre ++ d :: post) :
    (calls = pre ∧ c = d ∧ post = []) ∨
      ∃ post', post = post' ++ [c] ∧ calls = pre ++ d :: post' := by
  rcases List.eq_nil_or_concat post with rfl | ⟨post', e, rfl⟩
  · obtain ⟨h₁, h₂⟩ := List.append_inj' h rfl
    exact .inl ⟨h₁, (List.cons.inj h₂).1, rfl⟩
  · rw [List.concat_eq_append, ← List.cons_append, ← List.append_assoc] at h
    obtain ⟨h₁, h₂⟩ := List.append_inj' h rfl
    cases h₂
    exact .inr ⟨post', List.concat_eq_append, h₁⟩

/-- Whatever was written before, a write of a value without the reset bit releases it. -/
theorem releases_append_release (calls : List FlushCall) {value : Nat}
    (h : value &&& resetMask = 0) : Releases (calls ++ [.writeRcRegister 15 value]) := by
  intro pre held post heq hheld
  rcases append_single_eq heq with ⟨-, hc, -⟩ | ⟨post', rfl, -⟩
  · cases hc
    exact absurd h hheld
  · exact ⟨value, List.mem_append_right _ (List.mem_singleton_self _), h⟩

theorem Releases.append_other {calls : List FlushCall} (h : Releases calls) {c : FlushCall}
    (hc : ∀ value, c ≠ .writeRcRegister 15 value) : Releases (calls ++ [c]) := by
  intro pre held post heq hheld
  rcases append_single_eq heq with ⟨-, hd, -⟩ | ⟨post', rfl, hcalls⟩
  · exact absurd hd (hc held)
  · obtain ⟨value, hmem, hvalue⟩ := h pre held post' hcalls hheld
    exact ⟨value, List.mem_append_left _ hmem, hvalue⟩

theorem flushBase_resetMask (previous : Int) : flushBase previous &&& resetMask = 0 := by
  refine Nat.eq_of_testBit_eq fun i => ?_
  rw [flushBase, Nat.testBit_and, Nat.testBit_ldiff, Nat.testBit_or, Nat.zero_testBit]
  cases resetMask.testBit i <;> simp

theorem heldValue_ne_base (previous : Int) :
    flushBase previous ||| resetMask ≠ flushBase previous := by
  intro heq
  have hzero : resetMask = 0 := by
    calc resetMask = (flushBase previous ||| resetMask) &&& resetMask := by
          rw [Nat.and_or_distrib_right, flushBase_resetMask, Nat.zero_or, Nat.and_self]
      _ = 0 := by rw [heq, flushBase_resetMask]
  exact absurd hzero (by decide)

def Released (w : FlushWorld) : Prop := Releases w.calls

theorem keeps_call_other {c : FlushCall} (hc : ∀ value, c ≠ .writeRcRegister 15 value) :
    Keeps dev Released (call c : FlushM c.Value) :=
  keeps_call fun _ h => h.append_other hc

theorem keeps_bits (mask : Nat) (v : RegisterValue) : Keeps dev Released (v.bits mask) := by
  cases v with
  | int n => exact keeps_pure _
  | other => exact keeps_raise _

/-- The `finally` clause releases the reset bit, whatever was written before. -/
theorem triple_releaseReset {baseValue : Nat} (h : baseValue &&& resetMask = 0) :
    Triple dev (fun _ => True) (releaseReset baseValue) (fun _ => Released) Released := by
  have hwrite : Triple dev (fun _ => True) (writeRcRegister 15 baseValue) (fun _ => Released)
      Released :=
    triple_call (fun w _ _ _ => releases_append_release w.calls h)
      fun w _ _ _ => releases_append_release w.calls h
  refine triple_try (triple_bind hwrite fun ok => triple_modify fun _ hw => hw) fun e => ?_
  cases e with
  | exception => exact keeps_pure _
  | baseException => exact keeps_raise _

theorem triple_true {α : Type} (p : FlushM α) :
    Triple dev (fun _ => True) p (fun _ _ => True) fun _ => True := by
  intro w _
  rcases p dev w with ⟨_ | _, _⟩ <;> trivial

theorem triple_pulseAndVerify (numericId : String) {baseValue : Nat}
    (h : baseValue &&& resetMask = 0) :
    Triple dev (fun _ => True) (pulseAndVerify numericId baseValue) (fun _ => Released)
      Released := by
  refine triple_bind (triple_finally (triple_true _) (fun _ => triple_releaseReset h)
    (triple_releaseReset h)) fun reached => ?_
  split
  · exact keeps_pure _
  · refine keeps_bind (keeps_read _) fun s => ?_
    split
    · exact keeps_pure _
    · refine keeps_bind (keeps_call_other nofun) fun released => ?_
      split
      · exact keeps_pure _
      · refine keeps_bind (keeps_bits _ _) fun bits => ?_
        split
        · exact keeps_pure _
        · exact keeps_call_other nofun

/-- However the function ends, a held reset bit was released, as far as the client takes writes. -/
theorem releases_flushClient : Keeps dev Released flushClient := by
  refine keeps_bind (keeps_call_other nofun) fun rc19 => ?_
  split
  · exact keeps_pure _
  · refine keeps_bind (keeps_bits _ _) fun active => ?_
    split
    · exact keeps_pure _
    · refine keeps_bind (keeps_call_other nofun) fun numericId => ?_
      split
      · exact keeps_pure _
      · refine keeps_bind (keeps_call_other nofun) fun stopped => ?_
        split
        · exact keeps_pure _
        · refine keeps_bind (keeps_call_other nofun) fun previous => ?_
          split
          · exact keeps_pure _
          · exact keeps_raise _
          · split
            · exact keeps_pure _
            · refine keeps_bind (keeps_call_other nofun) fun cleared => ?_
              split
              · exact keeps_pure _
              · exact (triple_pulseAndVerify _ (flushBase_resetMask _)).conseq (fun _ _ => trivial)
                  (fun _ _ hw => hw) fun _ hw => hw

/-! ## What a success confirms -/

/-- The calls of a flush that goes through. -/
def flushSequence (numericId : String) (baseValue : Nat) : List FlushCall :=
  [.readRcRegister 19, .resolveNumericId, .stopProducer numericId, .readRcRegister 15,
   .resetProducer numericId, .writeRcRegister 15 baseValue,
   .writeRcRegister 15 (baseValue ||| resetMask), .readRcRegister 15,
   .writeRcRegister 15 baseValue, .readRcRegister 15, .resetProducer numericId]

/-- Every step of the sequence was confirmed. The hold and the release of the reset bit were read
back, and the value that was read last is the previous one without the reset and the flush bit. -/
structure Confirmed (dev : FlushPeers) (numericId : String) (previous : Int) : Prop where
  stopped : dev.answer (.stopProducer numericId) 0 = .ok true
  known : dev.answer (.readRcRegister 15) 0 = .ok (some (.int previous))
  outOfReset : bitAnd previous resetMask = 0
  cleared : dev.answer (.resetProducer numericId) 0 = .ok true
  based : dev.answer (.writeRcRegister 15 (flushBase previous)) 0 = .ok true
  holding : dev.answer (.writeRcRegister 15 (flushBase previous ||| resetMask)) 0 = .ok true
  held : ∃ v, dev.answer (.readRcRegister 15) 1 = .ok (some (.int v)) ∧
    bitAnd v writableMask = flushBase previous ||| resetMask
  releasing : dev.answer (.writeRcRegister 15 (flushBase previous)) 1 = .ok true
  released : ∃ v, dev.answer (.readRcRegister 15) 2 = .ok (some (.int v)) ∧
    bitAnd v writableMask = flushBase previous
  final : dev.answer (.resetProducer numericId) 1 = .ok true

theorem of_bits_ok {mask bits : Nat} {v : RegisterValue} {w w' : FlushWorld}
    (h : v.bits mask dev w = (.ok bits, w')) : ∃ n, v = .int n ∧ bits = bitAnd n mask ∧ w' = w := by
  cases v with
  | int n =>
    cases h
    exact ⟨n, rfl, rfl, rfl⟩
  | other => cases h

/-- What a pulse that was verified has confirmed. -/
structure Pulsed (dev : FlushPeers) (w w' : FlushWorld) (baseValue heldValue : Nat) : Prop where
  calls : w'.calls = w.calls ++ [FlushCall.writeRcRegister 15 baseValue,
    FlushCall.writeRcRegister 15 heldValue, FlushCall.readRcRegister 15]
  based : dev.answer (.writeRcRegister 15 baseValue)
    (w.calls.count (.writeRcRegister 15 baseValue)) = .ok true
  holding : dev.answer (.writeRcRegister 15 heldValue)
    ((w.calls ++ [FlushCall.writeRcRegister 15 baseValue]).count
      (FlushCall.writeRcRegister 15 heldValue)) = .ok true
  held : ∃ v, dev.answer (.readRcRegister 15) (w.calls.count (.readRcRegister 15)) =
    .ok (some (.int v)) ∧ bitAnd v writableMask = heldValue

theorem keeps_state_call (P : FlushLocals → Prop) (c : FlushCall) :
    Keeps dev (fun w => P w.state) (call c : FlushM c.Value) :=
  keeps_call fun _ h => h

/-- Where the pulse raises, it has not been verified. -/
theorem triple_pulseReset (baseValue heldValue : Nat) :
    Triple dev (fun w => w.state = {}) (pulseReset baseValue heldValue)
      (fun _ w => w.state.releasedOk = false) fun w => w.state = {} := by
  have hreleased : ∀ {w : FlushWorld}, w.state = {} → w.state.releasedOk = false := by
    intro w hw
    rw [hw]
  refine triple_bind (keeps_state_call (· = {}) _) fun based => ?_
  split
  · exact triple_pure fun _ => hreleased
  · refine triple_bind (keeps_state_call (· = {}) _) fun holding => ?_
    split
    · exact triple_pure fun _ => hreleased
    · refine triple_bind (keeps_state_call (· = {}) _) fun held => ?_
      cases held with
      | none => exact triple_pure fun _ => hreleased
      | some held =>
        cases held with
        | int n => exact fun w hw => show w.state.releasedOk = false from hreleased hw
        | other => exact triple_raise fun _ hw => hw

theorem pulsed_of_pulseReset {w w' : FlushWorld} {baseValue heldValue : Nat}
    (hw : w.state = {}) (h : pulseReset baseValue heldValue dev w = (.ok true, w'))
    (hok : w'.state.hardwareOk = true) : Pulsed dev w w' baseValue heldValue := by
  obtain ⟨based, w₁, h₁, h⟩ := of_bind_ok h
  obtain ⟨hbased, rfl⟩ := of_call_ok h₁
  cases based with
  | false => cases h
  | true =>
  obtain ⟨holding, w₂, h₂, h⟩ := of_bind_ok h
  obtain ⟨hholding, rfl⟩ := of_call_ok h₂
  cases holding with
  | false => cases h
  | true =>
  obtain ⟨held, w₃, h₃, h⟩ := of_bind_ok h
  obtain ⟨hheld, rfl⟩ := of_call_ok h₃
  cases held with
  | none =>
    cases h
    rw [World.issue_state, World.issue_state, World.issue_state, hw] at hok
    cases hok
  | some held =>
  obtain ⟨bits, w₄, h₄, h⟩ := of_bind_ok h
  obtain ⟨v, rfl, rfl, rfl⟩ := of_bits_ok h₄
  cases h
  refine ⟨?_, hbased, hholding, v, ?_, beq_iff_eq.1 hok⟩
  · simp only [World.update_calls, World.issue_calls, List.append_assoc, List.cons_append,
      List.nil_append]
  · simpa [List.count_append] using hheld

/-- What is caught left the world as the body did. -/
theorem of_catching_ok {α : Type} {p : FlushM α} {a b : α} {P E : FlushWorld → Prop}
    {Q : α → FlushWorld → Prop} {w w' : FlushWorld} (hp : Triple dev P p Q E) (hw : P w)
    (h : catching p a dev w = (.ok b, w')) : (p dev w = (.ok b, w') ∧ Q b w') ∨ E w' := by
  rcases of_tryExcept_ok h with h | ⟨e, w₁, hraised, h⟩
  · exact .inl ⟨h, hp.of_run h hw⟩
  · have hend := hp w hw
    rw [hraised] at hend
    cases e with
    | exception =>
      cases h
      exact .inr hend
    | baseException => cases h

/-- A body that returned was verified, or the two locals still say otherwise. -/
theorem of_catching_pulseReset {w w' : FlushWorld} {baseValue heldValue : Nat}
    (hw : w.state = {})
    (h : catching (pulseReset baseValue heldValue) true dev w = (.ok true, w')) :
    w'.state.releasedOk = false ∧
      (w'.state.hardwareOk = true → Pulsed dev w w' baseValue heldValue) := by
  have htriple : Triple dev _ _ _ _ := triple_pulseReset baseValue heldValue
  rcases of_catching_ok htriple hw h with ⟨hpulse, hreleased⟩ | hstate
  · exact ⟨hreleased, pulsed_of_pulseReset hw hpulse⟩
  · rw [hstate]
    exact ⟨rfl, fun hok => absurd hok Bool.false_ne_true⟩

/-- A release that was answered is the write of the released value. -/
theorem of_releaseReset {w w' : FlushWorld} {baseValue : Nat} (hw : w.state.releasedOk = false)
    (h : releaseReset baseValue dev w = (.ok (), w')) (hok : w'.state.releasedOk = true) :
    dev.answer (.writeRcRegister 15 baseValue) (w.calls.count (.writeRcRegister 15 baseValue)) =
        .ok true ∧
      w'.calls = w.calls ++ [FlushCall.writeRcRegister 15 baseValue] ∧
      w'.state.hardwareOk = w.state.hardwareOk := by
  have hwrite : Triple dev (fun w => w.state.releasedOk = false)
      (do
        let ok ← writeRcRegister 15 baseValue
        Interaction.modify fun s => { s with releasedOk := ok })
      (fun _ _ => True) fun w => w.state.releasedOk = false :=
    triple_bind (keeps_state_call (·.releasedOk = false) _) fun _ =>
      triple_modify fun _ _ => trivial
  rcases of_catching_ok hwrite hw h with ⟨h, -⟩ | hfalse
  · obtain ⟨released, w₁, h₁, h⟩ := of_bind_ok h
    obtain ⟨hreleased, rfl⟩ := of_call_ok h₁
    cases h
    obtain rfl : released = true := hok
    exact ⟨hreleased, rfl, rfl⟩
  · exact absurd (hfalse.symm.trans hok) Bool.false_ne_true

theorem of_pulseAndVerify {w w' : FlushWorld} {numericId : String} {baseValue : Nat}
    (hw : w.state = {}) (h : pulseAndVerify numericId baseValue dev w = (.ok true, w')) :
    ∃ w₁, Pulsed dev w w₁ baseValue (baseValue ||| resetMask) ∧
      dev.answer (.writeRcRegister 15 baseValue)
        (w₁.calls.count (.writeRcRegister 15 baseValue)) = .ok true ∧
      (∃ v, dev.answer (.readRcRegister 15) (w₁.calls.count (.readRcRegister 15)) =
        .ok (some (.int v)) ∧ bitAnd v writableMask = baseValue) ∧
      dev.answer (.resetProducer numericId) (w₁.calls.count (.resetProducer numericId)) = .ok true ∧
      w'.calls = w₁.calls ++ [FlushCall.writeRcRegister 15 baseValue, FlushCall.readRcRegister 15,
        FlushCall.resetProducer numericId] := by
  obtain ⟨reached, w₂, hfinally, h⟩ := of_bind_ok h
  obtain ⟨w₁, hbody, hrelease⟩ := of_tryFinally_ok hfinally
  cases reached with
  | false => cases h
  | true =>
  obtain ⟨s, w₃, hread, h⟩ := of_bind_ok h
  cases hread
  obtain ⟨hreleased, hpulsed⟩ := of_catching_pulseReset hw hbody
  dsimp only at h
  split at h
  · cases h
  next hlocals =>
  have hboth : w₂.state.hardwareOk = true ∧ w₂.state.releasedOk = true := by
    simpa using hlocals
  obtain ⟨hanswer, hcalls, hhardware⟩ := of_releaseReset hreleased hrelease hboth.2
  obtain ⟨released, w₃, h₃, h⟩ := of_bind_ok h
  obtain ⟨hread, rfl⟩ := of_call_ok h₃
  cases released with
  | none => cases h
  | some released =>
  obtain ⟨bits, w₄, h₄, h⟩ := of_bind_ok h
  obtain ⟨v, rfl, rfl, rfl⟩ := of_bits_ok h₄
  split at h
  · cases h
  next hbits =>
  obtain ⟨hfinal, rfl⟩ := of_call_ok h
  refine ⟨w₁, hpulsed (hhardware.symm.trans hboth.1), hanswer, ⟨v, ?_, not_not.1 hbits⟩, ?_, ?_⟩
  · simpa [hcalls, List.count_append] using hread
  · simpa [hcalls, List.count_append] using hfinal
  · simp only [World.issue_calls, hcalls, List.append_assoc, List.cons_append, List.nil_append]

theorem flushClient_true {w' : FlushWorld} (h : flushClient dev { state := {} } = (.ok true, w')) :
    ∃ numericId previous, Confirmed dev numericId previous ∧
      w'.calls = flushSequence numericId (flushBase previous) := by
  obtain ⟨rc19, w₁, h₁, h⟩ := of_bind_ok h
  obtain ⟨-, rfl⟩ := of_call_ok h₁
  cases rc19 with
  | none => cases h
  | some rc19 =>
  obtain ⟨active, w₂, h₂, h⟩ := of_bind_ok h
  obtain ⟨-, -, -, rfl⟩ := of_bits_ok h₂
  split at h
  · cases h
  obtain ⟨numericId, w₃, h₃, h⟩ := of_bind_ok h
  obtain ⟨-, rfl⟩ := of_call_ok h₃
  cases numericId with
  | none => cases h
  | some numericId =>
  obtain ⟨stopped, w₄, h₄, h⟩ := of_bind_ok h
  obtain ⟨hstopped, rfl⟩ := of_call_ok h₄
  cases stopped with
  | false => cases h
  | true =>
  obtain ⟨previous, w₅, h₅, h⟩ := of_bind_ok h
  obtain ⟨hprevious, rfl⟩ := of_call_ok h₅
  cases previous with
  | none => cases h
  | some previous =>
  cases previous with
  | other => cases h
  | int previous =>
  dsimp only at h
  split at h
  · cases h
  next hreset =>
  obtain ⟨cleared, w₆, h₆, h⟩ := of_bind_ok h
  obtain ⟨hcleared, rfl⟩ := of_call_ok h₆
  cases cleared with
  | false => cases h
  | true =>
  obtain ⟨w₇, hpulsed, hreleasing, ⟨v, hreleased, hbits⟩, hfinal, hcalls⟩ := of_pulseAndVerify rfl h
  have hbefore : w₇.calls = [.readRcRegister 19, .resolveNumericId, .stopProducer numericId,
      .readRcRegister 15, .resetProducer numericId, .writeRcRegister 15 (flushBase previous),
      .writeRcRegister 15 (flushBase previous ||| resetMask), .readRcRegister 15] :=
    hpulsed.calls
  rw [hbefore] at hcalls hreleasing hreleased hfinal
  have hne := heldValue_ne_base previous
  refine ⟨numericId, previous, ?_, hcalls⟩
  exact
    { stopped := hstopped
      known := hprevious
      outOfReset := not_not.1 hreset
      cleared := hcleared
      based := hpulsed.based
      holding := by
        simpa [List.count_cons, hne.symm] using hpulsed.holding
      held := hpulsed.held
      releasing := by
        simpa [List.count_cons, hne] using hreleasing
      released := ⟨v, hreleased, hbits⟩
      final := by
        simpa [List.count_cons] using hfinal }

/-- A held reset bit was released whatever was answered, and a success confirms every step. -/
theorem flushClient_confirmed (dev : FlushPeers) :
    Releases (flushClient dev { state := {} }).2.calls ∧
      ((flushClient dev { state := {} }).1 = .ok true → ∃ numericId previous,
        Confirmed dev numericId previous ∧
          (flushClient dev { state := {} }).2.calls =
            flushSequence numericId (flushBase previous)) := by
  refine ⟨releases_flushClient.world ?_, fun htrue => flushClient_true (Prod.ext htrue rfl)⟩
  intro pre value post heq
  exact absurd heq.symm (List.append_ne_nil_of_right_ne_nil _ (List.cons_ne_nil _ _))

/-- A board whose register 15 is read as 0x1A0, as 0x188 while the reset bit is held, and as 0x180
after its release. -/
def idleBoard : FlushPeers where
  answer
    | .readRcRegister 19, _ => .ok (some (.int 0))
    | .readRcRegister _, n => .ok (some (.int ([0x1A0, 0x188, 0x180].getD n 0)))
    | .writeRcRegister _ _, _ => .ok true
    | .resolveNumericId, _ => .ok (some "10")
    | .stopProducer _, _ => .ok true
    | .resetProducer _, _ => .ok true
  rounds _ := 0

theorem flushClient_confirmed_idleBoard : ∃ numericId previous,
    Confirmed idleBoard numericId previous ∧
      (flushClient idleBoard { state := {} }).2.calls =
        flushSequence numericId (flushBase previous) :=
  (flushClient_confirmed idleBoard).2 (by decide +kernel)

end AcquisitionService

end MultiDAQ.Server
