import MultiDAQ.Receiver.ProducerAck
import MultiDAQ.Receiver.Verify.Dispatch

/-!
# The wait for an acknowledgement

A message that is skipped sends the loop back to its beginning, past the look at the clock. The wait
is therefore as long as the messages keep coming, and it may take an acknowledgement whose frames go
on after the expected text and a NUL. Otherwise it ends at its limit, and only an exact
acknowledgement is a success.
-/

namespace MultiDAQ.Receiver

namespace ProducerCommand

variable (c : ProducerCommand)

/-- The limit of ten seconds has passed when the turn ends. -/
def AtLimit (t : AckTurn) : Prop := 10 ≤ t.nowSec - c.startSec

instance (t : AckTurn) : Decidable (c.AtLimit t) := inferInstanceAs (Decidable (_ ≤ _))

/-- The turn receives the acknowledgement that is waited for. -/
def Acknowledged (t : AckTurn) : Prop :=
  ∃ text, t.poll = .message [c.source, c.requestId, c.command, ackOk, text]

/-- The messages of this turn are for another command, or malformed. -/
def Skips (t : AckTurn) : Prop :=
  t.keepRunning = true ∧ ∃ frames, t.poll = .message frames ∧ c.readMessage frames = none

/-- An acknowledgement by the C strings of its frames, one of which goes on after its NUL. -/
def PaddedAck (t : AckTurn) : Prop :=
  t.keepRunning = true ∧ ∃ frame₀ frame₁ frame₂ frame₃ text,
    t.poll = .message [frame₀, frame₁, frame₂, frame₃, text] ∧
      (∀ frame ∈ [frame₀, frame₁, frame₂, frame₃, text], frame.length < frameSize) ∧
      [frame₀, frame₁, frame₂, frame₃].map cString =
        [c.source, c.requestId, c.command, ackOk] ∧
      ∃ frame ∈ [frame₀, frame₁, frame₂, frame₃], 0 ∈ frame

/-- The wait ends with this turn. -/
def EndsWith (published : Bool) (turns pre : List AckTurn) (t : AckTurn) : Prop :=
  (∃ post, turns = pre ++ t :: post) ∧ c.publishAndWait published pre = none ∧
    c.publishAndWait published (pre ++ [t]) ≠ none

/-- What the wait promises: success for an exact acknowledgement only, a text with every failure,
and an end when the limit has passed. -/
structure Keeps (published : Bool) (turns : List AckTurn) : Prop where
  success : c.publishAndWait published turns = some .success →
    ∃ pre t, c.EndsWith published turns pre t ∧ c.Acknowledged t
  failure : ∀ error, c.publishAndWait published turns = some (.failure error) → error ≠ []
  ends : ∀ pre t post, turns = pre ++ t :: post → c.AtLimit t →
    c.publishAndWait published (pre ++ [t]) ≠ none

variable {c}

/-! ## One turn -/

theorem readMessage_eq_success {frames : List Bytes} (h : c.readMessage frames = some .success) :
    ∃ frame₀ frame₁ frame₂ frame₃ text, frames = [frame₀, frame₁, frame₂, frame₃, text] ∧
      (∀ frame ∈ [frame₀, frame₁, frame₂, frame₃, text], frame.length < frameSize) ∧
      [frame₀, frame₁, frame₂, frame₃].map cString =
        [c.source, c.requestId, c.command, ackOk] := by
  unfold readMessage at h
  split at h
  next frame₀ frame₁ frame₂ frame₃ text =>
    split at h
    · cases h
    next hforeign =>
      split at h
      next hok =>
        simp only [not_or, not_not] at hforeign
        obtain ⟨hsize, hsource, hrequest, hcommand⟩ := hforeign
        refine ⟨frame₀, frame₁, frame₂, frame₃, text, rfl, fun frame hframe => ?_, ?_⟩
        · by_contra hlong
          exact hsize (List.any_eq_true.2 ⟨frame, hframe, by simpa using hlong⟩)
        · simp [hsource, hrequest, hcommand, hok]
      · cases h
  · cases h

theorem readMessage_padded {frame₀ frame₁ frame₂ frame₃ text : Bytes}
    (hsize : ∀ frame ∈ [frame₀, frame₁, frame₂, frame₃, text], frame.length < frameSize)
    (heq : [frame₀, frame₁, frame₂, frame₃].map cString =
      [c.source, c.requestId, c.command, ackOk]) :
    c.readMessage [frame₀, frame₁, frame₂, frame₃, text] = some .success := by
  simp only [List.map_cons, List.map_nil, List.cons.injEq, and_true] at heq
  obtain ⟨hsource, hrequest, hcommand, hok⟩ := heq
  unfold readMessage
  dsimp only
  rw [if_neg, if_pos hok]
  simp only [not_or, not_not]
  refine ⟨fun hany => ?_, hsource, hrequest, hcommand⟩
  obtain ⟨frame, hframe, hlong⟩ := List.any_eq_true.1 hany
  exact absurd (of_decide_eq_true hlong) (Nat.not_le.2 (hsize frame hframe))

theorem turn_eq_success {t : AckTurn} (h : c.turn t = some .success) :
    c.Acknowledged t ∨ c.PaddedAck t := by
  unfold turn at h
  split at h
  next hrunning =>
    split at h
    next frames hpoll =>
      obtain ⟨frame₀, frame₁, frame₂, frame₃, text, rfl, hsize, heq⟩ := readMessage_eq_success h
      by_cases hnul : ∃ frame ∈ [frame₀, frame₁, frame₂, frame₃], 0 ∈ frame
      · exact .inr ⟨hrunning, frame₀, frame₁, frame₂, frame₃, text, hpoll, hsize, heq, hnul⟩
      · have hwhole : [frame₀, frame₁, frame₂, frame₃].map cString =
            [frame₀, frame₁, frame₂, frame₃] := by
          conv_rhs => rw [← List.map_id [frame₀, frame₁, frame₂, frame₃]]
          refine List.map_congr_left fun frame hframe => cString_of_notMem fun h0 => ?_
          exact hnul ⟨frame, hframe, h0⟩
        rw [hwhole] at heq
        simp only [List.cons.injEq, and_true] at heq
        obtain ⟨rfl, rfl, rfl, rfl⟩ := heq
        exact .inl ⟨text, hpoll⟩
    · cases h
    · split at h <;> cases h
  · cases h

theorem turn_of_padded {t : AckTurn} (h : c.PaddedAck t) : c.turn t = some .success := by
  obtain ⟨hrunning, frame₀, frame₁, frame₂, frame₃, text, hpoll, hsize, heq, -⟩ := h
  rw [turn, if_pos hrunning, hpoll]
  exact readMessage_padded hsize heq

/-- The exact acknowledgement has no NUL before its text. -/
theorem not_acknowledged_of_padded {t : AckTurn} (h : c.PaddedAck t) : ¬c.Acknowledged t := by
  rintro ⟨text, hpoll⟩
  obtain ⟨-, frame₀, frame₁, frame₂, frame₃, text', hpoll', -, -, frame, hframe, hnul⟩ := h
  rw [hpoll'] at hpoll
  simp only [AckPoll.message.injEq, List.cons.injEq, and_true] at hpoll
  obtain ⟨rfl, rfl, rfl, rfl, -⟩ := hpoll
  simp only [List.mem_cons, List.not_mem_nil, or_false] at hframe
  rcases hframe with rfl | rfl | rfl | rfl
  · exact c.source_noNul hnul
  · exact c.requestId_noNul hnul
  · exact c.command_noNul hnul
  · exact absurd hnul (by decide)

/-- A turn that ends after the limit and leaves the wait going has skipped a message. -/
theorem turn_eq_none_iff {t : AckTurn} (hlimit : c.AtLimit t) : c.turn t = none ↔ c.Skips t := by
  unfold turn Skips
  split
  next hrunning =>
    split
    next frames hpoll =>
      constructor
      · exact fun h => ⟨hrunning, frames, hpoll, h⟩
      · rintro ⟨-, frames', hpoll', h⟩
        cases hpoll.symm.trans hpoll'
        exact h
    next hpoll => simp [hpoll]
    next hpoll =>
      rw [if_pos (show 10 ≤ t.nowSec - c.startSec from hlimit)]
      simp [hpoll]
  next hstopped => simp [hstopped]

theorem errorText_ne_nil {text : String} (h : text ≠ "") : errorText text ≠ [] := by
  simpa [errorText, asciiBytes] using h

theorem error_ne_nil {t : AckTurn} {error : Bytes} (h : c.turn t = some (.failure error)) :
    error ≠ [] := by
  unfold turn at h
  split at h
  · split at h
    next frames hpoll =>
      unfold readMessage at h
      split at h
      · split at h
        · cases h
        · split at h
          · cases h
          · cases h
            exact List.append_ne_nil_of_left_ne_nil (errorText_ne_nil (by decide)) _
      · cases h
    · cases h
      exact errorText_ne_nil (by decide)
    · split at h
      · cases h
        exact errorText_ne_nil (by decide)
      · cases h
  · cases h
    exact errorText_ne_nil (by decide)

/-! ## The wait -/

variable {published : Bool}

theorem publishAndWait_append_single (pre : List AckTurn) (t : AckTurn) :
    c.publishAndWait true (pre ++ [t]) = (c.publishAndWait true pre).or (c.turn t) := by
  show (pre ++ [t]).findSome? c.turn = (pre.findSome? c.turn).or (c.turn t)
  rw [List.findSome?_append, List.findSome?_singleton]

/-- The turn that the wait ends with. -/
theorem exists_endsWith {turns : List AckTurn} {outcome : AckOutcome}
    (h : c.publishAndWait true turns = some outcome) :
    ∃ pre t, c.EndsWith true turns pre t ∧ c.turn t = some outcome := by
  obtain ⟨pre, t, post, rfl, ht, hpre⟩ := List.findSome?_eq_some_iff.1 h
  have hnone : c.publishAndWait true pre = none := List.findSome?_eq_none_iff.2 hpre
  refine ⟨pre, t, ⟨⟨post, rfl⟩, hnone, ?_⟩, ht⟩
  rw [publishAndWait_append_single, hnone, Option.none_or, ht]
  exact Option.some_ne_none _

theorem publishAndWait_append_eq_none {turns rest : List AckTurn}
    (h : c.publishAndWait published (turns ++ rest) = none) :
    c.publishAndWait published turns = none := by
  cases published with
  | false => cases h
  | true =>
    replace h : (turns ++ rest).findSome? c.turn = none := h
    rw [List.findSome?_append, Option.or_eq_none_iff] at h
    exact h.1

/-- The wait ends once. -/
theorem EndsWith.unique {turns pre pre' : List AckTurn} {t t' : AckTurn}
    (h : c.EndsWith published turns pre t) (h' : c.EndsWith published turns pre' t') : t = t' := by
  obtain ⟨⟨post, rfl⟩, hnone, hends⟩ := h
  obtain ⟨⟨post', heq⟩, hnone', hends'⟩ := h'
  rcases List.append_eq_append_iff.1 heq with ⟨mid, rfl, hrest⟩ | ⟨mid, rfl, hrest⟩
  · cases mid with
    | nil => exact (List.cons.inj hrest).1
    | cons u mid =>
      obtain ⟨rfl, -⟩ := List.cons.inj hrest
      rw [List.append_cons] at hnone'
      exact absurd (publishAndWait_append_eq_none hnone') hends
  · cases mid with
    | nil => exact (List.cons.inj hrest).1.symm
    | cons u mid =>
      obtain ⟨rfl, -⟩ := List.cons.inj hrest
      rw [List.append_cons] at hnone
      exact absurd (publishAndWait_append_eq_none hnone) hends'

/-- **Acknowledgements.** Whatever arrives, and whenever: the wait succeeds for the exact
acknowledgement only, gives a text with every failure, and ends when its limit has passed, if and
only if, as long as it waits, no message that it skips comes in a turn that ends past the limit, and
no acknowledgement that it takes goes on after a NUL. -/
theorem keeps_iff (c : ProducerCommand) (published : Bool) (turns : List AckTurn) :
    c.Keeps published turns ↔ ∀ pre t post, turns = pre ++ t :: post →
      c.publishAndWait published pre = none → ¬(c.Skips t ∧ c.AtLimit t) ∧ ¬c.PaddedAck t := by
  cases published with
  | false =>
    refine iff_of_true ⟨nofun, fun error h => ?_, nofun⟩ nofun
    cases h
    exact errorText_ne_nil (by decide)
  | true =>
    constructor
    · rintro ⟨hsuccess, -, hends⟩ pre t post rfl hpre
      have hafter : c.publishAndWait true (pre ++ [t]) = c.turn t := by
        rw [publishAndWait_append_single, hpre, Option.none_or]
      constructor
      · rintro ⟨hskips, hlimit⟩
        refine hends pre t post rfl hlimit ?_
        rw [hafter, turn_eq_none_iff hlimit]
        exact hskips
      · intro hpadded
        have hturn := turn_of_padded hpadded
        have hall : c.publishAndWait true (pre ++ t :: post) = some .success := by
          show (pre ++ t :: post).findSome? c.turn = _
          rw [List.findSome?_append, show pre.findSome? c.turn = none from hpre, Option.none_or,
            List.findSome?_cons, hturn]
        obtain ⟨pre', t', hends', hack⟩ := hsuccess hall
        obtain rfl := EndsWith.unique hends'
          ⟨⟨post, rfl⟩, hpre, by rw [hafter, hturn]; exact Option.some_ne_none _⟩
        exact not_acknowledged_of_padded hpadded hack
    · intro h
      refine ⟨fun hsuccess => ?_, fun error herror => ?_, fun pre t post heq hlimit hnone => ?_⟩
      · obtain ⟨pre, t, hends, hturn⟩ := exists_endsWith hsuccess
        obtain ⟨⟨post, heq⟩, hpre, -⟩ := id hends
        refine ⟨pre, t, hends, (turn_eq_success hturn).resolve_right ?_⟩
        exact (h pre t post heq hpre).2
      · obtain ⟨pre, t, -, hturn⟩ := exists_endsWith herror
        exact error_ne_nil hturn
      · rw [publishAndWait_append_single, Option.or_eq_none_iff] at hnone
        exact (h pre t post heq hnone.1).1 ⟨(turn_eq_none_iff hlimit).1 hnone.2, hlimit⟩

/-- The command "start" for the producer "a". -/
def startCommand : ProducerCommand where
  source := [97]
  requestId := [49]
  command := asciiBytes ['s', 't', 'a', 'r', 't']
  startSec := 0
  source_noNul := by decide
  requestId_noNul := by decide
  command_noNul := by decide

/-- After twenty seconds the wait goes on, if an acknowledgement for the producer "b" is the last
thing that came; and it takes an acknowledgement of which no frame is the expected one. -/
theorem wait_exceeds_limit :
    let foreign : List Bytes := [[98], [49], startCommand.command, ackOk, []]
    let padded : List Bytes := [[97, 0, 1], [49, 0], startCommand.command ++ [0], ackOk ++ [0], []]
    startCommand.publishAndWait true [⟨true, .message foreign, 20⟩] = none ∧
      startCommand.AtLimit ⟨true, .message foreign, 20⟩ ∧
      startCommand.publishAndWait true [⟨true, .message padded, 1⟩] = some .success ∧
      ¬startCommand.Keeps true [⟨true, .message foreign, 20⟩] := by
  intro foreign padded
  have hwaits : startCommand.publishAndWait true [⟨true, .message foreign, 20⟩] = none := by
    decide +kernel
  have hlimit : startCommand.AtLimit ⟨true, .message foreign, 20⟩ := by decide
  exact ⟨hwaits, hlimit, by decide +kernel, fun h => h.ends [] _ [] rfl hlimit hwaits⟩

end ProducerCommand

end MultiDAQ.Receiver
