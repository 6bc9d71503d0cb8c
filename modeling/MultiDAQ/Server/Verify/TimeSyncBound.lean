import Mathlib.Algebra.Order.Group.Abs
import Mathlib.Algebra.Order.Ring.Cast
import Mathlib.Data.Rat.Cast.Order
import Mathlib.Tactic.Linarith
import Mathlib.Tactic.NormNum
import Mathlib.Tactic.Ring
import MultiDAQ.Server.Verify.StaleSync

/-!
# The error of a synchronisation

The clock of a client differs from the UTC clock of the server by a constant. Neither delay of a probe
is known, only their sum, so the midpoints of the two intervals differ by half the sum at most. Both
midpoints and the reported uncertainty are rounded down.
-/

namespace MultiDAQ.Server

open MultiDAQ.Lib

/-! ## Halves -/

theorem fdiv_two_bounds (x : Int) : 2 * Int.fdiv x 2 ≤ x ∧ x ≤ 2 * Int.fdiv x 2 + 1 := by
  rw [Int.fdiv_eq_ediv_of_nonneg x (by decide)]
  omega

/-- A half that is rounded down, between the numbers that bound it. -/
theorem fdiv_two_cast_bounds (x : Int) :
    2 * (Int.fdiv x 2 : ℚ) ≤ x ∧ (x : ℚ) ≤ 2 * (Int.fdiv x 2 : ℚ) + 1 := by
  obtain ⟨hle, hge⟩ := fdiv_two_bounds x
  exact ⟨by exact_mod_cast hle, by exact_mod_cast hge⟩

/-! ## Exchanges -/

/-- What happened to a probe and its reply, with `offset` from the clock of the client to the UTC clock
of the server: neither of them arrived before it was sent. -/
structure Exchanged (offset : ℚ) (probe : PendingTimeSyncProbe) (reply : TimeSyncReply) : Prop where
  request : (probe.t1UtcNs : ℚ) ≤ reply.c2ClientMonotonicNs + offset
  response : (reply.c3ClientMonotonicNs : ℚ) + offset ≤
    probe.t1UtcNs + (reply.t4ServerMonotonicNs - probe.t1ServerMonotonicNs)

/-- The measurement of such an exchange. -/
def Genuine (offset : ℚ) (m : TimeSyncMeasurement) : Prop :=
  ∃ probe reply, probe.accepts reply = true ∧ Exchanged offset probe reply ∧
    m = probe.measurement reply

/-- The reference points of a measurement are off by the reported uncertainty and a nanosecond. -/
theorem Genuine.reference_error {offset : ℚ} {m : TimeSyncMeasurement} (h : Genuine offset m) :
    |(m.refUtcNs : ℚ) - (m.refClientMonotonicNs + offset)| ≤ Int.fdiv m.networkRttNs 2 + 1 := by
  obtain ⟨probe, reply, -, hexchanged, rfl⟩ := h
  have hclient := fdiv_two_cast_bounds (reply.c2ClientMonotonicNs + reply.c3ClientMonotonicNs)
  have hserver := fdiv_two_cast_bounds (reply.t4ServerMonotonicNs - probe.t1ServerMonotonicNs)
  have hrtt := fdiv_two_cast_bounds (probe.networkRttNs reply)
  have hrequest := hexchanged.request
  have hresponse := hexchanged.response
  unfold PendingTimeSyncProbe.networkRttNs at hrtt
  simp only [PendingTimeSyncProbe.measurement, PendingTimeSyncProbe.networkRttNs]
  push_cast at hclient hserver hrtt ⊢
  rw [abs_le]
  constructor
  · linarith
  · linarith

/-! ## The chosen measurement -/

namespace TimeSyncService

variable {clientId : ClientId} {measurements : List TimeSyncMeasurement} {best : TimeSyncMeasurement}

/-- No measurement of the client has a smaller round trip. -/
theorem applied_best_le (h : applied clientId measurements = .best best) :
    ∀ m ∈ measurements, m.clientId = clientId → best.networkRttNs ≤ m.networkRttNs := by
  intro m hm hclient
  unfold applied at h
  dsimp only at h
  split at h
  · cases h
  · next best' hmin =>
    split at h
    · cases h
      have hmem : m ∈ measurements.filter fun m => m.clientId = clientId :=
        List.mem_filter.2 ⟨hm, by simpa using hclient⟩
      have hle := List.apply_get_minOn?_le_of_mem (f := TimeSyncMeasurement.networkRttNs) hmem
      simpa only [hmin, Option.get_some] using hle
    · cases h

/-- The state that a round of genuine measurements leaves converts the time of a sample with an error
of the reported uncertainty and a nanosecond at most. -/
theorem conversion_error {offset : ℚ} (s : TimeSyncService)
    (hgenuine : ∀ m ∈ measurements, m.clientId = clientId → Genuine offset m)
    (hbest : applied clientId measurements = .best best) :
    (best ∈ measurements ∧ best.clientId = clientId ∧
      ∀ m ∈ measurements, m.clientId = clientId → best.networkRttNs ≤ m.networkRttNs) ∧
    ∃ state, (s.applyMeasurements clientId measurements).clientStates.get? clientId = some state ∧
      state.networkRttNs = best.networkRttNs ∧
      ∀ clientMonotonicNs, ∃ timestampUtcNs,
        (s.applyMeasurements clientId measurements).clientMonotonicToUtc clientId
          clientMonotonicNs = some timestampUtcNs ∧
        |(timestampUtcNs : ℚ) - (clientMonotonicNs + offset)| ≤ state.uncertaintyNs + 1 := by
  obtain ⟨hmem, hclient⟩ := TimeSync.applied_best hbest
  refine ⟨⟨hmem, hclient, applied_best_le hbest⟩, ?_⟩
  have hstate : (s.applyMeasurements clientId measurements).clientStates.get? clientId =
      some (best.state clientId) := by
    unfold applyMeasurements
    rw [hbest]
    simp
  refine ⟨best.state clientId, hstate, rfl, fun clientMonotonicNs =>
    ⟨best.refUtcNs + (clientMonotonicNs - best.refClientMonotonicNs), ?_, ?_⟩⟩
  · unfold clientMonotonicToUtc
    rw [hstate]
    rfl
  · have hreference : ((best.refUtcNs + (clientMonotonicNs - best.refClientMonotonicNs) : Int) : ℚ) -
        (clientMonotonicNs + offset) = best.refUtcNs - (best.refClientMonotonicNs + offset) := by
      push_cast
      ring
    rw [hreference]
    exact (hgenuine best hmem hclient).reference_error

/-! ## A round of one probe -/

private def probe : PendingTimeSyncProbe where
  clientId := [65]
  requestId := 0
  t1UtcNs := 1000
  t1ServerMonotonicNs := 500

/-- The clock of the client is 1000 ns ahead, and the reply takes longer than the request. -/
private def reply : TimeSyncReply where
  clientId := [65]
  inReplyTo := 0
  bootId := "boot"
  c2ClientMonotonicNs := 2005
  c3ClientMonotonicNs := 2010
  t4ServerMonotonicNs := 601

theorem conversion_error_oneProbe :
    applied [65] [probe.measurement reply] = .best (probe.measurement reply) ∧
      ∃ state, (applyMeasurements {} [65] [probe.measurement reply]).clientStates.get? [65] =
          some state ∧ state.uncertaintyNs = 48 := by
  have hbest : applied [65] [probe.measurement reply] = .best (probe.measurement reply) := by
    decide
  have hgenuine : ∀ m ∈ [probe.measurement reply], m.clientId = [65] → Genuine (-1000) m := by
    intro m hm _
    rw [List.mem_singleton.1 hm]
    refine ⟨probe, reply, by decide, ⟨?_, ?_⟩, rfl⟩ <;> norm_num [probe, reply]
  obtain ⟨state, hstate, -, -⟩ := (conversion_error {} hgenuine hbest).2
  refine ⟨hbest, state, hstate, ?_⟩
  have hchosen : (applyMeasurements {} [65] [probe.measurement reply]).clientStates.get? [65] =
      some ((probe.measurement reply).state [65]) := by
    decide
  rw [hchosen] at hstate
  cases hstate
  decide

end TimeSyncService

end MultiDAQ.Server
