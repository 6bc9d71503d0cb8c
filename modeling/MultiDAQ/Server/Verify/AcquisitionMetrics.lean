import Mathlib.Algebra.Order.Ring.Int
import MultiDAQ.Server.AcquisitionMetrics

/-!
# The counters of the acquisition over several receivers

A counter grows by what the messages of its source tell (`handleAll_spec`), and of a new receiver they
tell only when the first value of it that arrives is smaller than the last one before. So the exported
value is the sum of the last values of all the receivers exactly when each new receiver is seen in
this way (`exported_eq_sumLast_iff`). A receiver that begins with as many events as the last one has
reported is taken for the same one, and what the last one has counted is lost (`exported_restart`).
-/

namespace MultiDAQ.Server

open MultiDAQ.Lib

namespace AcquisitionMetrics

variable {s : AcquisitionMetrics} {counter : AcquisitionCounter} {labels : SourceLabels}
  {sourceId : SourceId} {clientId : String} {value : Int}

/-! ## One counter -/

theorem counterDelta_eq_increase (previous : Option Int) (value : Int) :
    counterDelta previous value = increase previous value := by
  cases previous with
  | none => rfl
  | some p => rfl

theorem counterDelta_nonneg {previous : Option Int} (h : 0 ≤ value) :
    0 ≤ counterDelta previous value := by
  cases previous with
  | none => exact h
  | some p =>
    show 0 ≤ if p ≤ value then value - p else value
    split <;> omega

theorem get?_update (h : 0 ≤ value) :
    (s.updateAcquisitionCounter counter labels sourceId value).acquisitionCounterState.get?
      (counter, sourceId) = some value := by
  unfold updateAcquisitionCounter
  rw [if_neg (Int.not_lt.2 h)]
  exact (Dict.get?_set ..).trans (if_pos rfl)

/-- The state of another counter, or of another source. -/
theorem get?_update_of_ne {key : AcquisitionCounter × SourceId} (hkey : key ≠ (counter, sourceId)) :
    (s.updateAcquisitionCounter counter labels sourceId value).acquisitionCounterState.get? key =
      s.acquisitionCounterState.get? key := by
  unfold updateAcquisitionCounter
  split
  · rfl
  · exact (Dict.get?_set ..).trans (if_neg hkey)

theorem exported_update (h : 0 ≤ value) :
    (s.updateAcquisitionCounter counter labels sourceId value).exported counter clientId =
      s.exported counter clientId + if labels.clientId = clientId then
        increase (s.acquisitionCounterState.get? (counter, sourceId)) value else 0 := by
  rw [← counterDelta_eq_increase]
  have hnonneg : 0 ≤ counterDelta (s.acquisitionCounterState.get? (counter, sourceId)) value :=
    counterDelta_nonneg h
  unfold updateAcquisitionCounter exported
  rw [if_neg (Int.not_lt.2 h)]
  dsimp only
  split
  next =>
    rw [Function.update_self, Dict.total_addTo]
    simp only [decide_eq_true_eq]
  next hzero =>
    have heq : counterDelta (s.acquisitionCounterState.get? (counter, sourceId)) value = 0 := by
      omega
    rw [heq, ite_self, Int.add_zero]

theorem exported_update_of_ne {counter' : AcquisitionCounter} (hne : counter' ≠ counter) :
    (s.updateAcquisitionCounter counter labels sourceId value).exported counter' clientId =
      s.exported counter' clientId := by
  unfold updateAcquisitionCounter exported
  split
  next => rfl
  next =>
    dsimp only
    split
    · rw [Function.update_of_ne hne]
    · rfl

/-- Series with the label of another client. -/
theorem exported_update_of_client {counter' : AcquisitionCounter}
    (hclient : labels.clientId ≠ clientId) :
    (s.updateAcquisitionCounter counter labels sourceId value).exported counter' clientId =
      s.exported counter' clientId := by
  by_cases hcounter : counter' = counter
  · subst hcounter
    by_cases h : 0 ≤ value
    · rw [exported_update h, if_neg hclient, Int.add_zero]
    · unfold updateAcquisitionCounter
      rw [if_pos (Int.not_le.1 h)]
  · exact exported_update_of_ne hcounter

theorem updateRates_counters (s : AcquisitionMetrics) (labels : SourceLabels) (m : SourceMetric) :
    (s.updateRates labels m).counters = s.counters ∧
      (s.updateRates labels m).acquisitionCounterState = s.acquisitionCounterState := by
  unfold updateRates
  dsimp only
  split
  · exact ⟨rfl, rfl⟩
  · split <;> exact ⟨rfl, rfl⟩

/-! ## Messages -/

/-- What the message of a source does to one of its counters. -/
theorem handleSource_spec {m : SourceMetric} (s : AcquisitionMetrics) (labels : SourceLabels)
    (timeS : ℚ) (clientId : String) (hvalue : 0 ≤ m.value counter) :
    (s.handleSource labels m timeS).acquisitionCounterState.get? (counter, m.sourceId) =
        some (m.value counter) ∧
      (s.handleSource labels m timeS).exported counter clientId =
        s.exported counter clientId + if labels.clientId = clientId then
          increase (s.acquisitionCounterState.get? (counter, m.sourceId)) (m.value counter)
        else 0 := by
  unfold handleSource
  dsimp only
  unfold exported
  dsimp only
  rw [(updateRates_counters _ _ _).1, (updateRates_counters _ _ _).2]
  show _ ∧ exported _ counter clientId = exported _ counter clientId + _
  cases counter with
  | eventsReceived =>
    rw [get?_update_of_ne (by simp), get?_update_of_ne (by simp), get?_update hvalue,
      exported_update_of_ne (by decide), exported_update_of_ne (by decide), exported_update hvalue]
    exact ⟨rfl, rfl⟩
  | eventsWritten =>
    rw [get?_update_of_ne (by simp), get?_update hvalue, exported_update_of_ne (by decide),
      exported_update hvalue, exported_update_of_ne (by decide), get?_update_of_ne (by simp)]
    exact ⟨rfl, rfl⟩
  | bytesReceived =>
    rw [get?_update hvalue, exported_update hvalue, exported_update_of_ne (by decide),
      exported_update_of_ne (by decide), get?_update_of_ne (by simp), get?_update_of_ne (by simp)]
    exact ⟨rfl, rfl⟩

/-- The message of another source does nothing to the counters of this one. -/
theorem handleSource_of_ne {m : SourceMetric} (s : AcquisitionMetrics) (timeS : ℚ)
    (counter : AcquisitionCounter) (hsource : m.sourceId ≠ sourceId) (hclient : labels.clientId ≠ clientId) :
    (s.handleSource labels m timeS).acquisitionCounterState.get? (counter, sourceId) =
        s.acquisitionCounterState.get? (counter, sourceId) ∧
      (s.handleSource labels m timeS).exported counter clientId = s.exported counter clientId := by
  have hkey (counter' : AcquisitionCounter) : (counter, sourceId) ≠ (counter', m.sourceId) :=
    fun heq => hsource (Prod.mk.inj heq).2.symm
  unfold handleSource
  dsimp only
  unfold exported
  dsimp only
  rw [(updateRates_counters _ _ _).1, (updateRates_counters _ _ _).2]
  show _ ∧ exported _ counter clientId = exported _ counter clientId
  rw [get?_update_of_ne (hkey _), get?_update_of_ne (hkey _), get?_update_of_ne (hkey _),
    exported_update_of_client hclient, exported_update_of_client hclient,
    exported_update_of_client hclient]
  exact ⟨rfl, rfl⟩

/-- The client has this source and no other, and the source this client. -/
def SourceOf (hs : List Handling) (sourceId : SourceId) (clientId : String) : Prop :=
  ∀ h ∈ hs, ∀ m labels, h.metric = .source m → h.labels = some labels →
    (labels.clientId = clientId ↔ m.sourceId = sourceId)

/-- One message: a value that is reported for the source is counted, and nothing else is. -/
theorem handle_spec (s : AcquisitionMetrics) (h : Handling)
    (hsource : ∀ m labels, h.metric = .source m → h.labels = some labels →
      (labels.clientId = clientId ↔ m.sourceId = sourceId))
    (hnonneg : ∀ v ∈ h.reported counter sourceId, 0 ≤ v) :
    let s' := (s.handleAcquisitionMetrics h).1
    let previous := s.acquisitionCounterState.get? (counter, sourceId)
    s'.acquisitionCounterState.get? (counter, sourceId) =
        (h.reported counter sourceId).or previous ∧
      s'.exported counter clientId = s.exported counter clientId +
        totalIncrease previous (h.reported counter sourceId).toList := by
  obtain ⟨metric, labels, timeS⟩ := h
  cases metric with
  | worker worker queueSize queueCapacity => exact ⟨rfl, (Int.add_zero _).symm⟩
  | sourceStop stopped => cases labels <;> exact ⟨rfl, (Int.add_zero _).symm⟩
  | source m =>
    cases labels with
    | none => exact ⟨rfl, (Int.add_zero _).symm⟩
    | some labels =>
      have hiff := hsource m labels rfl rfl
      show (s.handleSource labels m timeS).acquisitionCounterState.get? _ = _ ∧
        (s.handleSource labels m timeS).exported _ _ = _
      by_cases hid : m.sourceId = sourceId
      · have hreported : Handling.reported counter sourceId
            { metric := .source m, labels := some labels, timeS } = some (m.value counter) :=
          if_pos hid
        have hvalue : 0 ≤ m.value counter := hnonneg _ hreported
        obtain ⟨hstate, hexported⟩ := handleSource_spec s labels timeS clientId hvalue
        rw [if_pos (hiff.2 hid)] at hexported
        rw [hid] at hstate hexported
        rw [hreported, hstate, hexported]
        refine ⟨rfl, congrArg _ ?_⟩
        exact (Int.add_zero _).symm
      · have hreported : Handling.reported counter sourceId
            { metric := .source m, labels := some labels, timeS } = none := if_neg hid
        have hclient : labels.clientId ≠ clientId := fun heq => hid (hiff.1 heq)
        obtain ⟨hstate, hexported⟩ := handleSource_of_ne s timeS counter hid hclient
        rw [hreported, hstate, hexported]
        exact ⟨rfl, (Int.add_zero _).symm⟩

/-- A run of messages: the exported value grows by the increases of the values that are reported. -/
theorem handleAll_spec {hs : List Handling} (s : AcquisitionMetrics)
    (hsource : SourceOf hs sourceId clientId)
    (hnonneg : ∀ v ∈ reportedValues counter sourceId hs, 0 ≤ v) :
    (s.handleAll hs).exported counter clientId = s.exported counter clientId +
      totalIncrease (s.acquisitionCounterState.get? (counter, sourceId))
        (reportedValues counter sourceId hs) := by
  induction hs generalizing s with
  | nil => exact (Int.add_zero _).symm
  | cons h hs ih =>
    have hvalues : reportedValues counter sourceId (h :: hs) =
        (h.reported counter sourceId).toList ++ reportedValues counter sourceId hs := by
      unfold reportedValues
      rw [List.filterMap_cons]
      cases h.reported counter sourceId <;> rfl
    rw [hvalues] at hnonneg ⊢
    obtain ⟨hstate, hexported⟩ := handle_spec s h (hsource h List.mem_cons_self) fun v hv =>
      hnonneg v (List.mem_append_left _ (Option.mem_toList.2 hv))
    have hrest := ih (s.handleAcquisitionMetrics h).1
      (fun h' hh' => hsource h' (List.mem_cons_of_mem _ hh'))
      fun v hv => hnonneg v (List.mem_append_right _ hv)
    show ((s.handleAcquisitionMetrics h).1.handleAll hs).exported counter clientId = _
    rw [hrest, hstate, hexported, totalIncrease_append, Int.add_assoc]
    congr 3
    cases h.reported counter sourceId <;> rfl

/-! ## Several receivers -/

/-- The exported value is the sum over the receivers of the last value that each has reported exactly
when, wherever one begins to report, its first value is smaller than the last one before, or that is
zero. -/
theorem exported_eq_sumLast_iff {processes : List (List Handling)}
    (hsource : SourceOf processes.flatten sourceId clientId)
    (hmono : ∀ hs ∈ processes, (reportedValues counter sourceId hs).Pairwise (· ≤ ·))
    (hnonneg : ∀ hs ∈ processes, ∀ v ∈ reportedValues counter sourceId hs, 0 ≤ v) :
    (handleAll {} processes.flatten).exported counter clientId =
        sumLast (processes.map (reportedValues counter sourceId)) ↔
      RestartsSeen none (processes.map (reportedValues counter sourceId)) := by
  have hvalues : reportedValues counter sourceId processes.flatten =
      (processes.map (reportedValues counter sourceId)).flatten := List.filterMap_flatten
  have hall : ∀ v ∈ reportedValues counter sourceId processes.flatten, 0 ≤ v := by
    intro v hv
    rw [hvalues] at hv
    obtain ⟨values, hmem, hv⟩ := List.mem_flatten.1 hv
    obtain ⟨hs, hhs, rfl⟩ := List.mem_map.1 hmem
    exact hnonneg hs hhs v hv
  have hexported : (handleAll {} processes.flatten).exported counter clientId =
      totalIncrease none (processes.map (reportedValues counter sourceId)).flatten := by
    rw [handleAll_spec {} hsource hall, hvalues]
    exact Int.zero_add _
  rw [hexported]
  refine totalIncrease_flatten_iff ?_ ?_
  · intro values hmem
    obtain ⟨hs, hhs, rfl⟩ := List.mem_map.1 hmem
    exact hmono hs hhs
  · intro values hmem
    obtain ⟨hs, hhs, rfl⟩ := List.mem_map.1 hmem
    exact hnonneg hs hhs

/-- The message of a source whose counters are all `value`. -/
private def allCounters (value : Int) : Handling where
  metric := .source
    { sourceId := ['1', '7'], value := fun _ => value, timestampMonotonicNs := 0 }
  labels := some { clientId := "daq07", multipmtId := "3", batchId := "1" }
  timeS := 0

private theorem sourceOf_allCounters {hs : List Handling}
    (h : ∀ handling ∈ hs, ∃ value, handling = allCounters value) :
    SourceOf hs ['1', '7'] "daq07" := by
  intro handling hmem m labels hmetric hlabels
  obtain ⟨value, rfl⟩ := h handling hmem
  cases hmetric
  cases hlabels
  exact ⟨fun _ => rfl, fun _ => rfl⟩

/-- A receiver that reports 5 and 7, and one that reports 3. -/
theorem exported_eq_sumLast_seven_three :
    (handleAll {} [allCounters 5, allCounters 7, allCounters 3]).exported .eventsReceived "daq07" =
      10 := by
  have hsource : SourceOf [[allCounters 5, allCounters 7], [allCounters 3]].flatten ['1', '7']
      "daq07" := sourceOf_allCounters (by simp)
  refine (exported_eq_sumLast_iff hsource (by decide) (by decide)).2 ⟨nofun, ?_, trivial⟩
  rintro p ⟨⟩
  decide

/-- Each of two receivers reports its first batch of 2048 events, and nothing more arrives of it. -/
theorem exported_restart :
    let processes := [[allCounters 2048], [allCounters 2048]]
    SourceOf processes.flatten ['1', '7'] "daq07" ∧
      (∀ hs ∈ processes, ∀ counter,
        (reportedValues counter ['1', '7'] hs).Pairwise (· ≤ ·) ∧
          ∀ v ∈ reportedValues counter ['1', '7'] hs, 0 ≤ v) ∧
      (handleAll {} processes.flatten).exported .eventsReceived "daq07" = 2048 ∧
      sumLast (processes.map (reportedValues .eventsReceived ['1', '7'])) = 4096 := by
  refine ⟨sourceOf_allCounters (by simp), ?_, by decide +kernel, by decide +kernel⟩
  intro hs hmem counter
  obtain rfl : hs = [allCounters 2048] := by simpa using hmem
  cases counter <;> decide

end AcquisitionMetrics

end MultiDAQ.Server
