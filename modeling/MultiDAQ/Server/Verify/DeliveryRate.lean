import MultiDAQ.Server.Verify.StreamRollback
import Mathlib.Tactic.Ring

/-!
# The rate of the deliveries

The next delivery of a consumer and the interval that it asked for span a grid. A slot of the grid
is the time from one delivery to the next. Whatever the times at which the samples arrive, the next
delivery stays on the grid: a consumer is served at the first sample of a slot and at no other, and
a slot without a sample is passed over.
-/

namespace MultiDAQ.Server

open MultiDAQ.Lib

namespace StreamSubscription

variable (sub : StreamSubscription)

/-! ## The grid -/

/-- The slot of the grid that a time is in. The first slot begins with the next delivery. -/
def slot (nowNs : Int) : Int := (nowNs - sub.nextDeliveryNs) / sub.requestedIntervalNs

/-- The subscription whose next delivery is the beginning of a slot. -/
def atSlot (k : Int) : StreamSubscription :=
  { sub with nextDeliveryNs := sub.nextDeliveryNs + k * sub.requestedIntervalNs }

/-- The sample at `nowNs` is the first of its slot, after those at `times`. -/
def FirstInSlot (times : List Int) (nowNs : Int) : Prop :=
  sub.nextDeliveryNs ≤ nowNs ∧ ∀ t ∈ times, sub.slot t ≠ sub.slot nowNs

instance (times : List Int) (nowNs : Int) : Decidable (sub.FirstInSlot times nowNs) :=
  inferInstanceAs (Decidable (_ ∧ _))

@[simp] theorem atSlot_zero : sub.atSlot 0 = sub := by
  simp [atSlot]

theorem atSlot_nextDeliveryNs (k : Int) :
    (sub.atSlot k).nextDeliveryNs = sub.nextDeliveryNs + k * sub.requestedIntervalNs := rfl

theorem lt_atSlot_iff (k nowNs : Int) :
    nowNs < (sub.atSlot k).nextDeliveryNs ↔ sub.slot nowNs < k := by
  rw [slot, Int.ediv_lt_iff_lt_mul sub.interval_pos, atSlot_nextDeliveryNs]
  omega

theorem atSlot_le_iff (k nowNs : Int) :
    (sub.atSlot k).nextDeliveryNs ≤ nowNs ↔ k ≤ sub.slot nowNs := by
  rw [← Int.not_lt, lt_atSlot_iff, Int.not_lt]

theorem slot_nonneg_iff (nowNs : Int) : 0 ≤ sub.slot nowNs ↔ sub.nextDeliveryNs ≤ nowNs := by
  rw [← atSlot_le_iff, atSlot_zero]

theorem slot_le_slot {t t' : Int} (h : t ≤ t') : sub.slot t ≤ sub.slot t' :=
  Int.ediv_le_ediv sub.interval_pos (Int.sub_le_sub_right h _)

theorem isDue_atSlot (k nowNs : Int) : (sub.atSlot k).isDue nowNs ↔ k ≤ sub.slot nowNs := by
  rw [← atSlot_le_iff]
  simp [isDue]

/-! ## The loop -/

/-- The loop ends after finitely many passes, each of which is needed. -/
theorem skipTo_passes (intervalNs nowNs : Int) (h : 0 < intervalNs) (nextNs : Int) :
    ∃ passes : Nat, skipTo intervalNs nowNs h nextNs = nextNs + passes * intervalNs ∧
      ∀ k : Nat, k < passes ↔ nextNs + k * intervalNs ≤ nowNs := by
  fun_induction skipTo intervalNs nowNs h nextNs with
  | case1 nextNs hle ih =>
    obtain ⟨passes, heq, hpass⟩ := ih
    refine ⟨passes + 1, by rw [heq]; push_cast; ring, fun k => ?_⟩
    cases k with
    | zero => simpa using hle
    | succ k =>
      have hk : nextNs + (k + 1 : Nat) * intervalNs = nextNs + intervalNs + k * intervalNs := by
        push_cast; ring
      rw [hk, ← hpass k]
      omega
  | case2 nextNs hnext =>
    refine ⟨0, by simp, fun k => ?_⟩
    have hk : 0 ≤ (k : Int) * intervalNs := Int.mul_nonneg (Int.natCast_nonneg k) (Int.le_of_lt h)
    omega

/-- A consumer that is due moves on to the slot after that of the sample. -/
theorem deliver_atSlot (k nowNs : Int) :
    (sub.atSlot k).deliver nowNs = sub.atSlot (max k (sub.slot nowNs + 1)) := by
  by_cases hdue : k ≤ sub.slot nowNs
  · obtain ⟨passes, heq, hpass⟩ := skipTo_passes sub.requestedIntervalNs nowNs sub.interval_pos
      (sub.atSlot k).nextDeliveryNs
    have hslot (j : Nat) : j < passes ↔ k + j ≤ sub.slot nowNs := by
      rw [hpass j, ← atSlot_le_iff, atSlot_nextDeliveryNs, atSlot_nextDeliveryNs]
      ring_nf
    have hlast := (hslot passes).not.1 (Nat.lt_irrefl _)
    have hprev := (hslot (passes - 1)).1
    have hcount : max k (sub.slot nowNs + 1) = k + passes := by omega
    have hnext : skipTo sub.requestedIntervalNs nowNs sub.interval_pos
        (sub.atSlot k).nextDeliveryNs = (sub.atSlot (k + passes)).nextDeliveryNs := by
      rw [heq, atSlot_nextDeliveryNs, atSlot_nextDeliveryNs]
      ring
    rw [deliver, if_pos ((sub.isDue_atSlot k nowNs).2 hdue), hcount]
    exact congrArg (fun n => { sub with nextDeliveryNs := n }) hnext
  · rw [deliver, if_neg (mt (sub.isDue_atSlot k nowNs).1 hdue), max_eq_left (by omega)]

/-! ## The samples one after the other -/

/-- The slot that the next delivery begins, after the samples at `times`. -/
def slotAfter (times : List Int) : Int :=
  run (fun k nowNs => max k (sub.slot nowNs + 1)) 0 times

theorem run_deliver (times : List Int) :
    run deliver sub times = sub.atSlot (sub.slotAfter times) := by
  have hfrom (k : Int) : run deliver (sub.atSlot k) times =
      sub.atSlot (run (fun k nowNs => max k (sub.slot nowNs + 1)) k times) := by
    induction times generalizing k with
    | nil => rfl
    | cons nowNs times ih => rw [run_cons, run_cons, deliver_atSlot, ih]
  have hzero := hfrom 0
  rwa [atSlot_zero] at hzero

theorem slotAfter_append (times : List Int) (nowNs : Int) :
    sub.slotAfter (times ++ [nowNs]) = max (sub.slotAfter times) (sub.slot nowNs + 1) :=
  run_append _ _ _

theorem slotAfter_nonneg (times : List Int) : 0 ≤ sub.slotAfter times := by
  induction times using List.reverseRecOn with
  | nil => exact Int.le_refl 0
  | append_singleton times nowNs ih =>
    rw [slotAfter_append]
    omega

/-- The next delivery is past every sample. -/
theorem slot_lt_slotAfter {times : List Int} {t : Int} (ht : t ∈ times) :
    sub.slot t < sub.slotAfter times := by
  induction times using List.reverseRecOn with
  | nil => cases ht
  | append_singleton times nowNs ih =>
    rw [slotAfter_append]
    rcases List.mem_append.1 ht with ht | ht
    · have := ih ht
      omega
    · rw [List.mem_singleton.1 ht]
      omega

/-- Once the grid has begun, the last slot passed has a sample. -/
theorem slotAfter_eq (times : List Int) :
    sub.slotAfter times = 0 ∨ ∃ t ∈ times, sub.slotAfter times = sub.slot t + 1 := by
  induction times using List.reverseRecOn with
  | nil => exact .inl rfl
  | append_singleton times nowNs ih =>
    rw [slotAfter_append]
    rcases Int.le_total (sub.slotAfter times) (sub.slot nowNs + 1) with hle | hle
    · exact .inr ⟨nowNs, by simp, max_eq_right hle⟩
    · rw [max_eq_left hle]
      exact ih.imp_right fun ⟨t, ht, heq⟩ => ⟨t, List.mem_append_left _ ht, heq⟩

/-- A consumer is due at the first sample of each slot and at no other. -/
theorem slotAfter_le_iff {times : List Int} {nowNs : Int} (hlast : ∀ t ∈ times, t ≤ nowNs) :
    sub.slotAfter times ≤ sub.slot nowNs ↔ sub.FirstInSlot times nowNs := by
  rw [FirstInSlot, ← slot_nonneg_iff]
  constructor
  · intro hle
    refine ⟨Int.le_trans (sub.slotAfter_nonneg times) hle, fun t ht heq => ?_⟩
    have := sub.slot_lt_slotAfter ht
    omega
  · rintro ⟨hbegun, hfirst⟩
    rcases sub.slotAfter_eq times with hzero | ⟨t, ht, heq⟩
    · rwa [hzero]
    · have hle := sub.slot_le_slot (hlast t ht)
      have hne := hfirst t ht
      omega

end StreamSubscription

/-! ## The streams -/

theorem deliverAll_eq (stream : MonitorStreamState) (times : List Int) :
    deliverAll (some stream) times =
      some { stream with
        consumers :=
          stream.consumers.mapVals fun _ sub => run StreamSubscription.deliver sub times } := by
  induction times generalizing stream with
  | nil =>
    have hsame : stream.consumers.mapVals (fun _ sub => run StreamSubscription.deliver sub []) =
        stream.consumers := Dict.mapVals_eq_self fun _ _ _ => rfl
    rw [deliverAll_nil, hsame]
  | cons nowNs times ih =>
    rw [deliverAll_cons, Option.map_some, ih, MonitorStreamState.deliver, Dict.mapVals_mapVals]
    rfl

namespace Streamers

/-- The samples of a stream that arrive at these times, one after the other. -/
def getDueAll (s : Streamers) (key : StreamKey) (times : List Int) : Streamers :=
  finalState (fun s nowNs => s.getDueSubscriptions key nowNs) s times

theorem get?_getDueAll (s : Streamers) (key : StreamKey) (times : List Int) :
    (s.getDueAll key times).get? key = deliverAll (s.get? key) times := by
  induction times generalizing s with
  | nil => rfl
  | cons nowNs times ih =>
    show ((s.getDueSubscriptions key nowNs).1.getDueAll key times).get? key = _
    rw [ih, MonitorStreams.get?_getDueSubscriptions, if_pos rfl, deliverAll_cons]

/-- The consumers that a sample is delivered to. -/
theorem getDue_getDueAll {s : Streamers} {key : StreamKey} {stream : MonitorStreamState}
    (hstream : s.get? key = some stream) {times : List Int} {nowNs : Int}
    (hlast : ∀ t ∈ times, t ≤ nowNs) :
    ((s.getDueAll key times).getDueSubscriptions key nowNs).2 =
      ((stream.consumers.entries.map Prod.snd).filter fun sub => sub.FirstInSlot times nowNs).map
        fun sub => sub.atSlot (sub.slot nowNs + 1) := by
  have hdue (sub : StreamSubscription) :
      (run StreamSubscription.deliver sub times).isDue nowNs ↔ sub.FirstInSlot times nowNs := by
    rw [sub.run_deliver, sub.isDue_atSlot, sub.slotAfter_le_iff hlast]
  have hnow : (s.getDueAll key times).get? key = some _ :=
    (s.get?_getDueAll key times).trans ((congrArg (deliverAll · times) hstream).trans
      (deliverAll_eq stream times))
  have hvals : ((stream.consumers.mapVals fun _ sub =>
      run StreamSubscription.deliver sub times).entries.map Prod.snd) =
        (stream.consumers.entries.map Prod.snd).map (run StreamSubscription.deliver · times) := by
    simp [Dict.mapVals, Function.comp_def]
  rw [getDueSubscriptions, hnow]
  dsimp only
  rw [hvals, List.filter_map, List.map_map]
  have hfilter : (StreamSubscription.isDue · nowNs) ∘ (run StreamSubscription.deliver · times) =
      fun sub => decide (sub.FirstInSlot times nowNs) :=
    funext fun sub => Bool.eq_iff_iff.2 ((hdue sub).trans decide_eq_true_iff.symm)
  rw [hfilter]
  refine List.map_congr_left fun sub hsub => ?_
  have hfirst := (sub.slotAfter_le_iff hlast).2 (of_decide_eq_true (List.mem_filter.1 hsub).2)
  show (run StreamSubscription.deliver sub times).deliver nowNs = _
  rw [sub.run_deliver, sub.deliver_atSlot, max_eq_right (by omega)]

/-- **The rate of the deliveries.** Whatever the consumers of a stream and the times, in order, at
which its samples arrive: a sample is delivered to the consumers for which it is the first in a slot
of their grid, whose next delivery is then the beginning of the next slot; every consumer's next
delivery is always on the grid; and the loop that moves it there ends after finitely many passes. -/
theorem deliveries_on_grid (s : Streamers) (key : StreamKey) (stream : MonitorStreamState)
    (hstream : s.get? key = some stream) (times : List Int) (hsorted : times.Pairwise (· ≤ ·)) :
    (∀ pre nowNs post, times = pre ++ nowNs :: post →
      ((s.getDueAll key pre).getDueSubscriptions key nowNs).2 =
          ((stream.consumers.entries.map Prod.snd).filter fun sub =>
            sub.FirstInSlot pre nowNs).map (fun sub => sub.atSlot (sub.slot nowNs + 1)) ∧
        ∀ served ∈ ((s.getDueAll key pre).getDueSubscriptions key nowNs).2,
          nowNs < served.nextDeliveryNs) ∧
      (∀ pre, pre <+: times → ∀ consumer sub, stream.consumers.get? consumer = some sub →
        ∃ stream', (s.getDueAll key pre).get? key = some stream' ∧
          ∃ k : Nat, stream'.consumers.get? consumer = some (sub.atSlot k)) ∧
      ∀ (sub : StreamSubscription) (nowNs : Int), ∃ passes : Nat,
        StreamSubscription.skipTo sub.requestedIntervalNs nowNs sub.interval_pos
            sub.nextDeliveryNs = sub.nextDeliveryNs + passes * sub.requestedIntervalNs ∧
          ∀ k : Nat, k < passes ↔ sub.nextDeliveryNs + k * sub.requestedIntervalNs ≤ nowNs := by
  refine ⟨fun pre nowNs post heq => ?_, fun pre _ consumer sub hsub => ?_, fun sub nowNs =>
    StreamSubscription.skipTo_passes _ nowNs sub.interval_pos _⟩
  · subst heq
    have hlast : ∀ t ∈ pre, t ≤ nowNs := fun t ht =>
      (List.pairwise_append.1 hsorted).2.2 t ht nowNs List.mem_cons_self
    have hdue := getDue_getDueAll (s := s) hstream hlast
    refine ⟨hdue, fun served hserved => ?_⟩
    rw [hdue] at hserved
    obtain ⟨sub, -, rfl⟩ := List.mem_map.1 hserved
    rw [sub.lt_atSlot_iff]
    omega
  · refine ⟨_, (s.get?_getDueAll key pre).trans
      ((congrArg (deliverAll · pre) hstream).trans (deliverAll_eq stream pre)), ?_⟩
    obtain ⟨k, hk⟩ := Int.eq_ofNat_of_zero_le (sub.slotAfter_nonneg pre)
    refine ⟨k, ?_⟩
    rw [Dict.get?_mapVals, hsub, Option.map_some, sub.run_deliver, hk]

/-- Two consumers with intervals of 100 and 30, and samples at 5, 100, 120 and, after a gap, 500. -/
theorem deliveries_on_grid_twoConsumers :
    let key : StreamKey := ([1], .hv)
    let sub (consumer : String) (intervalNs : Int) (h : 0 < intervalNs) : StreamSubscription :=
      { consumerId := consumer, requestedIntervalNs := intervalNs, nextDeliveryNs := 0,
        interval_pos := h }
    let consumers := (Dict.empty.set "persistence" (sub "persistence" 100 (by decide))).set
      "prometheus" (sub "prometheus" 30 (by decide))
    let s : Streamers := Dict.empty.set key { key, consumers }
    ∀ served ∈ ((s.getDueAll key [5, 100, 120]).getDueSubscriptions key 500).2,
      500 < served.nextDeliveryNs := by
  intro key sub consumers s
  exact ((deliveries_on_grid s key { key, consumers } rfl [5, 100, 120, 500] (by decide)).1
    [5, 100, 120] 500 [] rfl).2

end Streamers

end MultiDAQ.Server
