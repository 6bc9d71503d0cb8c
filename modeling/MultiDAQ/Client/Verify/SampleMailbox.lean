import MultiDAQ.Client.SampleMailbox

/-!
# Which samples are taken

The queue has one producer, and the samples that leave it are in order, each the newest that was
stored. But a stop only disables the section and empties its queue: a measurement that is under way
is finished and stored all the same, and found by the forwarder after the stop has returned, or
after the next start.
-/

namespace MultiDAQ.Client

open MultiDAQ.Lib

/-- The section was enabled from the beginning of the measurement to its end. -/
def MonitorSample.MeasuredEnabled (x : MonitorSample) : Prop :=
  x.start.enabled = true ∧ x.stopsAtEnd = x.start.stops

namespace SampleSection

/-- The sample that the next step of the producer puts into the queue, if it does. -/
def puts (s : SampleSection) : Option MonitorSample :=
  match s.producer, s.queue with
  | .storing .put x, none | .storing .putAgain x, none => some x
  | _, _ => none

/-- No stop has taken effect between the beginning of the measurement and now, and none before it
that no start has followed. -/
def Uninterrupted (s : SampleSection) (x : MonitorSample) : Prop :=
  x.start.enabled = true ∧ x.start.stops = s.stops

/-- A sample is stored only if its measurement was not interrupted by a stop, and a start does not
take effect before a stop has emptied the queue. -/
def Undisturbed (s : SampleSection) : SectionAction → Prop
  | .produce _ _ _ => ∀ x, s.puts = some x → s.Uninterrupted x
  | .start => s.enabled = false → s.queue = none
  | .stop _ | .empty _ | .take => True

instance (s : SampleSection) (x : MonitorSample) : Decidable (s.Uninterrupted x) :=
  inferInstanceAs (Decidable (_ ∧ _))

instance (s : SampleSection) : ∀ a, Decidable (s.Undisturbed a)
  | .produce _ _ _ => match hputs : s.puts with
    | none => .isTrue fun x hx => by cases hputs.symm.trans hx
    | some x => decidable_of_iff (s.Uninterrupted x)
      ⟨fun h y hy => Option.some.inj (hputs.symm.trans hy) ▸ h, fun h => h x hputs⟩
  | .start => inferInstanceAs (Decidable (_ → _))
  | .stop _ | .empty _ | .take => .isTrue trivial

/-- What holds of the sample that is available. -/
structure Available (s : SampleSection) (x : MonitorSample) : Prop where
  increasing : ∀ y ∈ s.taken, y.sequence < x.sequence
  newest : s.newest = some x.sequence
  measured : x.MeasuredEnabled
  /-- In an enabled section it was begun after the last stop, and so after the start since. -/
  current : s.enabled = true → x.start.stops = s.stops

/-- The promise of the mailbox: what was taken is in order, what is available may be taken, and
after a stop has returned nothing is available until the next start. -/
structure Holds (s : SampleSection) : Prop where
  ordered : s.taken.Pairwise fun x y => x.sequence < y.sequence
  available : ∀ x, s.queue = some x → s.Available x
  stopped : s.stopped = true → s.queue = none

/-! ## The invariant -/

/-- A measurement began before now, and in this state of the section if no stop was since. -/
def Within (s : SampleSection) (start : SampleStart) : Prop :=
  start.stops ≤ s.stops ∧ (start.enabled = true → start.stops = s.stops → s.enabled = true)

/-- What holds of a sample that is being stored. -/
structure Storing (s : SampleSection) (x : MonitorSample) : Prop where
  numbered : x.sequence < s.sequence
  newer : ∀ n, s.newest = some n → n < x.sequence
  within : s.Within x.start
  ended : x.start.stops ≤ x.stopsAtEnd ∧ x.stopsAtEnd ≤ s.stops

/-- What holds of the producer, wherever it is. -/
def ProducerOk (s : SampleSection) : ProducerTask → Prop
  | .idle | .due => True
  | .measuring start => s.Within start
  | .storing stage x => s.Storing x ∧ (stage = .putAgain → s.queue = none)

structure Inv (s : SampleSection) : Prop extends s.Holds where
  producer : s.ProducerOk s.producer
  numbered : ∀ n, s.newest = some n → n < s.sequence
  taken : ∀ y ∈ s.taken, ∃ n, s.newest = some n ∧ y.sequence ≤ n
  disabled : s.stopped = true → s.enabled = false
  stops : ∀ call starts, s.stopCalls call = .emptying starts →
    starts ≤ s.starts ∧ (starts = s.starts → s.enabled = false)

variable {s : SampleSection}

theorem inv_init : Inv {} where
  ordered := .nil
  available := nofun
  stopped := nofun
  producer := trivial
  numbered := nofun
  taken := nofun
  disabled := nofun
  stops := nofun

/-- A step of another thread: the numbers stay, and the queue is not filled. -/
theorem ProducerOk.of_frame {s' : SampleSection} {task : ProducerTask} (h : s.ProducerOk task)
    (hsequence : s'.sequence = s.sequence) (hnewest : s'.newest = s.newest)
    (hstops : s.stops ≤ s'.stops) (hwithin : ∀ start, s.Within start → s'.Within start)
    (hqueue : s.queue = none → s'.queue = none) : s'.ProducerOk task := by
  cases task with
  | idle | due => trivial
  | measuring start => exact hwithin start h
  | storing stage x =>
    refine ⟨⟨hsequence ▸ h.1.numbered, hnewest ▸ h.1.newer, hwithin _ h.1.within, h.1.ended.1,
      Nat.le_trans h.1.ended.2 hstops⟩, fun hstage => hqueue (h.2 hstage)⟩

theorem Available.of_frame {s' : SampleSection} {x : MonitorSample} (h : s.Available x)
    (htaken : s'.taken = s.taken) (hnewest : s'.newest = s.newest)
    (hcurrent : s'.enabled = true → x.start.stops = s'.stops) : s'.Available x :=
  ⟨htaken ▸ h.increasing, hnewest ▸ h.newest, h.measured, hcurrent⟩

/-! ## The steps -/

theorem inv_startSection (h : s.Inv) (hempty : s.enabled = false → s.queue = none) :
    s.startSection.Inv where
  ordered := h.ordered
  available x hx := by
    have hav := h.available x hx
    refine hav.of_frame rfl rfl fun _ => ?_
    cases hen : s.enabled with
    | true => exact hav.current hen
    | false =>
      rw [show s.queue = some x from hx] at hempty
      cases hempty hen
  stopped := nofun
  producer := h.producer.of_frame rfl rfl (Nat.le_refl _) (fun _ hw => ⟨hw.1, fun _ _ => rfl⟩) id
  numbered := h.numbered
  taken := h.taken
  disabled := nofun
  stops call starts hcall := by
    have := (h.stops call starts hcall).1
    exact ⟨Nat.le_succ_of_le this, fun heq => absurd (heq ▸ this) (Nat.not_succ_le_self _)⟩

theorem inv_stopSection (h : s.Inv) (call : Nat) : (s.stopSection call).Inv := by
  unfold stopSection
  split
  · exact {
      ordered := h.ordered
      available := fun x hx => (h.available x hx).of_frame rfl rfl nofun
      stopped := h.stopped
      producer := h.producer.of_frame rfl rfl (Nat.le_succ _)
        (fun start hw => ⟨Nat.le_succ_of_le hw.1, fun _ heq =>
          absurd (heq ▸ hw.1) (Nat.not_succ_le_self _)⟩) id
      numbered := h.numbered
      taken := h.taken
      disabled := fun _ => rfl
      stops := fun call' starts hcall => by
        dsimp only at hcall
        by_cases hsame : call' = call
        · subst hsame
          rw [Function.update_self] at hcall
          cases hcall
          exact ⟨Nat.le_refl _, fun _ => rfl⟩
        · rw [Function.update_of_ne hsame] at hcall
          exact ⟨(h.stops call' starts hcall).1, fun _ => rfl⟩ }
  · exact h

/-- The queue is emptied. -/
theorem producerOk_emptied {task : ProducerTask} {taken : List MonitorSample}
    (h : s.ProducerOk task) : ({ s with queue := none, taken } : SampleSection).ProducerOk task :=
  h.of_frame rfl rfl (Nat.le_refl _) (fun _ => id) fun _ => rfl

theorem inv_emptyQueue (h : s.Inv) (call : Nat) : (s.emptyQueue call).Inv := by
  unfold emptyQueue
  split
  · exact h
  · exact {
      ordered := h.ordered
      available := nofun
      stopped := fun _ => rfl
      producer := producerOk_emptied h.producer
      numbered := h.numbered
      taken := h.taken
      disabled := h.disabled
      stops := h.stops }
  next starts hcall hqueue =>
    exact {
      ordered := h.ordered
      available := fun x hx =>
        have hav := h.available x hx
        hav.of_frame rfl rfl hav.current
      stopped := fun _ => hqueue
      producer := h.producer.of_frame rfl rfl (Nat.le_refl _) (fun _ => id) id
      numbered := h.numbered
      taken := h.taken
      disabled := fun hstopped => by
        rcases Bool.or_eq_true_iff.1 hstopped with hbefore | hnow
        · exact h.disabled hbefore
        · exact (h.stops call starts hcall).2 (of_decide_eq_true hnow)
      stops := fun call' starts' hcall' => by
        dsimp only at hcall'
        by_cases hsame : call' = call
        · subst hsame
          rw [Function.update_self] at hcall'
          cases hcall'
        · rw [Function.update_of_ne hsame] at hcall'
          exact h.stops call' starts' hcall' }

theorem inv_takeSample (h : s.Inv) : s.takeSample.Inv := by
  unfold takeSample
  split
  · exact h
  next x hqueue =>
    have hav := h.available x hqueue
    exact {
      ordered := List.pairwise_append.2 ⟨h.ordered, List.pairwise_singleton _ _, fun y hy z hz => by
        rw [List.mem_singleton.1 hz]
        exact hav.increasing y hy⟩
      available := nofun
      stopped := fun _ => rfl
      producer := producerOk_emptied h.producer
      numbered := h.numbered
      taken := fun y hy => by
        rcases List.mem_append.1 hy with hy | hy
        · exact h.taken y hy
        · rw [List.mem_singleton.1 hy]
          exact ⟨x.sequence, hav.newest, Nat.le_refl _⟩
      disabled := h.disabled
      stops := h.stops }

/-- The producer goes on to another place without touching the queue. -/
theorem inv_producer (h : s.Inv) {task : ProducerTask} (htask : s.ProducerOk task) :
    ({ s with producer := task } : SampleSection).Inv where
  ordered := h.ordered
  available x hx :=
    have hav := h.available x hx
    hav.of_frame rfl rfl hav.current
  stopped := h.stopped
  producer := htask.of_frame rfl rfl (Nat.le_refl _) (fun _ => id) id
  numbered := h.numbered
  taken := h.taken
  disabled := h.disabled
  stops := h.stops

/-- A measurement has succeeded. -/
theorem inv_measured (h : s.Inv) {start : SampleStart} (hstart : s.Within start) :
    ({ s with
        sequence := s.sequence + 1
        producer := .storing .put ⟨s.sequence, start, s.stops⟩ } : SampleSection).Inv where
  ordered := h.ordered
  available x hx :=
    have hav := h.available x hx
    hav.of_frame rfl rfl hav.current
  stopped := h.stopped
  producer := ⟨⟨Nat.lt_succ_self _, h.numbered, hstart, hstart.1, Nat.le_refl _⟩, nofun⟩
  numbered n hn := Nat.lt_succ_of_lt (h.numbered n hn)
  taken := h.taken
  disabled := h.disabled
  stops := h.stops

/-- A sample is put into the queue. -/
theorem inv_put (h : s.Inv) {x : MonitorSample} (hx : s.Storing x)
    (huninterrupted : s.Uninterrupted x) : (s.put x).Inv where
  ordered := h.ordered
  available y hy := by
    obtain rfl := Option.some.inj hy
    obtain ⟨henabled, hstops⟩ := huninterrupted
    refine ⟨fun y hy => ?_, rfl, ⟨henabled, ?_⟩, fun _ => hstops⟩
    · obtain ⟨n, hn, hle⟩ := h.taken y hy
      exact Nat.lt_of_le_of_lt hle (hx.newer n hn)
    · exact Nat.le_antisymm (hstops ▸ hx.ended.2) hx.ended.1
  stopped hstopped := by
    have henabled := hx.within.2 huninterrupted.1 huninterrupted.2
    rw [h.disabled hstopped] at henabled
    cases henabled
  producer := trivial
  numbered n hn := by
    obtain rfl := Option.some.inj hn
    exact hx.numbered
  taken y hy := by
    obtain ⟨n, hn, hle⟩ := h.taken y hy
    exact ⟨x.sequence, rfl, Nat.le_trans hle (Nat.le_of_lt (hx.newer n hn))⟩
  disabled := h.disabled
  stops := h.stops

/-- The producer takes the old sample out of the queue, if it is still there. -/
theorem inv_evict (h : s.Inv) {x : MonitorSample} (hx : s.Storing x) :
    ({ s with queue := none, producer := .storing .putAgain x } : SampleSection).Inv where
  ordered := h.ordered
  available := nofun
  stopped _ := rfl
  producer := ⟨⟨hx.numbered, hx.newer, hx.within, hx.ended⟩, fun _ => rfl⟩
  numbered := h.numbered
  taken := h.taken
  disabled := h.disabled
  stops := h.stops

theorem inv_produce (h : s.Inv) (due : Bool) (nowNs : Int) (success : Bool)
    (hputs : ∀ x, s.puts = some x → s.Uninterrupted x) : (s.produce due nowNs success).Inv := by
  have hprod := h.producer
  unfold produce
  split
  next =>
    split
    · exact inv_producer h trivial
    · exact h
  next => exact inv_producer h ⟨Nat.le_refl _, fun henabled _ => henabled⟩
  next start htask =>
    rw [htask] at hprod
    split
    next => exact inv_measured h hprod
    next => exact inv_producer h trivial
  next stage x htask =>
    rw [htask] at hprod
    cases stage with
    | put =>
      unfold storeSample
      dsimp only
      split
      next hqueue => exact inv_put h hprod.1 (hputs x (by rw [puts, htask, hqueue]))
      next => exact inv_producer h ⟨hprod.1, nofun⟩
    | evict => exact inv_evict h hprod.1
    | putAgain =>
      have hqueue := hprod.2 rfl
      unfold storeSample
      rw [hqueue]
      exact inv_put h hprod.1 (hputs x (by rw [puts, htask, hqueue]))

theorem inv_step (s : SampleSection) (a : SectionAction) (h : s.Inv) (ha : s.Undisturbed a) :
    (s.step a).Inv := by
  cases a with
  | start => exact inv_startSection h ha
  | stop call => exact inv_stopSection h call
  | empty call => exact inv_emptyQueue h call
  | produce due nowNs success => exact inv_produce h due nowNs success ha
  | take => exact inv_takeSample h

/-- **The mailbox of a section.** In every run of the producer, of calls that start and stop the
section and of the forwarder, in which no sample is stored whose measurement a stop has interrupted
and no start takes effect before a stop has emptied the queue, in every state: the samples taken so
far are in order; the sample that is available is the newest that was stored, newer than all that
were taken, measured while the section was enabled and, if the section is enabled now, begun after
the last stop; and none is available once a stop has returned that no start has followed. -/
theorem mailbox_holds (as : List SectionAction) (h : Meets step Undisturbed {} as) :
    ∀ pre, pre <+: as → (run step {} pre).Holds := fun _ hpre =>
  (run_invariant_along inv_step inv_init h hpre).toHolds

/-- The steps of a measurement that succeeds, from the look at the section to the store. -/
def measurement (nowNs : Int) : List SectionAction :=
  List.replicate 4 (.produce true nowNs true)

/-- A sample is stored, and the section stopped afterwards. -/
theorem mailbox_holds_stopped :
    (run step {} (.start :: measurement 7 ++ [.stop 0, .empty 0, .empty 0])).Holds :=
  mailbox_holds (.start :: measurement 7 ++ [.stop 0, .empty 0, .empty 0]) (by decide +kernel) _
    List.prefix_rfl

/-- A stop returns while a measurement is under way. The sample is then available in the stopped
section, and after the next start, which it was begun before. -/
theorem sample_after_stop :
    let stopped : List SectionAction := [.start, .produce true 7 true, .produce true 7 true,
      .stop 0, .empty 0, .produce true 9 true, .produce true 9 true]
    (run step {} stopped).stopped = true ∧
      (run step {} stopped).queue = some ⟨0, ⟨7, 0, true⟩, 1⟩ ∧
      (run step {} (stopped ++ [.start, .take])).taken = [⟨0, ⟨7, 0, true⟩, 1⟩] ∧
      ¬(run step {} stopped).Holds := by
  intro stopped
  refine ⟨by decide, by decide, by decide, fun h => ?_⟩
  have hempty := h.stopped (by decide)
  exact absurd hempty (by decide)

end SampleSection

end MultiDAQ.Client
